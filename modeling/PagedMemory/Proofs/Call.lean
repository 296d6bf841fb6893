import PagedMemory.Proofs.Access

/-! Calls through call sites. A supported call answers what the plain path answers and
leaves the same storage, whatever its cache holds; it leaves the site linked for the page
it was about, or unlinked if there is none. -/

set_option autoImplicit false

namespace PagedMemory

structure Operation.Serves (op : Operation) (sh : Shape) : Prop where
  verb : op.verb = sh.verb
  element : Namespace.element ∈ op.namespaces
  target : op.target = some sh.target

namespace Shape

theorem classify_of_serves {op : Operation} {sh : Shape} (h : op.Serves sh) :
    classify op sh.signature = some sh := by
  obtain ⟨hv, he, ht⟩ := h
  have hn : op.hasNamespace .element = true := by simpa [Operation.hasNamespace] using he
  unfold classify
  rw [if_pos hn, hv, ht]
  cases sh with
  | getElement => rfl
  | setElement => rfl
  | lookupPage => rfl

theorem accepts_values (sh : Shape) (args : sh.Args) :
    sh.signature.accepts (sh.values args) = true := by
  cases sh with
  | getElement => rfl
  | setElement => rfl
  | lookupPage => rfl

theorem request?_of_serves {op : Operation} {sh : Shape} (h : op.Serves sh) (args : sh.Args) :
    request? op sh.signature (sh.values args) = some (sh, sh.page args, sh.fault args) := by
  simp only [request?, classify_of_serves h, accepts_values, Option.bind_eq_bind,
    Option.bind_some, if_pos]
  cases sh with
  | getElement => rfl
  | setElement => rfl
  | lookupPage => rfl

theorem signature_injective {sh sh' : Shape} (h : sh.signature = sh'.signature) : sh = sh' := by
  revert h
  cases sh <;> cases sh' <;> decide

theorem serves_of_classify {op : Operation} {sh sh' : Shape}
    (h : classify op sh.signature = some sh') : op.Serves sh := by
  unfold classify at h
  split at h
  · rename_i hn
    have hfound := List.find?_some h
    simp only [Bool.and_eq_true, beq_iff_eq] at hfound
    obtain ⟨⟨hv, ht⟩, hs⟩ := hfound
    obtain rfl := signature_injective hs
    exact ⟨hv, by simpa [Operation.hasNamespace] using hn, ht⟩
  · contradiction

theorem request?_of_not_serves {op : Operation} {sh : Shape} (h : ¬ op.Serves sh)
    (args : sh.Args) : request? op sh.signature (sh.values args) = none := by
  have hc : classify op sh.signature = none := by
    cases hc : classify op sh.signature with
    | none => rfl
    | some sh' => exact absurd (serves_of_classify hc) h
  simp only [request?, hc, Option.bind_eq_bind, Option.bind_none]

end Shape

namespace Memory

variable {m : Memory} {s : SpaceId} {sh : Shape} {args : sh.Args} {op : Operation}

theorem link_of_kind (h : op.Serves sh) {kind : PageKind}
    (hk : (m.table s).kindOf? (sh.page args) = some kind) :
    ∃ m', m.link s op sh.signature (sh.values args) =
      (.ok (some ⟨sh, s, m.table s, kind⟩), m') ∧ m'.storage = m.storage := by
  simp only [link, Shape.request?_of_serves h, hk]
  exact ⟨_, rfl, by simp⟩

theorem link_of_none (h : op.Serves sh) (hk : (m.table s).kindOf? (sh.page args) = none) :
    ∃ m', m.link s op sh.signature (sh.values args) = (.error (sh.fault args), m') ∧
      m'.storage = m.storage := by
  simp only [link, Shape.request?_of_serves h, hk]
  exact ⟨_, rfl, by simp⟩

theorem guard_of_link {sig : Signature} {vs : List Value} {l : Linked}
    (h : (m.link s op sig vs).1 = .ok (some l)) :
    s < m.spaces.size ∧ ∃ kind, l.guard = ⟨s, m.table s, kind⟩ := by
  unfold link at h
  split at h
  · simp at h
  · rename_i sh' page fault _
    dsimp only at h
    split at h
    · simp at h
    · rename_i kind hk
      simp only [Except.ok.injEq, Option.some.injEq] at h
      exact ⟨lt_size_of_kind hk, kind, by rw [← h]⟩

theorem link_of_not_serves (h : ¬ op.Serves sh) :
    m.link s op sh.signature (sh.values args) = (.ok none, m.reject s op.text) := by
  simp only [link, Shape.request?_of_not_serves h]

end Memory

namespace CallSite

variable {sh : Shape} {site : CallSite sh} {m : Memory} {s : SpaceId} {args : sh.Args}

theorem relink_of_kind (site : CallSite sh) (h : site.operation.Serves sh) {kind : PageKind}
    (hk : (m.table s).kindOf? (sh.page args) = some kind) :
    ∃ m', site.relink m s args = (.ok { site with linked := some ⟨s, m.table s, kind⟩ }, m') ∧
      m'.storage = m.storage := by
  obtain ⟨m', hl, hs⟩ := Memory.link_of_kind h hk
  refine ⟨m', ?_, hs⟩
  simp [relink, hl, Linked.as?]

theorem relink_of_none (site : CallSite sh) (h : site.operation.Serves sh)
    (hk : (m.table s).kindOf? (sh.page args) = none) :
    ∃ m', site.relink m s args = (.error (sh.fault args), m') ∧ m'.storage = m.storage := by
  obtain ⟨m', hl, hs⟩ := Memory.link_of_none h hk
  refine ⟨m', ?_, hs⟩
  simp [relink, hl]

def unsupported (site : CallSite sh) : MemoryError :=
  .unsupportedOperation site.name s!"no implementation for {sh.signature.text}"

theorem relink_of_not_serves (site : CallSite sh) (h : ¬ site.operation.Serves sh) :
    site.relink m s args = (.error site.unsupported, m.reject s site.operation.text) := by
  simp only [relink, Memory.link_of_not_serves h, unsupported]

/-- A site that could be linked is supported, and linked for the page at hand. -/
theorem eq_of_relink {site' : CallSite sh} (h : (site.relink m s args).1 = .ok site') :
    site.operation.Serves sh ∧ ∃ kind, (m.table s).kindOf? (sh.page args) = some kind ∧
      site' = { site with linked := some ⟨s, m.table s, kind⟩ } := by
  by_cases hop : site.operation.Serves sh
  · cases hk : (m.table s).kindOf? (sh.page args) with
    | some kind =>
      obtain ⟨m', hr, _⟩ := relink_of_kind site hop hk
      rw [hr] at h
      exact ⟨hop, kind, rfl, (Except.ok.inj h).symm⟩
    | none =>
      obtain ⟨m', hr, _⟩ := relink_of_none site hop hk
      rw [hr] at h
      contradiction
  · rw [relink_of_not_serves site hop] at h
    contradiction

/-- What a call through a site may fail with: that the page is not mapped if the site is
supported, and that it is not supported if it is not. -/
def FailsWith (site : CallSite sh) (args : sh.Args) (e : MemoryError) : Prop :=
  (site.operation.Serves sh ∧ e = sh.fault args) ∨
    (¬ site.operation.Serves sh ∧ e = site.unsupported)

theorem failsWith_relink {e : MemoryError} (h : (site.relink m s args).1 = .error e) :
    site.FailsWith args e := by
  by_cases hop : site.operation.Serves sh
  · cases hk : (m.table s).kindOf? (sh.page args) with
    | some kind =>
      obtain ⟨m', hr, _⟩ := relink_of_kind site hop hk
      rw [hr] at h
      contradiction
    | none =>
      obtain ⟨m', hr, _⟩ := relink_of_none site hop hk
      rw [hr] at h
      cases h
      exact .inl ⟨hop, rfl⟩
  · rw [relink_of_not_serves site hop] at h
    cases h
    exact .inr ⟨hop, rfl⟩

/-- What a step of a call that is not over can do. -/
inductive Takes (s : SpaceId) (args : sh.Args) (site : CallSite sh) (m : Memory) :
    Stage sh.Output → Stage sh.Output × CallSite sh × Memory → Prop where
  | unlinked (hl : site.linked = none) : Takes s args site m .invoke (.resolve, site, m)
  | served {g : Guard} {p : Page} (hl : site.linked = some g)
      (hp : g.served? m s (sh.page args) = some p) :
      Takes s args site m .invoke
        (.done (.ok (m.perform p sh args).1), site, (m.perform p sh args).2)
  | stale {g : Guard} (hl : site.linked = some g) (hp : g.served? m s (sh.page args) = none) :
      Takes s args site m .invoke (.resolve, site.discard m s)
  | linked {kind : PageKind} {m' : Memory} (hk : (m.table s).kindOf? (sh.page args) = some kind)
      (hr : site.relink m s args = (.ok { site with linked := some ⟨s, m.table s, kind⟩ }, m')) :
      Takes s args site m .resolve
        (.invoke, { site with linked := some ⟨s, m.table s, kind⟩ }, m')
  | failed {e : MemoryError} {m' : Memory} (hr : site.relink m s args = (.error e, m')) :
      Takes s args site m .resolve (.done (.error e), site, m')

theorem takes_step (s : SpaceId) (args : sh.Args) (site : CallSite sh) (m : Memory)
    (stage : Stage sh.Output) (hstage : ∀ answer, stage ≠ .done answer) :
    Takes s args site m stage (step s args stage site m) := by
  cases stage with
  | done answer => exact absurd rfl (hstage answer)
  | invoke =>
    cases hl : site.linked with
    | none =>
      simp only [step, hl]
      exact .unlinked hl
    | some g =>
      cases hp : g.served? m s (sh.page args) with
      | none =>
        simp only [step, hl, Memory.invoke_of_not_served hp]
        exact .stale hl hp
      | some p =>
        simp only [step, hl, Memory.invoke_of_served hp]
        exact .served hl hp
  | resolve =>
    cases hr : site.relink m s args with
    | mk answer m' =>
      cases answer with
      | error e =>
        simp only [step, hr]
        exact .failed hr
      | ok site' =>
        have hlinked : (site.relink m s args).1 = .ok site' := by rw [hr]
        obtain ⟨_, kind, hk, rfl⟩ := eq_of_relink hlinked
        simp only [step, hr]
        exact .linked hk hr

theorem steps_done (n : Nat) (answer : Except MemoryError sh.Output) :
    steps s args n (.done answer) site m = (.done answer, site, m) := by
  cases n with
  | zero => rfl
  | succ n => rfl

theorem steps_succ (n : Nat) {stage : Stage sh.Output} (h : ∀ answer, stage ≠ .done answer) :
    steps s args (n + 1) stage site m =
      steps s args n (step s args stage site m).1 (step s args stage site m).2.1
        (step s args stage site m).2.2 := by
  cases stage with
  | done answer => exact absurd rfl (h answer)
  | invoke => rfl
  | resolve => rfl

theorem steps_invoke_unlinked (hl : site.linked = none) (n : Nat) :
    steps s args (n + 1) .invoke site m = steps s args n .resolve site m := by
  simp only [steps, step, hl]

theorem steps_invoke_served {g : Guard} (hl : site.linked = some g) {p : Page}
    (hp : g.served? m s (sh.page args) = some p) (n : Nat) :
    steps s args (n + 1) .invoke site m =
      (.done (.ok (m.perform p sh args).1), site, (m.perform p sh args).2) := by
  simp only [steps, step, hl, Memory.invoke_of_served hp, steps_done]

theorem steps_invoke_stale {g : Guard} (hl : site.linked = some g)
    (hp : g.served? m s (sh.page args) = none) (n : Nat) :
    steps s args (n + 1) .invoke site m =
      steps s args n .resolve (site.discard m s).1 (site.discard m s).2 := by
  simp only [steps, step, hl, Memory.invoke_of_not_served hp]

theorem call_of_steps {answer : Except MemoryError sh.Output} {site' : CallSite sh}
    {m' : Memory} (h : steps s args 3 .invoke site m = (.done answer, site', m')) :
    site.call m s args = (answer, site', m') := by
  simp only [call, h]

/-- How a call can go on from resolution: a fresh accessor is served. -/
inductive Settled (s : SpaceId) (args : sh.Args) (site : CallSite sh) (m : Memory) :
    Except MemoryError sh.Output × CallSite sh × Memory → Prop where
  | linked {p : Page} {m' : Memory} (hp : (m.table s).page? (sh.page args) = some p)
      (hr : site.relink m s args =
        (.ok { site with linked := some ⟨s, m.table s, p.kind⟩ }, m')) :
      Settled s args site m (.ok (m'.perform p sh args).1,
        { site with linked := some ⟨s, m.table s, p.kind⟩ }, (m'.perform p sh args).2)
  | failed {e : MemoryError} {m' : Memory} (hr : site.relink m s args = (.error e, m')) :
      Settled s args site m (.error e, site, m')

theorem settled_steps (hm : m.Sound) (site : CallSite sh) (s : SpaceId) (args : sh.Args)
    (n : Nat) : ∃ answer site' m',
      steps s args (n + 2) .resolve site m = (.done answer, site', m') ∧
        Settled s args site m (answer, site', m') := by
  have hs := storage_relink site m s args
  have hstep := takes_step s args site m .resolve fun _ h => by contradiction
  rw [steps_succ _ fun _ h => by contradiction]
  generalize step s args .resolve site m = r at hstep
  cases hstep with
  | failed hr => exact ⟨_, _, _, steps_done _ _, .failed hr⟩
  | linked hk hr =>
    rw [hr] at hs
    rw [(hm.aligned s).kindOf?] at hk
    obtain ⟨p, hp, rfl⟩ := Option.map_eq_some_iff.mp hk
    have hserved := Guard.fresh_served? hm (Memory.sameTables_of_storage_eq hs) hp
    exact ⟨_, _, _, steps_invoke_served rfl hserved n, .linked hp hr⟩

inductive Called (s : SpaceId) (args : sh.Args) (site : CallSite sh) (m : Memory) :
    Except MemoryError sh.Output × CallSite sh × Memory → Prop where
  | served {g : Guard} {p : Page} (hl : site.linked = some g)
      (hp : g.served? m s (sh.page args) = some p) :
      Called s args site m (.ok (m.perform p sh args).1, site, (m.perform p sh args).2)
  | unlinked {r : Except MemoryError sh.Output × CallSite sh × Memory}
      (hl : site.linked = none) (h : Settled s args site m r) : Called s args site m r
  | stale {g : Guard} {r : Except MemoryError sh.Output × CallSite sh × Memory}
      (hl : site.linked = some g) (hp : g.served? m s (sh.page args) = none)
      (h : Settled s args (site.discard m s).1 (site.discard m s).2 r) :
      Called s args site m r

theorem called_call (hm : m.Sound) (site : CallSite sh) (s : SpaceId) (args : sh.Args) :
    Called s args site m (site.call m s args) := by
  cases hl : site.linked with
  | none =>
    obtain ⟨answer, site', m', hr, hsettled⟩ := settled_steps hm site s args 0
    rw [call_of_steps ((steps_invoke_unlinked hl 2).trans hr)]
    exact .unlinked hl hsettled
  | some g =>
    cases hp : g.served? m s (sh.page args) with
    | some p =>
      rw [call_of_steps (steps_invoke_served hl hp 2)]
      exact .served hl hp
    | none =>
      have hd := Memory.sameTables_of_storage_eq (storage_discard site m s)
      obtain ⟨answer, site', m', hr, hsettled⟩ :=
        settled_steps (hm.of_sameTables hd) (site.discard m s).1 s args 0
      rw [call_of_steps ((steps_invoke_stale hl hp 2).trans hr)]
      exact .stale hl hp hsettled

/-- The accessor that a site holds was linked for a known table. -/
def Bound (K : SpaceId → PageTable → Prop) (site : CallSite sh) : Prop :=
  ∀ g, site.linked = some g → K g.owner g.table

theorem bound_ofName {K : SpaceId → PageTable → Prop} {name : String}
    (h : CallSite.ofName sh name = .ok site) : site.Bound K := by
  unfold ofName at h
  split at h
  · cases h
    intro g hg
    contradiction
  · contradiction

theorem parse_ofName {name : String} (h : CallSite.ofName sh name = .ok site) :
    Operation.parse site.name = .ok site.operation := by
  unfold ofName at h
  split at h
  · rename_i op hop
    cases h
    exact hop
  · contradiction

theorem Settled.of_page {r : Except MemoryError sh.Output × CallSite sh × Memory}
    (h : Settled s args site m r) (hm : m.Sound) (hop : site.operation.Serves sh) {p : Page}
    (hp : (m.table s).page? (sh.page args) = some p) :
    ∃ m', r = (.ok (m.perform p sh args).1,
        { site with linked := some ⟨s, m.table s, p.kind⟩ }, m') ∧
      m'.storage = (m.perform p sh args).2.storage := by
  have hs := storage_relink site m s args
  cases h with
  | @linked q m₁ hq hr =>
    obtain rfl := Option.some.inj (hq.symm.trans hp)
    rw [hr] at hs
    obtain ⟨hvalue, hstore⟩ := Memory.perform_of_storage_eq hs q sh args
    exact ⟨_, by rw [hvalue], hstore⟩
  | failed hr =>
    have hk : (m.table s).kindOf? (sh.page args) = some p.kind := by
      rw [(hm.aligned s).kindOf?, hp, Option.map_some]
    obtain ⟨m', hok, _⟩ := relink_of_kind site hop hk
    rw [hr] at hok
    simp at hok

theorem Settled.of_none {r : Except MemoryError sh.Output × CallSite sh × Memory}
    (h : Settled s args site m r) (hm : m.Sound) (hop : site.operation.Serves sh)
    (hp : (m.table s).page? (sh.page args) = none) :
    ∃ m', r = (.error (sh.fault args), site, m') ∧ m'.storage = m.storage := by
  cases h with
  | linked hq hr =>
    rw [hp] at hq
    contradiction
  | failed hr =>
    have hk : (m.table s).kindOf? (sh.page args) = none := by
      rw [(hm.aligned s).kindOf?, hp, Option.map_none]
    obtain ⟨m', hfault, hs⟩ := relink_of_none site hop hk
    rw [hr] at hfault
    cases hfault
    exact ⟨_, rfl, hs⟩

theorem call_of_page (hm : m.Sound) (hb : site.Bound m.Past) (hop : site.operation.Serves sh)
    {p : Page} (hp : (m.table s).page? (sh.page args) = some p) :
    ∃ n m', site.call m s args = (.ok (m.perform p sh args).1,
        { site with linked := some ⟨s, m.table s, p.kind⟩, relinks := site.relinks + n }, m') ∧
      m'.storage = (m.perform p sh args).2.storage := by
  have hcall := called_call hm site s args
  generalize site.call m s args = r at hcall
  cases hcall with
  | @served g q hl hserved =>
    obtain ⟨ho, ht, hq, hkind⟩ := (Guard.served?_eq_some_iff hm (hb g hl)).mp hserved
    obtain rfl := Option.some.inj (hq.symm.trans hp)
    have hg : g = ⟨s, m.table s, q.kind⟩ := by
      cases g
      simp_all
    refine ⟨0, _, ?_, rfl⟩
    rw [← hg, ← hl]
    rfl
  | unlinked hl h =>
    obtain ⟨m', rfl, hs⟩ := h.of_page hm hop hp
    exact ⟨0, m', rfl, hs⟩
  | stale hl hserved h =>
    have hd := storage_discard site m s
    have hp₁ : ((site.discard m s).2.table s).page? (sh.page args) = some p := by
      rw [Memory.table_congr hd, hp]
    obtain ⟨m', rfl, hs⟩ :=
      h.of_page (hm.of_sameTables (Memory.sameTables_of_storage_eq hd)) hop hp₁
    obtain ⟨hvalue, hstore⟩ := Memory.perform_of_storage_eq hd p sh args
    refine ⟨1, m', ?_, hs.trans hstore⟩
    rw [hvalue, Memory.table_congr hd]
    rfl

theorem call_of_none (hm : m.Sound) (hb : site.Bound m.Past) (hop : site.operation.Serves sh)
    (hp : (m.table s).page? (sh.page args) = none) :
    ∃ n m', site.call m s args = (.error (sh.fault args),
        { site with linked := none, relinks := site.relinks + n }, m') ∧
      m'.storage = m.storage := by
  have hcall := called_call hm site s args
  generalize site.call m s args = r at hcall
  cases hcall with
  | served hl hserved =>
    obtain ⟨_, _, hq, _⟩ := (Guard.served?_eq_some_iff hm (hb _ hl)).mp hserved
    rw [hp] at hq
    contradiction
  | unlinked hl h =>
    obtain ⟨m', rfl, hs⟩ := h.of_none hm hop hp
    refine ⟨0, m', ?_, hs⟩
    rw [← hl]
    rfl
  | stale hl hserved h =>
    have hd := storage_discard site m s
    have hp₁ : ((site.discard m s).2.table s).page? (sh.page args) = none := by
      rw [Memory.table_congr hd, hp]
    obtain ⟨m', rfl, hs⟩ :=
      h.of_none (hm.of_sameTables (Memory.sameTables_of_storage_eq hd)) hop hp₁
    exact ⟨1, m', rfl, hs.trans hd⟩

/-- What a call with this answer leaves in the memory: an error leaves the storage as it
was, a success what an access to the page leaves. -/
def Leaves (s : SpaceId) (args : sh.Args) (m m' : Memory) : Except MemoryError sh.Output → Prop
  | .ok v => ∃ p, (m.table s).page? (sh.page args) = some p ∧ v = (m.perform p sh args).1 ∧
      m'.storage = (m.perform p sh args).2.storage
  | .error _ => m'.storage = m.storage

def Stage.Leaves (s : SpaceId) (args : sh.Args) (m m' : Memory) : Stage sh.Output → Prop
  | .done answer => CallSite.Leaves s args m m' answer
  | _ => m'.storage = m.storage

/-- What a call may make of its site: it is still for the same operation, and its accessor
is the one it held before or one bound to the current table. -/
structure Follows (s : SpaceId) (m : Memory) (site site' : CallSite sh) : Prop where
  name : site'.name = site.name
  operation : site'.operation = site.operation
  linked : ∀ g, site'.linked = some g →
    site.linked = some g ∨ (s < m.spaces.size ∧ ∃ kind, g = ⟨s, m.table s, kind⟩)

variable {site' : CallSite sh} {m' : Memory}

theorem Follows.refl (s : SpaceId) (m : Memory) (site : CallSite sh) : Follows s m site site :=
  ⟨rfl, rfl, fun _ => .inl⟩

theorem Follows.trans {site'' : CallSite sh} (h : Follows s m site site')
    (ht : Memory.SameTables m m') (h' : Follows s m' site' site'') : Follows s m site site'' where
  name := h'.name.trans h.name
  operation := h'.operation.trans h.operation
  linked := by
    intro g hg
    rcases h'.linked g hg with hk | ⟨hlt, kind, hk⟩
    · exact h.linked g hk
    · rw [ht.spaces] at hlt
      rw [ht.table] at hk
      exact .inr ⟨hlt, kind, hk⟩

theorem Follows.bound (h : Follows s m site site') {K : SpaceId → PageTable → Prop}
    (hb : site.Bound K) (hK : s < m.spaces.size → K s (m.table s)) : site'.Bound K := by
  intro g hg
  rcases h.linked g hg with hk | ⟨hlt, kind, rfl⟩
  · exact hb g hk
  · exact hK hlt

theorem follows_discard (site : CallSite sh) (m : Memory) (s : SpaceId) :
    Follows s m site (site.discard m s).1 :=
  ⟨rfl, rfl, fun _ h => by simp [discard] at h⟩

theorem follows_relink (site : CallSite sh) (m : Memory) (s : SpaceId) (args : sh.Args)
    (h : (site.relink m s args).1 = .ok site') : Follows s m site site' := by
  obtain ⟨_, kind, hk, rfl⟩ := eq_of_relink h
  refine ⟨rfl, rfl, ?_⟩
  intro g hg
  exact .inr ⟨Memory.lt_size_of_kind hk, kind, (Option.some.inj hg).symm⟩

theorem leaves_of_storage_eq {m₁ : Memory} (hs : m₁.storage = m.storage)
    {stage : Stage sh.Output} (h : stage.Leaves s args m₁ m') : stage.Leaves s args m m' := by
  cases stage with
  | invoke => exact h.trans hs
  | resolve => exact h.trans hs
  | done answer =>
    cases answer with
    | error e => exact h.trans hs
    | ok v =>
      obtain ⟨p, hp, hv, hm'⟩ := h
      obtain ⟨hvalue, hstore⟩ := Memory.perform_of_storage_eq hs p sh args
      rw [Memory.table_congr hs] at hp
      exact ⟨p, hp, hv.trans hvalue, hm'.trans hstore⟩

/-- One step of a call that is not over yet. -/
theorem step_spec (s : SpaceId) (args : sh.Args) (hm : m.Sound) (hb : site.Bound m.Past)
    (stage : Stage sh.Output) (hstage : ∀ answer, stage ≠ .done answer) :
    Follows s m site (step s args stage site m).2.1 ∧
      (step s args stage site m).1.Leaves s args m (step s args stage site m).2.2 := by
  have hstep := takes_step s args site m stage hstage
  generalize step s args stage site m = r at hstep
  have hs := storage_relink site m s args
  cases hstep with
  | unlinked hl => exact ⟨.refl s m site, rfl⟩
  | served hl hp =>
    obtain ⟨_, _, hpage, _⟩ := (Guard.served?_eq_some_iff hm (hb _ hl)).mp hp
    exact ⟨.refl s m site, _, hpage, rfl, rfl⟩
  | stale hl hp => exact ⟨follows_discard site m s, storage_discard site m s⟩
  | linked hk hr =>
    rw [hr] at hs
    exact ⟨follows_relink site m s args (by rw [hr]), hs⟩
  | failed hr =>
    rw [hr] at hs
    exact ⟨.refl s m site, hs⟩

theorem steps_spec (s : SpaceId) (args : sh.Args) (n : Nat) (hm : m.Sound)
    (hb : site.Bound m.Past) (stage : Stage sh.Output)
    (hstage : ∀ answer, stage ≠ .done answer) :
    Follows s m site (steps s args n stage site m).2.1 ∧
      (steps s args n stage site m).1.Leaves s args m (steps s args n stage site m).2.2 := by
  induction n generalizing stage site m with
  | zero =>
    cases stage with
    | done answer => exact absurd rfl (hstage answer)
    | invoke => exact ⟨.refl s m site, rfl⟩
    | resolve => exact ⟨.refl s m site, rfl⟩
  | succ n ih =>
    obtain ⟨hf, hl⟩ := step_spec s args hm hb stage hstage
    rw [steps_succ n hstage]
    generalize step s args stage site m = r at hf hl
    obtain ⟨stage₁, site₁, m₁⟩ := r
    -- A stage that is not the last has only reported so far.
    have hnext : (∀ answer, stage₁ ≠ .done answer) → m₁.storage = m.storage →
        Follows s m site (steps s args n stage₁ site₁ m₁).2.1 ∧
          (steps s args n stage₁ site₁ m₁).1.Leaves s args m
            (steps s args n stage₁ site₁ m₁).2.2 := by
      intro hnot hs
      have htables := Memory.sameTables_of_storage_eq hs
      have hb₁ : site₁.Bound m₁.Past := fun g hg =>
        (hf.bound hb hm.past_table g hg).of_sameTables htables
      obtain ⟨hf₂, hl₂⟩ := ih (hm.of_sameTables htables) hb₁ stage₁ hnot
      exact ⟨hf.trans htables hf₂, leaves_of_storage_eq hs hl₂⟩
    cases stage₁ with
    | done answer =>
      rw [steps_done]
      exact ⟨hf, hl⟩
    | invoke => exact hnext (fun _ h => by contradiction) hl
    | resolve => exact hnext (fun _ h => by contradiction) hl

theorem call_spec (s : SpaceId) (args : sh.Args) (hm : m.Sound) (hb : site.Bound m.Past) :
    Follows s m site (site.call m s args).2.1 ∧
      Leaves s args m (site.call m s args).2.2 (site.call m s args).1 := by
  have h := steps_spec s args 3 hm hb .invoke (fun _ h => by contradiction)
  unfold call
  generalize steps s args 3 .invoke site m = r at h
  obtain ⟨stage₁, site₁, m₁⟩ := r
  cases stage₁ with
  | done answer => exact h
  | invoke => exact h
  | resolve => exact h

def stored (s : SpaceId) (args : sh.Args) : Except MemoryError sh.Output → List (Cell × Int32)
  | .ok _ => sh.stores s args
  | .error _ => []

theorem Leaves.evolves {answer : Except MemoryError sh.Output} (h : Leaves s args m m' answer) :
    Memory.Evolves m (stored s args answer) m' := by
  cases answer with
  | error e => exact Memory.evolves_of_storage_eq h
  | ok v =>
    obtain ⟨p, hp, _, hs⟩ := h
    exact (Memory.evolves_perform hp).advance (.reported hs)

theorem Leaves.sameTables {answer : Except MemoryError sh.Output}
    (h : Leaves s args m m' answer) : Memory.SameTables m m' := by
  cases answer with
  | error e => exact Memory.sameTables_of_storage_eq h
  | ok v =>
    obtain ⟨p, _, _, hs⟩ := h
    exact (Memory.sameTables_perform p sh args).trans (Memory.sameTables_of_storage_eq hs)

theorem Follows.past {w : List (Cell × Int32)} (h : Follows s m site site') (hm : m.Sound)
    (hb : site.Bound m.Past) (he : Memory.Evolves m w m') : site'.Bound m'.Past :=
  fun g hg => he.past hm (h.bound hb hm.past_table g hg)

end CallSite

end PagedMemory
