import Mathlib.Data.List.Destutter
import PagedMemory.Proofs.Call
import PagedMemory.Proofs.Memory.Work

/-! What a call site bets on. A site that holds an accessor bets that the next call is for
the same space, in the same generation, and for a page of the same kind. A call that loses
the bet relinks, once; a call that wins it, or with nothing at stake, does not. So the cache
is a machine with the last bet for its state, and what it counts can be told from the calls
alone. -/

set_option autoImplicit false

namespace PagedMemory

structure Bet where
  space : SpaceId
  generation : Nat
  kind : PageKind
  deriving DecidableEq, Repr

/-- What an access to a page comes to in the current table; nothing if it is not mapped. -/
def Memory.target? (m : Memory) (s : SpaceId) (p : PageId) : Option Bet :=
  ((m.table s).page? p).map fun page => ⟨s, (m.table s).generation, page.kind⟩

def Guard.bet (g : Guard) : Bet := ⟨g.owner, g.table.generation, g.kind⟩

inductive Deed where
  | unlinked
  | called (target : Option Bet) (ok : Bool)
  deriving DecidableEq, Repr

/-- What deeds make of a call site: its bet, and how often it lost one. -/
structure Shadow where
  bet : Option Bet := none
  relinks : Nat := 0
  deriving DecidableEq, Repr

namespace Shadow

def wins (w : Shadow) (target : Option Bet) : Bool := w.bet.isSome && w.bet == target

def loses (w : Shadow) (target : Option Bet) : Bool := w.bet.isSome && w.bet != target

def after (w : Shadow) : Deed → Shadow
  | .unlinked => { w with bet := none }
  | .called target ok =>
    ⟨if ok then target else none, w.relinks + if w.loses target then 1 else 0⟩

def run (w : Shadow) (deeds : List Deed) : Shadow := deeds.foldl after w

variable {w : Shadow} {target : Option Bet}

theorem run_append (w : Shadow) (deeds more : List Deed) :
    w.run (deeds ++ more) = (w.run deeds).run more := List.foldl_append

theorem relinks_after_le (w : Shadow) (d : Deed) : (w.after d).relinks ≤ w.relinks + 1 := by
  cases d with
  | unlinked => exact Nat.le_succ _
  | called target ok =>
    simp only [after]
    split <;> omega

theorem relinks_run_le (w : Shadow) (deeds : List Deed) :
    (w.run deeds).relinks ≤ w.relinks + deeds.length := by
  induction deeds generalizing w with
  | nil => exact Nat.le_refl _
  | cons d deeds ih =>
    have hfirst := w.relinks_after_le d
    have hrest := ih (w.after d)
    simp only [run, List.foldl_cons, List.length_cons] at hrest ⊢
    omega

theorem after_after (w : Shadow) (d : Deed) : (w.after d).after d = w.after d := by
  cases d with
  | unlinked => rfl
  | called target ok =>
    cases ok with
    | false => simp [after, loses]
    | true => cases target <;> simp [after, loses]

theorem run_destutter' (d : Deed) (deeds : List Deed) (w : Shadow) :
    w.run (deeds.destutter' (· ≠ ·) d) = w.run (d :: deeds) := by
  induction deeds generalizing d w with
  | nil => rfl
  | cons e deeds ih =>
    by_cases h : d = e
    · subst h
      rw [List.destutter'_cons_neg deeds (not_not.mpr rfl), ih]
      simp only [run, List.foldl_cons, after_after]
    · rw [List.destutter'_cons_pos _ h, run, List.foldl_cons]
      exact ih e (w.after d)

/-- However long a site goes on with the same, it is as if it was done once. -/
theorem run_destutter (w : Shadow) (deeds : List Deed) :
    w.run (deeds.destutter (· ≠ ·)) = w.run deeds := by
  cases deeds with
  | nil => rfl
  | cons d deeds => exact run_destutter' d deeds w

end Shadow

namespace Memory

variable {m m' : Memory} {s : SpaceId}

theorem SameTables.target? (h : SameTables m m') (s : SpaceId) (p : PageId) :
    m'.target? s p = m.target? s p := by
  rw [Memory.target?, Memory.target?, h.table]

theorem target?_of_page {p : PageId} {page : Page} (h : (m.table s).page? p = some page) :
    m.target? s p = some ⟨s, (m.table s).generation, page.kind⟩ := by
  rw [target?, h, Option.map_some]

end Memory

/-- An accessor serves a page exactly when its bet is what the access comes to. -/
theorem Guard.isSome_served? {m : Memory} {s : SpaceId} {g : Guard} (hm : m.Sound)
    (hg : m.Past g.owner g.table) (p : PageId) :
    (g.served? m s p).isSome = true ↔ m.target? s p = some g.bet := by
  constructor
  · intro h
    obtain ⟨page, hp⟩ := Option.isSome_iff_exists.mp h
    obtain ⟨ho, ht, hpage, hkind⟩ := (served?_eq_some_iff hm hg).mp hp
    rw [Memory.target?_of_page hpage, bet, ho, ht, hkind]
  · intro h
    obtain ⟨page, hpage, hbet⟩ := Option.map_eq_some_iff.mp h
    simp only [bet, Bet.mk.injEq] at hbet
    obtain ⟨rfl, hgeneration, hkind⟩ := hbet
    -- A table of the past that has the generation of the current one is the current one.
    have ht : g.table = m.table g.owner := by
      rcases hg.mark with h | ⟨hlt, _⟩
      · exact h
      · omega
    rw [(served?_eq_some_iff hm hg).mpr ⟨rfl, ht, hpage, hkind⟩]
    rfl

theorem Guard.target?_ne_of_stale {m : Memory} {s : SpaceId} {g : Guard} (hm : m.Sound)
    (hg : m.Past g.owner g.table) {p : PageId} (h : g.served? m s p = none) :
    m.target? s p ≠ some g.bet := by
  intro ht
  have hs := (isSome_served? hm hg p).mpr ht
  simp [h] at hs

instance {op : Operation} {sh : Shape} : Decidable (op.Serves sh) :=
  decidable_of_iff (op.verb = sh.verb ∧ .element ∈ op.namespaces ∧ op.target = some sh.target)
    ⟨fun ⟨hv, he, ht⟩ => ⟨hv, he, ht⟩, fun ⟨hv, he, ht⟩ => ⟨hv, he, ht⟩⟩

namespace CallSite

variable {sh : Shape} {site : CallSite sh} {m : Memory} {s : SpaceId} {args : sh.Args}

def shadow (site : CallSite sh) : Shadow := ⟨site.linked.map Guard.bet, site.relinks⟩

theorem shadow_ofName {name : String} (h : CallSite.ofName sh name = .ok site) :
    site.shadow = {} := by
  unfold ofName at h
  split at h
  · cases h
    rfl
  · contradiction

theorem work_discard (site : CallSite sh) (m : Memory) (s : SpaceId) :
    m.Work s [.relink] (site.discard m s).2 := by
  -- The line is noted between the two, where it makes no difference to either.
  have h := (Memory.work_say m s (.relinking site.name (m.number s) (site.relinks + 1))).report
    (.relinked (m.number s) site.name (site.relinks + 1)) rfl (fun _ h => by contradiction) rfl
  exact h

def resolved (site : CallSite sh) (ok : Bool) : List Countable :=
  if ok then [.link] else if site.operation.Serves sh then [] else [.linkRejected]

theorem work_relink (site : CallSite sh) (m : Memory) (s : SpaceId) (args : sh.Args) :
    m.Work s (site.resolved (site.relink m s args).1.isOk) (site.relink m s args).2 := by
  have h := Memory.work_link m s site.operation sh.signature (sh.values args)
  by_cases hop : site.operation.Serves sh
  · cases hk : (m.table s).kindOf? (sh.page args) with
    | some kind =>
      obtain ⟨m', hl, _⟩ := Memory.link_of_kind hop hk
      rw [hl] at h
      simpa [relink, hl, Linked.as?, resolved, Memory.resolved, Except.isOk, Except.toBool]
        using h
    | none =>
      obtain ⟨m', hl, _⟩ := Memory.link_of_none hop hk
      rw [hl] at h
      simpa [relink, hl, resolved, Memory.resolved, hop, Except.isOk, Except.toBool] using h
  · rw [relink_of_not_serves site hop]
    simpa [resolved, hop, Except.isOk, Except.toBool] using
      Memory.work_reject m s site.operation.text

variable {r : Except MemoryError sh.Output × CallSite sh × Memory}

theorem Settled.shadow (h : Settled s args site m r) (hl : site.linked = none) :
    r.2.1.shadow =
      ⟨if r.1.isOk then m.target? s (sh.page args) else none, site.relinks⟩ := by
  cases h with
  | linked hp hr =>
    rw [Memory.target?_of_page hp]
    rfl
  | failed hr =>
    rw [CallSite.shadow, hl]
    rfl

theorem Settled.work (h : Settled s args site m r) :
    m.Work s (site.resolved r.1.isOk) r.2.2 := by
  have hw := work_relink site m s args
  cases h with
  | linked hp hr =>
    rw [hr] at hw
    simpa [resolved, Except.isOk, Except.toBool] using
      hw.trans (Memory.work_perform _ s _ sh args)
  | failed hr =>
    rw [hr] at hw
    exact hw

theorem shadow_call (hm : m.Sound) (hb : site.Bound m.Past) (s : SpaceId) (args : sh.Args) :
    (site.call m s args).2.1.shadow = site.shadow.after
      (.called (m.target? s (sh.page args)) (site.call m s args).1.isOk) := by
  have hcall := called_call hm site s args
  generalize site.call m s args = r at hcall
  cases hcall with
  | @served g p hl hp =>
    have ht := (Guard.isSome_served? hm (hb g hl) _).mp (Option.isSome_of_eq_some hp)
    simp [CallSite.shadow, Shadow.after, Shadow.loses, hl, ht, Except.isOk, Except.toBool]
  | unlinked hl h =>
    rw [h.shadow hl]
    simp [CallSite.shadow, Shadow.after, Shadow.loses, hl]
  | @stale g r hl hp h =>
    have ht := Guard.target?_ne_of_stale hm (hb g hl) hp
    have hd := Memory.sameTables_of_storage_eq (storage_discard site m s)
    rw [h.shadow rfl, hd.target?]
    simp [CallSite.shadow, Shadow.after, Shadow.loses, hl, Ne.symm ht, discard]

/-- What a call counts: a lost bet, and a resolution unless the bet was won. -/
def counted (site : CallSite sh) (target : Option Bet) (ok : Bool) : List Countable :=
  (if site.shadow.loses target then [.relink] else []) ++
    if site.shadow.wins target then [] else site.resolved ok

theorem count_relink_counted (site : CallSite sh) (target : Option Bet) (ok : Bool) :
    (site.counted target ok).count .relink = if site.shadow.loses target then 1 else 0 := by
  have hresolved : (site.resolved ok).count .relink = 0 := by
    unfold resolved
    split
    · rfl
    · split <;> rfl
  rw [counted, List.count_append]
  cases site.shadow.loses target <;> cases site.shadow.wins target <;> simp [hresolved]

theorem count_link_counted (site : CallSite sh) {target : Option Bet} {ok : Bool}
    (h : ok = true → target.isSome = true) :
    (site.counted target ok).count .link = if ok ∧ site.shadow.bet ≠ target then 1 else 0 := by
  have hlost : (if site.shadow.loses target then [Countable.relink] else []).count .link = 0 := by
    split <;> rfl
  rw [counted, List.count_append, hlost, Nat.zero_add]
  cases ok with
  | false =>
    cases site.shadow.wins target with
    | true => rfl
    | false =>
      by_cases hop : site.operation.Serves sh
      · simp [resolved, hop]
      · simp [resolved, hop]
  | true =>
    obtain ⟨bet, rfl⟩ := Option.isSome_iff_exists.mp (h rfl)
    by_cases hbet : site.shadow.bet = some bet
    · simp [Shadow.wins, hbet]
    · simp [Shadow.wins, hbet, resolved]

theorem work_call (hm : m.Sound) (hb : site.Bound m.Past) (s : SpaceId) (args : sh.Args) :
    m.Work s (site.counted (m.target? s (sh.page args)) (site.call m s args).1.isOk)
      (site.call m s args).2.2 := by
  have hcall := called_call hm site s args
  generalize site.call m s args = r at hcall
  cases hcall with
  | @served g p hl hp =>
    have ht := (Guard.isSome_served? hm (hb g hl) _).mp (Option.isSome_of_eq_some hp)
    simpa [counted, CallSite.shadow, Shadow.loses, Shadow.wins, hl, ht] using
      Memory.work_perform m s p sh args
  | unlinked hl h =>
    simpa [counted, CallSite.shadow, Shadow.loses, Shadow.wins, hl] using h.work
  | @stale g r hl hp h =>
    have ht := Guard.target?_ne_of_stale hm (hb g hl) hp
    have hw := (work_discard site m s).trans h.work
    have hresolved : ∀ ok, (site.discard m s).1.resolved ok = site.resolved ok := fun _ => rfl
    simpa [counted, CallSite.shadow, Shadow.loses, Shadow.wins, hl, Ne.symm ht, hresolved]
      using hw

theorem counts_call (hm : m.Sound) (hb : site.Bound m.Past) (s : SpaceId) (args : sh.Args) :
    m.Counts s (site.counted (m.target? s (sh.page args)) (site.call m s args).1.isOk)
      (site.call m s args).2.2 := (work_call hm hb s args).counts

theorem isSome_target?_of_ok (hm : m.Sound) (hb : site.Bound m.Past) (s : SpaceId)
    (args : sh.Args) (h : (site.call m s args).1.isOk = true) :
    (m.target? s (sh.page args)).isSome = true := by
  obtain ⟨_, hl⟩ := call_spec s args hm hb
  generalize site.call m s args = r at h hl
  obtain ⟨answer, site', m'⟩ := r
  cases answer with
  | error e => contradiction
  | ok v =>
    obtain ⟨p, hp, _⟩ := hl
    rw [Memory.target?_of_page hp]
    rfl

end CallSite

end PagedMemory
