import PagedMemory.Proofs.Call.Speculation
import PagedMemory.Proofs.Session.Frame
import PagedMemory.Proofs.Session.Runs

/-! Relinks over whole runs. What is done with a call site can be read off the steps of a
run and their outcomes; a shadow that is moved by these deeds alone says at any time what the
site bets on and how often it has relinked. -/

set_option autoImplicit false

namespace PagedMemory

namespace Memory

def targetOf? (m : Memory) (s : SpaceId) (args : List Value) : Option Bet :=
  (args.head?.bind Value.pageRequest?).bind fun request => m.target? s request.1

/-- The deeds of a sweep that has reached `n` elements, and perhaps failed at the next. -/
def sweep (m : Memory) (s : SpaceId) (stride : UInt32) (stopped : Bool) :
    Nat → Address → List Deed
  | 0, a => if stopped then [.called (m.target? s (Address.page a)) false] else []
  | n + 1, a =>
    .called (m.target? s (Address.page a)) true :: m.sweep s stride stopped n (a + stride)

def deeds (m : Memory) : Step → Outcome → List Deed
  | .unlink _, .done => [.unlinked]
  | .call _ _ _, .misuse => []
  | .call _ s args, .failed _ => [.called (m.targetOf? s args) false]
  | .call _ s args, _ => [.called (m.targetOf? s args) true]
  | .fill _ s a stride count _ _, .filled _ => m.sweep s stride false count a
  | .fill _ s a stride _ _ _, .stopped place _ => m.sweep s stride true place a
  | .scan _ s a stride count, .scanned _ _ _ _ => m.sweep s stride false count a
  | .scan _ s a stride _, .stopped place _ => m.sweep s stride true place a
  | _, _ => []

theorem targetOf?_values (m : Memory) (s : SpaceId) (sh : Shape) (args : sh.Args) :
    m.targetOf? s (sh.values args) = m.target? s (sh.page args) := by
  cases sh with
  | getElement => rfl
  | setElement => rfl
  | lookupPage => rfl

theorem SameTables.sweep {m m' : Memory} (h : SameTables m m') (s : SpaceId) (stride : UInt32)
    (stopped : Bool) (n : Nat) (a : Address) :
    m'.sweep s stride stopped n a = m.sweep s stride stopped n a := by
  induction n generalizing a with
  | zero => simp only [Memory.sweep, h.target?]
  | succ n ih => simp only [Memory.sweep, h.target?, ih]

end Memory

namespace CallSite

variable {m : Memory} {s : SpaceId}

def sweepDeeds {α : Type} (m : Memory) (s : SpaceId) (stride : UInt32) (n i : Nat) (a : Address) :
    Except (Nat × MemoryError) α → List Deed
  | .ok _ => m.sweep s stride false n a
  | .error (place, _) => m.sweep s stride true (place - i) a

theorem sweepDeeds_succ {α : Type} {m' : Memory} (ht : Memory.SameTables m m') (s : SpaceId)
    (stride : UInt32) (n i : Nat) (a : Address) {answer : Except (Nat × MemoryError) α}
    (hplace : ∀ place e, answer = .error (place, e) → i + 1 ≤ place) :
    sweepDeeds m s stride (n + 1) i a answer =
      .called (m.target? s (Address.page a)) true ::
        sweepDeeds m' s stride n (i + 1) (a + stride) answer := by
  cases answer with
  | ok v => simp only [sweepDeeds, Memory.sweep, ht.sweep]
  | error e =>
    obtain ⟨place, e⟩ := e
    have hle := hplace place e rfl
    have hsucc : place - i = (place - (i + 1)) + 1 := by omega
    simp only [sweepDeeds, hsucc, Memory.sweep, ht.sweep]

theorem shadow_fill (s : SpaceId) (stride : UInt32) (increment : Int32) (n i : Nat) (a : Address)
    (v : Int32) (site : CallSite .setElement) (hm : m.Sound) (hb : site.Bound m.Past) :
    (site.fill s stride increment n i a v m).2.1.shadow =
      site.shadow.run (sweepDeeds m s stride n i a (site.fill s stride increment n i a v m).1) := by
  induction n generalizing i a v site m with
  | zero => rfl
  | succ n ih =>
    have hshadow := shadow_call hm hb s (a, v)
    have hcall := call_spec s (a, v) hm hb
    unfold fill
    generalize site.call m s (a, v) = r at hshadow hcall
    obtain ⟨answer, site₁, m₁⟩ := r
    obtain ⟨hf, hl⟩ := hcall
    cases answer with
    | error e =>
      simp only [sweepDeeds, Nat.sub_self]
      exact hshadow
    | ok u =>
      have hrest := ih (i + 1) (a + stride) (v + increment) site₁ (hl.evolves.sound hm)
        (hf.past hm hb hl.evolves)
      have hplace := (fill_spec s stride increment n (i + 1) (a + stride) (v + increment) site₁
        (hl.evolves.sound hm) (hf.past hm hb hl.evolves)).2.2
      dsimp only
      rw [hrest, hshadow, sweepDeeds_succ hl.sameTables s stride n i a hplace]
      rfl

theorem le_place_scan (s : SpaceId) (stride : UInt32) (n i : Nat) (a : Address)
    (site : CallSite .getElement) (m : Memory) {place : Nat} {e : MemoryError}
    (h : (site.scan s stride n i a m).1 = .error (place, e)) : i ≤ place := by
  induction n generalizing i a site m with
  | zero => contradiction
  | succ n ih =>
    unfold scan at h
    generalize site.call m s a = r at h
    obtain ⟨answer, site₁, m₁⟩ := r
    cases answer with
    | error e =>
      cases h
      exact Nat.le_refl _
    | ok v =>
      have hrest := ih (i + 1) (a + stride) site₁ m₁
      dsimp only at h
      generalize scan s stride n (i + 1) (a + stride) site₁ m₁ = r at h hrest
      obtain ⟨answer₂, site₂, m₂⟩ := r
      cases answer₂ with
      | ok vs => contradiction
      | error e =>
        cases h
        exact Nat.le_of_succ_le (hrest rfl)

theorem shadow_scan (s : SpaceId) (stride : UInt32) (n i : Nat) (a : Address)
    (site : CallSite .getElement) (hm : m.Sound) (hb : site.Bound m.Past) :
    (site.scan s stride n i a m).2.1.shadow =
      site.shadow.run (sweepDeeds m s stride n i a (site.scan s stride n i a m).1) := by
  induction n generalizing i a site m with
  | zero => rfl
  | succ n ih =>
    have hshadow := shadow_call hm hb s a
    have hcall := call_spec s a hm hb
    unfold scan
    generalize site.call m s a = r at hshadow hcall
    obtain ⟨answer, site₁, m₁⟩ := r
    obtain ⟨hf, hl⟩ := hcall
    cases answer with
    | error e =>
      simp only [sweepDeeds, Nat.sub_self]
      exact hshadow
    | ok v =>
      have hrest := ih (i + 1) (a + stride) site₁ (hl.evolves.sound hm)
        (hf.past hm hb hl.evolves)
      have hplace : ∀ place e, (scan s stride n (i + 1) (a + stride) site₁ m₁).1 =
          .error (place, e) → i + 1 ≤ place := fun place e => le_place_scan s stride n _ _ _ _
      have hdeeds := sweepDeeds_succ hl.sameTables s stride n i a hplace
      dsimp only at hrest hdeeds ⊢
      generalize scan s stride n (i + 1) (a + stride) site₁ m₁ = r at hrest hdeeds
      obtain ⟨answer₂, site₂, m₂⟩ := r
      rw [hshadow] at hrest
      cases answer₂ with
      | ok vs => exact hrest.trans (congrArg site.shadow.run hdeeds).symm
      | error e => exact hrest.trans (congrArg site.shadow.run hdeeds).symm

end CallSite

namespace Session

variable {K : SpaceId → PageTable → Prop} {x : Session} {l : Ledger}

def shadow (x : Session) (i : Nat) : Shadow :=
  match x.sites[i]? with
  | some kept => kept.2.shadow
  | none => {}

def deeds (x : Session) (i : Nat) : List Step → List Deed
  | [] => []
  | st :: sts =>
    (if st.site? = some i then x.memory.deeds st (x.step st).1 else []) ++
      (x.step st).2.deeds i sts

theorem shadow_of_site {sh : Shape} {site : CallSite sh} {i : Nat}
    (h : x.sites[i]? = some ⟨sh, site⟩) : x.shadow i = site.shadow := by
  simp only [shadow, h]

theorem shadow_congr {y : Session} (h : y.sites = x.sites) (i : Nat) : y.shadow i = x.shadow i := by
  rw [shadow, shadow, h]

/-- A step with this result moves the shadow of its site by these deeds, and no other. -/
structure Moves (x : Session) (i : Nat) (deeds : List Deed) (y : Session) : Prop where
  own : y.shadow i = (x.shadow i).run deeds
  other : ∀ j, j ≠ i → y.shadow j = x.shadow j

theorem Moves.of_sites_eq {y : Session} (h : y.sites = x.sites) (i : Nat) : x.Moves i [] y :=
  ⟨shadow_congr h i, fun j _ => shadow_congr h j⟩

theorem Moves.of_set {y : Session} {sh : Shape} {site site' : CallSite sh} {i : Nat}
    {deeds : List Deed} (hk : x.sites[i]? = some ⟨sh, site⟩)
    (hy : y.sites = x.sites.setIfInBounds i ⟨sh, site'⟩)
    (h : site'.shadow = site.shadow.run deeds) : x.Moves i deeds y := by
  have hi : i < x.sites.size := (Array.getElem?_eq_some_iff.mp hk).1
  constructor
  · have hk' : y.sites[i]? = some ⟨sh, site'⟩ := by simp [hy, hi]
    rw [shadow_of_site hk', shadow_of_site hk, h]
  · intro j hj
    rw [shadow, shadow, hy, Array.getElem?_setIfInBounds_ne (Ne.symm hj)]

theorem Fits.moves_call (h : x.Fits K l) (i : Nat) (s : SpaceId) (vs : List Value) :
    x.Moves i (x.memory.deeds (.call i s vs) (x.callStep i s vs).1) (x.callStep i s vs).2 := by
  let P := fun r : Outcome × Session => x.Moves i (x.memory.deeds (.call i s vs) r.1) r.2
  have misuse : P (.misuse, x) := .of_sites_eq rfl i
  refine onSpace_induction misuse fun _ => onKept_induction misuse ?_
  rintro ⟨sh, site⟩ hk
  refine onKept_induction misuse ?_
  intro args hargs
  obtain rfl := Shape.args?_eq_some hargs
  have hshadow := CallSite.shadow_call h.sound (h.past.sites _ (Array.mem_of_getElem? hk)) s args
  rw [← Memory.targetOf?_values] at hshadow
  dsimp only
  generalize site.call x.memory s args = r at hshadow
  obtain ⟨answer, site', m'⟩ := r
  cases answer with
  | error e => exact .of_set hk rfl hshadow
  | ok v =>
    cases sh with
    | getElement => exact .of_set hk rfl hshadow
    | setElement => exact .of_set hk rfl hshadow
    | lookupPage => exact .of_set hk rfl hshadow

theorem Fits.moves_fill (h : x.Fits K l) (i : Nat) (s : SpaceId) (a : Address) (stride : UInt32)
    (count : Nat) (v increment : Int32) :
    x.Moves i (x.memory.deeds (.fill i s a stride count v increment)
      (x.fillStep i s a stride count v increment).1)
      (x.fillStep i s a stride count v increment).2 := by
  let P := fun r : Outcome × Session =>
    x.Moves i (x.memory.deeds (.fill i s a stride count v increment) r.1) r.2
  have misuse : P (.misuse, x) := .of_sites_eq rfl i
  refine onSpace_induction misuse fun _ => onKept_induction misuse ?_
  rintro ⟨sh, site⟩ hk
  cases sh with
  | getElement => exact misuse
  | lookupPage => exact misuse
  | setElement =>
    have hshadow := CallSite.shadow_fill s stride increment count 0 a v site h.sound
      (h.past.sites _ (Array.mem_of_getElem? hk))
    dsimp only
    generalize site.fill s stride increment count 0 a v x.memory = r at hshadow
    obtain ⟨answer, site', m'⟩ := r
    cases answer with
    | ok u => exact .of_set hk rfl hshadow
    | error e => exact .of_set hk rfl hshadow

theorem Fits.moves_scan (h : x.Fits K l) (i : Nat) (s : SpaceId) (a : Address) (stride : UInt32)
    (count : Nat) :
    x.Moves i (x.memory.deeds (.scan i s a stride count) (x.scanStep i s a stride count).1)
      (x.scanStep i s a stride count).2 := by
  let P := fun r : Outcome × Session =>
    x.Moves i (x.memory.deeds (.scan i s a stride count) r.1) r.2
  have misuse : P (.misuse, x) := .of_sites_eq rfl i
  refine onSpace_induction misuse fun _ => onKept_induction misuse ?_
  rintro ⟨sh, site⟩ hk
  cases sh with
  | setElement => exact misuse
  | lookupPage => exact misuse
  | getElement =>
    have hshadow := CallSite.shadow_scan s stride count 0 a site h.sound
      (h.past.sites _ (Array.mem_of_getElem? hk))
    dsimp only
    generalize site.scan s stride count 0 a x.memory = r at hshadow
    obtain ⟨answer, site', m'⟩ := r
    cases answer with
    | ok vs => exact .of_set hk rfl hshadow
    | error e => exact .of_set hk rfl hshadow

theorem moves_unlink (x : Session) (i : Nat) :
    x.Moves i (x.memory.deeds (.unlink i) (x.step (.unlink i)).1) (x.step (.unlink i)).2 := by
  let P := fun r : Outcome × Session => x.Moves i (x.memory.deeds (.unlink i) r.1) r.2
  refine onKept_induction (P := P) (.of_sites_eq rfl i) ?_
  rintro ⟨sh, site⟩ hk
  exact .of_set hk rfl rfl

theorem shadow_newSite (x : Session) (sh : Shape) (name : String) (i : Nat) :
    (x.step (.newSite sh name)).2.shadow i = x.shadow i := by
  simp only [step]
  cases hsite : CallSite.ofName sh name with
  | error e => rfl
  | ok site =>
    simp only [shadow, Array.getElem?_push]
    by_cases hi : i = x.sites.size
    · subst hi
      have hfresh : site.shadow = {} := CallSite.shadow_ofName hsite
      simp [hfresh]
    · simp [hi]

theorem Fits.shadow_step (h : x.Fits K l) (st : Step) (i : Nat) :
    (x.step st).2.shadow i = (x.shadow i).run (x.deeds i [st]) := by
  simp only [deeds, List.append_nil]
  cases hs : st.site? with
  | none =>
    rw [if_neg (by simp)]
    cases hn : st.makesSite with
    | false => exact shadow_congr (sites_step x hs hn) i
    | true =>
      cases st <;> try contradiction
      exact shadow_newSite x _ _ i
  | some j =>
    have hmoves : x.Moves j (x.memory.deeds st (x.step st).1) (x.step st).2 := by
      cases st <;> cases hs
      · exact moves_unlink x j
      · exact h.moves_call j _ _
      · exact h.moves_fill j _ _ _ _ _ _
      · exact h.moves_scan j _ _ _ _
    by_cases hj : j = i
    · subst hj
      rw [if_pos rfl, hmoves.own]
    · rw [if_neg (by simpa using hj), hmoves.other i (Ne.symm hj)]
      rfl

theorem Fits.shadow_run (h : x.Fits K l) (sts : List Step) (i : Nat) :
    (x.run sts).2.shadow i = (x.shadow i).run (x.deeds i sts) := by
  induction sts generalizing x l K with
  | nil => rfl
  | cons st sts ih =>
    -- What a site is bound to may be superseded by the step, but it stays a table of the past.
    have hrest := ih (h.nextPast st)
    rw [h.shadow_step st i, ← Shadow.run_append] at hrest
    have hdeeds : x.deeds i (st :: sts) = x.deeds i [st] ++ (x.step st).2.deeds i sts := by
      simp [deeds]
    rw [hdeeds]
    exact hrest

/-- At any time a site's relinks and what it is linked for are those of the shadow that its
deeds have moved. The next call relinks once if it loses the shadow's bet, and links if it
succeeds without winning it; both are counted for the space that it is about, and for no
other. What is done repeatedly moves the shadow once, so that there are no more relinks than
changes in what is done. -/
theorem relinks_follow_shadow (origin : Nat) (options : EventLog.Options) (supply : Supply)
    (sts : List Step)
    {i : Nat} {sh : Shape} {site : CallSite sh}
    (hk : ((start origin options supply).run sts).2.sites[i]? = some ⟨sh, site⟩) (s : SpaceId)
    (args : sh.Args) :
    let m := ((start origin options supply).run sts).2.memory
    let deeds := (start origin options supply).deeds i sts
    let w := Shadow.run {} deeds
    let target := m.target? s (sh.page args)
    let r := site.call m s args
    site.relinks = w.relinks ∧ site.isLinked = w.bet.isSome ∧
    r.2.1.relinks = site.relinks + (if w.bet.isSome ∧ w.bet ≠ target then 1 else 0) ∧
    r.2.1.shadow = w.after (.called target r.1.isOk) ∧
    (∀ s', (r.2.2.space s').statistics.counters.relinks =
      (m.space s').statistics.counters.relinks +
        if s' = s ∧ (m.space s').statistics.enabled ∧ w.bet.isSome ∧ w.bet ≠ target
          then 1 else 0) ∧
    (∀ s', (r.2.2.space s').statistics.counters.links =
      (m.space s').statistics.counters.links +
        if s' = s ∧ (m.space s').statistics.enabled ∧ r.1.isOk ∧ w.bet ≠ target
          then 1 else 0) ∧
    Shadow.run {} (deeds.destutter (· ≠ ·)) = w ∧
    site.relinks ≤ (deeds.destutter (· ≠ ·)).length := by
  intro m deeds w target r
  have hf := fits_run origin options supply sts
  have hb : site.Bound m.Past := hf.past.sites _ (Array.mem_of_getElem? hk)
  have hw : site.shadow = w := by
    rw [← shadow_of_site hk]
    exact (fits_start (K := fun _ _ => True) origin options supply).shadow_run sts i
  have hshadow : r.2.1.shadow = _ := CallSite.shadow_call hf.sound hb s args
  have hcounts : m.Counts s _ r.2.2 := CallSite.counts_call hf.sound hb s args
  have hlink := CallSite.count_link_counted site
    (CallSite.isSome_target?_of_ok hf.sound hb s args)
  have hrelink := CallSite.count_relink_counted site target r.1.isOk
  rw [hw] at hshadow hrelink hlink
  refine ⟨?_, ?_, ?_, hshadow, ?_, ?_, Shadow.run_destutter {} deeds, ?_⟩
  · rw [← hw]
    rfl
  · rw [← hw]
    simp [CallSite.isLinked, CallSite.shadow]
  · have hrelinks := congrArg Shadow.relinks hshadow
    rw [← hw] at hrelinks ⊢
    simpa [CallSite.shadow, Shadow.after, Shadow.loses] using hrelinks
  · intro s'
    have htally := hcounts.tally s' .relink
    rw [hrelink] at htally
    simpa [Counters.tally, ite_and, Shadow.loses] using htally
  · intro s'
    have htally := hcounts.tally s' .link
    rw [hlink] at htally
    simpa [Counters.tally, ite_and] using htally
  · have hle : (Shadow.run {} (deeds.destutter (· ≠ ·))).relinks ≤ _ :=
      Shadow.relinks_run_le {} _
    have hrelinks : site.relinks = w.relinks := congrArg Shadow.relinks hw
    rw [Shadow.run_destutter, Nat.zero_add] at hle
    exact hrelinks.trans_le hle

/-- A getter is called twice in one generation and again in the next: only the last call
relinks. -/
theorem relinks_follow_shadow_growth :
    let sts : List Step := [.openDefault, .allocate 0 (some .heap),
      .newSite .getElement "GET:ELEMENT:memory", .call 0 0 [.address 0], .call 0 0 [.address 8],
      .allocate 0 (some .direct)]
    let x := ((start 1 {}).run sts).2
    ∃ site : CallSite .getElement, x.sites[0]? = some ⟨.getElement, site⟩ ∧
      site.relinks = 0 ∧ (site.call x.memory 0 (0 : Address)).2.1.relinks = 1 := by
  intro sts x
  have hw : Shadow.run {} ((start 1 {}).deeds 0 sts) = ⟨some ⟨0, 1, .heap⟩, 0⟩ := rfl
  have htarget : x.memory.target? 0 (Shape.page .getElement (0 : Address)) =
      some ⟨0, 2, .heap⟩ := rfl
  have hk : ∃ site : CallSite .getElement, x.sites[0]? = some ⟨.getElement, site⟩ := ⟨_, rfl⟩
  obtain ⟨site, hk⟩ := hk
  obtain ⟨hrelinks, _, hnext, _⟩ := relinks_follow_shadow 1 {} .unlimited sts hk 0 (0 : Address)
  rw [hw] at hrelinks hnext
  refine ⟨site, hk, hrelinks, hnext.trans ?_⟩
  rw [htarget, hrelinks]
  rfl

end Session

end PagedMemory
