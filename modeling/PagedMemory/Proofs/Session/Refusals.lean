import PagedMemory.Proofs.Refusals
import PagedMemory.Proofs.Session.Work

/-! Refused steps. A step that fails or is not applicable leaves all that is stored, mapped
and handed out as it was; at most it counts for the space that it was given. A space that is
exhausted stays so. -/

set_option autoImplicit false

namespace PagedMemory

namespace Outcome

def refuses : Outcome → Bool
  | .misuse | .nothing | .failed _ | .unreadable _ | .outOfRange | .bool false
  | .allocated (.error _) _ _ => true
  | _ => false

def error? : Outcome → Option MemoryError
  | .failed e | .allocated (.error e) _ _ => some e
  | _ => none

end Outcome

/-- The step asks for many things in a row; some may be done before one is refused. -/
def Step.isRow : Step → Bool
  | .allocateMany _ _ _ | .allocateByThreads _ _ _ _ | .fill _ _ _ _ _ _ _
  | .scan _ _ _ _ _ => true
  | _ => false

namespace Session

variable {K : SpaceId → PageTable → Prop} {x y : Session} {l : Ledger} {st : Step}

def isLinked (x : Session) (i : Nat) : Bool := x.sites[i]?.any fun site => site.2.isLinked

/-- What a refused step counts: a page that the space had to refuse, a resolution that is not
applicable, and the relink of a call that has given up its accessor. -/
def refusalCounts (x : Session) : Step → Outcome → List Countable
  | .allocate _ _, .failed e | .reserve _ _ _, .failed e => e.denial
  | .malloc _ _ size, .allocated (.error e) _ _ => BumpAllocator.refused size e
  | .link _ _ _ _ _, .nothing => [.linkRejected]
  | .call i _ _, .failed e => (if x.isLinked i then [.relink] else []) ++ e.rejection
  | _, _ => []

def held (x : Session) :
    Array PageTable × Array Page × Array Linked × Array BumpAllocator :=
  (x.snapshots, x.handles, x.accessors, x.allocators)

structure Unharmed (x : Session) (st : Step) (r : Outcome × Session) : Prop where
  storage : r.2.memory.storage = x.memory.storage
  held : r.2.held = x.held
  counts : ∀ s, r.2.memory.statistics s = if st.space? = some s then
    (x.memory.statistics s).recordAll (x.refusalCounts st r.1) else x.memory.statistics s
  exhausts : ∀ n, r.1.error? = some (.addressSpaceExhausted n) → ∃ s, st.space? = some s ∧
    s < x.memory.spaces.size ∧ (x.memory.table s).size = n ∧
      (x.memory.space s).config.maxPages.toNat ≤ n

theorem Unharmed.same {o : Outcome} (hc : x.refusalCounts st o = [])
    (he : ∀ n, o.error? ≠ some (.addressSpaceExhausted n)) : x.Unharmed st (o, x) := by
  refine ⟨rfl, rfl, ?_, fun n h => absurd h (he n)⟩
  intro s
  rw [hc]
  exact (ite_self _).symm

theorem ne_exhausted {e : MemoryError} (h : ∀ n, e ≠ .addressSpaceExhausted n) (n : Nat) :
    some e ≠ some (.addressSpaceExhausted n) := fun hn => h n (Option.some.inj hn)

theorem Unharmed.of_refuses {s : SpaceId} {o : Outcome} {counted : List Countable}
    (hs : st.space? = some s) (hopen : (x.memory.space s).isOpen = true)
    (h : x.memory.Refuses s o.error? counted y.memory) (hy : y.held = x.held)
    (hc : x.refusalCounts st o = counted) : x.Unharmed st (o, y) := by
  refine ⟨h.storage, hy, ?_, ?_⟩
  · intro s'
    rw [hc, h.counts s', hs]
    simp only [Option.some.injEq, eq_comm]
  · intro n hn
    exact ⟨s, hs, Memory.lt_size_of_isOpen hopen, h.exhausts n hn⟩

theorem unharmed_link (x : Session) (s : SpaceId) (name : String) (sig : Signature)
    (vs : List Value) (parsed : Bool)
    (hr : (x.linkStep s name sig vs parsed).1.refuses = true) :
    x.Unharmed (.link s name sig vs parsed) (x.linkStep s name sig vs parsed) := by
  revert hr
  let P := fun r : Outcome × Session =>
    r.1.refuses = true → x.Unharmed (.link s name sig vs parsed) r
  refine onSpace_induction (P := P) (fun _ => .same rfl fun _ h => by contradiction) ?_
  intro hopen
  -- However the name is read, what linking answers is kept in the same way.
  have hkeep : ∀ answer : Except MemoryError (Option Linked) × Memory,
      (∀ e m', answer = (.error e, m') → x.memory.Refuses s (some e) [] m') →
      (∀ m', answer = (.ok none, m') → x.memory.Refuses s none [.linkRejected] m') →
      P (x.keepLinked answer) := by
    rintro ⟨result, m'⟩ herror hnone
    cases result with
    | error e => exact fun _ => .of_refuses rfl hopen (herror e m' rfl) rfl rfl
    | ok kept =>
      cases kept with
      | none => exact fun _ => .of_refuses rfl hopen (hnone m' rfl) rfl rfl
      | some l => exact fun h => by contradiction
  cases parsed with
  | false =>
    exact hkeep _ (fun _ _ => Memory.refuses_linkNamed) fun _ => Memory.refuses_linkNamed_of_none
  | true =>
    cases Operation.parse name with
    | error e => exact fun _ => .same rfl fun _ h => by contradiction
    | ok op => exact hkeep _ (fun _ _ => Memory.refuses_link) fun _ => Memory.refuses_link_of_none

theorem Fits.unharmed_call (h : x.Fits K l) (i : Nat) (s : SpaceId) (vs : List Value)
    (hr : (x.callStep i s vs).1.refuses = true) :
    x.Unharmed (.call i s vs) (x.callStep i s vs) := by
  revert hr
  let P := fun r : Outcome × Session => r.1.refuses = true → x.Unharmed (.call i s vs) r
  have misuse : P (.misuse, x) := fun _ => .same rfl fun _ h => by contradiction
  refine onSpace_induction misuse fun hopen => onKept_induction misuse ?_
  rintro ⟨sh, site⟩ hk
  refine onKept_induction misuse fun args _ => ?_
  have hlinked : x.isLinked i = site.isLinked := by simp [isLinked, hk]
  dsimp only
  cases hcall : site.call x.memory s args with
  | mk answer rest =>
    obtain ⟨site', m'⟩ := rest
    cases answer with
    | error e =>
      refine fun _ => .of_refuses rfl hopen (CallSite.refuses_call h.sound hcall) rfl ?_
      rw [refusalCounts, hlinked]
    | ok v => cases sh <;> exact fun h => by contradiction

theorem unharmed_malloc (x : Session) (i : Nat) (s : SpaceId) (size : Nat)
    (hr : (x.mallocStep i s size).1.refuses = true) :
    x.Unharmed (.malloc i s size) (x.mallocStep i s size) := by
  revert hr
  let P := fun r : Outcome × Session => r.1.refuses = true → x.Unharmed (.malloc i s size) r
  have misuse : P (.misuse, x) := fun _ => .same rfl fun _ h => by contradiction
  refine onSpace_induction misuse fun hopen => onKept_induction misuse fun a ha => ?_
  dsimp only
  cases hmalloc : a.malloc x.memory s size with
  | mk answer rest =>
    obtain ⟨a', m'⟩ := rest
    cases answer with
    | error e =>
      obtain ⟨rfl, hrefuses⟩ := BumpAllocator.refuses_malloc hmalloc
      have hset : x.allocators.setIfInBounds i a' = x.allocators := by
        obtain ⟨hi, rfl⟩ := Array.getElem?_eq_some_iff.mp ha
        simp [Array.setIfInBounds, hi]
      refine fun _ => .of_refuses rfl hopen hrefuses ?_ rfl
      simp only [held, hset]
    | ok p => exact fun h => by contradiction

theorem Fits.unharmed (h : x.Fits K l) (hrow : st.isRow = false)
    (hr : (x.step st).1.refuses = true) : x.Unharmed st (x.step st) := by
  revert hr
  let P := fun r : Outcome × Session => r.1.refuses = true → x.Unharmed st r
  have same : ∀ o, x.refusalCounts st o = [] → o.error? = none → P (o, x) :=
    fun o hc he _ => .same hc fun n h => by simp [he] at h
  have other : ∀ (o : Outcome) (y : Session), o.refuses = false → P (o, y) :=
    fun o y ho h => absurd h (by simp [ho])
  have misuse : P (.misuse, x) := same _ (by cases st <;> rfl) rfl
  cases st with
  | allocateMany s kinds count | allocateByThreads s threads each kind
  | fill i s a stride count v increment | scan i s a stride count => contradiction
  | openSpace c =>
    simp only [Session.step, Memory.openSpace]
    cases c.validate with
    | error e => exact fun _ => .same rfl (ne_exhausted fun _ h => by contradiction)
    | ok u => exact other _ _ rfl
  | allocate s kind =>
    refine onSpace_induction misuse fun hopen => ?_
    dsimp only
    cases hr : x.memory.allocatePage s kind with
    | mk answer m' =>
      cases answer with
      | error e => exact fun _ => .of_refuses rfl hopen (Memory.refuses_allocatePage hr) rfl rfl
      | ok a => exact other _ _ rfl
  | reserve s size kind =>
    refine onSpace_induction misuse fun hopen => ?_
    dsimp only
    cases hr : x.memory.reserve s size kind with
    | mk answer m' =>
      cases answer with
      | error e => exact fun _ => .of_refuses rfl hopen (Memory.refuses_reserve hr) rfl rfl
      | ok a => exact other _ _ rfl
  | malloc i s size => exact x.unharmed_malloc i s size
  | call i s vs => exact h.unharmed_call i s vs
  | link s name sig vs parsed => exact x.unharmed_link s name sig vs parsed
  | read s a =>
    refine onSpace_induction misuse fun _ => ?_
    unfold Memory.read
    cases x.memory.readThrough? (x.memory.table s) a with
    | none => exact fun _ => .same rfl (ne_exhausted fun _ h => by contradiction)
    | some v => exact other _ _ rfl
  | write s a v =>
    refine onSpace_induction misuse fun _ => ?_
    unfold Memory.write
    cases x.memory.writeThrough? (x.memory.table s) a v with
    | none => exact fun _ => .same rfl (ne_exhausted fun _ h => by contradiction)
    | some m' => exact other _ _ rfl
  | snapshotWrite i a v =>
    refine onKept_induction misuse fun t _ => ?_
    cases x.memory.writeThrough? t a v with
    | none => exact same _ rfl rfl
    | some m' => exact other _ _ rfl
  | pageSet i p index v =>
    refine onKept_induction misuse fun t _ => ?_
    cases t.page? p with
    | none => exact same _ rfl rfl
    | some page =>
      dsimp only
      cases x.memory.store? page index v with
      | none => exact same _ rfl rfl
      | some m' => exact other _ _ rfl
  | handleSet i index v =>
    refine onKept_induction misuse fun p _ => ?_
    unfold Memory.storeChecked
    cases x.memory.store? p index v with
    | none => exact fun _ => .same rfl (ne_exhausted fun _ h => by contradiction)
    | some m' => exact other _ _ rfl
  | newSite sh name =>
    simp only [Session.step, CallSite.ofName]
    cases Operation.parse name with
    | error e => exact fun _ => .same rfl (ne_exhausted fun _ h => by contradiction)
    | ok op => exact other _ _ rfl
  | snapshotRead i a =>
    refine onKept_induction misuse fun t _ => ?_
    cases x.memory.readThrough? t a with
    | none => exact same _ rfl rfl
    | some v => exact other _ _ rfl
  | snapshotKind i p =>
    refine onKept_induction misuse fun t _ => ?_
    cases t.kindOf? p with
    | none => exact same _ rfl rfl
    | some kind => exact other _ _ rfl
  | exposePage i p =>
    refine onKept_induction misuse fun t _ => ?_
    cases t.page? p with
    | none => exact same _ rfl rfl
    | some page => exact other _ _ rfl
  | pageGet i p index =>
    refine onKept_induction misuse fun t _ => ?_
    cases t.page? p with
    | none => exact same _ rfl rfl
    | some page =>
      dsimp only
      cases x.memory.load? page index with
      | none => exact same _ rfl rfl
      | some v => exact other _ _ rfl
  | handleGet i index =>
    refine onKept_induction misuse fun p _ => ?_
    cases x.memory.load? p index with
    | none => exact same _ rfl rfl
    | some v => exact other _ _ rfl
  | samePage i p j q =>
    refine onKept_induction misuse fun t _ => onKept_induction misuse fun u _ => ?_
    split
    · exact same _ rfl rfl
    · exact same _ rfl rfl
  | handleIs i j p =>
    refine onKept_induction misuse fun page _ => onKept_induction misuse fun t _ => ?_
    cases t.page? p with
    | none => exact same _ rfl rfl
    | some other => exact same _ rfl rfl
  | invoke i s vs =>
    refine onSpace_induction misuse fun _ => onKept_induction misuse fun a _ =>
      onKept_induction misuse fun args _ => ?_
    dsimp only
    generalize x.memory.invoke s a.guard a.shape args = r
    obtain ⟨access, m'⟩ := r
    obtain ⟨sh, g⟩ := a
    cases sh <;> cases access <;> exact other _ _ rfl
  -- The others succeed if they are possible at all.
  | openDefault | newAllocator policy | recordedEvents | recordedCount =>
    exact other _ _ rfl
  | closeSpace s | resetCounters s | pageCount s | tableState s | config s | counters s
  | exposition s | keepSnapshot s =>
    exact onSpace_induction misuse fun _ => other _ _ rfl
  | snapshotState i | siteState i | unlink i | cloneAccessor i | usableAs i | handleState i
  | handleDump i | inspect subject =>
    exact onKept_induction misuse fun _ _ => other _ _ rfl
  | guardState i s =>
    exact onSpace_induction misuse fun _ => onKept_induction misuse fun _ _ => other _ _ rfl

/-- Errors leave the state intact. A step that fails or is not applicable leaves every table,
mark and cell and all that was handed out as it was. It counts what was refused, for the
space that it was given and only if that space counts at all. And a space that was once
exhausted refuses every page from then on. -/
theorem refused_step_changes_nothing {x : Session} (hx : x.Reachable) {st : Step}
    (hrow : st.isRow = false) (hr : (x.step st).1.refuses = true) :
    let o := (x.step st).1
    let y := (x.step st).2
    (y.memory.storage = x.memory.storage ∧ (∀ s, y.memory.table s = x.memory.table s) ∧
      (∀ t, y.memory.isValid t = x.memory.isValid t) ∧
      ∀ c, y.memory.contents c = x.memory.contents c) ∧
    (y.snapshots = x.snapshots ∧ y.handles = x.handles ∧ y.accessors = x.accessors ∧
      y.allocators = x.allocators) ∧
    (∀ s, y.memory.statistics s = if st.space? = some s then
      (x.memory.statistics s).recordAll (x.refusalCounts st o) else x.memory.statistics s) ∧
    ∀ n, o.error? = some (.addressSpaceExhausted n) → ∃ s, st.space? = some s ∧
      ∀ sts kind, ((y.run sts).2.memory.allocatePage s kind).1 =
        .error (.addressSpaceExhausted n) := by
  intro o y
  obtain ⟨l, hf⟩ := hx.fits
  have h := hf.unharmed hrow hr
  have hheld : y.held = x.held := h.held
  simp only [held, Prod.mk.injEq] at hheld
  have htables := Memory.sameTables_of_storage_eq h.storage
  refine ⟨⟨h.storage, htables.table, ?_, Memory.contents_of_storage_eq h.storage⟩, hheld,
    h.counts, ?_⟩
  · intro t
    rw [Memory.isValid, Memory.isValid, Memory.tokens_congr h.storage]
  · intro n hn
    obtain ⟨s, hs, hlt, hsize, hfull⟩ := h.exhausts n hn
    refine ⟨s, hs, fun sts kind => ?_⟩
    have hy : y.Fits (fun _ _ => True) _ := (hf.nextPast st).mono fun _ _ _ => trivial
    obtain ⟨_, _, w, _, he⟩ := hy.run sts fun _ _ _ _ => trivial
    -- The space is as full after the step as before it, and it is still so after the run.
    have hfull' : (y.memory.space s).config.maxPages.toNat ≤ (y.memory.table s).size := by
      rw [htables.config, htables.table, hsize]
      exact hfull
    obtain ⟨hsame, hstill⟩ := he.full hy.sound (htables.spaces ▸ hlt) hfull'
    rw [Memory.allocatePage_of_full kind hstill, hsame, htables.table, hsize]

/-- A site gives up its accessor for an address that turns out not to be mapped; only that
is counted. -/
theorem refused_step_changes_nothing_unmapped :
    let x := ((start 1 {}).run [.openDefault, .allocate 0 none,
      .newSite .getElement "GET:ELEMENT:memory", .call 0 0 [.address 8]]).2
    let st : Step := .call 0 0 [.address 4096]
    (x.step st).1 = .failed (.unmappedAddress 4096) ∧
      (∀ c, (x.step st).2.memory.contents c = x.memory.contents c) ∧
      (x.step st).2.memory.statistics 0 = (x.memory.statistics 0).record .relink := by
  intro x st
  have ho : (x.step st).1 = .failed (.unmappedAddress 4096) := rfl
  have hx : x.Reachable := ⟨1, {}, _, _, rfl⟩
  have hrow : st.isRow = false := rfl
  have hr : (x.step st).1.refuses = true := rfl
  have h := refused_step_changes_nothing hx hrow hr
  exact ⟨ho, h.1.2.2.2, h.2.2.1 0⟩

end Session

end PagedMemory
