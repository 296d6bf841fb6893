import PagedMemory.Proofs.Session.Agreement
import PagedMemory.Proofs.Session.Coherence
import PagedMemory.Proofs.Session.History

/-! Isolation of spaces. A step is about one space at most: the one that it is given, or the
one that a kept table or page is from. It changes nothing of any other space, and what it
answers does not depend on what their cells hold or on what was counted for them. -/

set_option autoImplicit false

namespace PagedMemory

namespace Ledger

variable {l : Ledger} {o : Outcome}

theorem space_of_mem_fillWrites {s : SpaceId} {stride : UInt32} {increment : Int32} {n : Nat}
    {a : Address} {v : Int32} {w : Cell × Int32}
    (h : w ∈ fillWrites s stride increment n a v) : w.1.space = s := by
  induction n generalizing a v with
  | zero => contradiction
  | succ n ih =>
    rcases List.mem_append.mp h with h | h
    · exact ih h
    · obtain rfl := List.mem_singleton.mp h
      rfl

theorem space_of_numbered {s : SpaceId} {p : PageId} {n : Nat} {c : Cell}
    (h : Cell.numbered? s p n = some c) : c.space = s := by
  unfold Cell.numbered? at h
  split at h
  · cases h
    rfl
  · contradiction

theorem subject?_of_written {st : Step} {w : Cell × Int32} (h : w ∈ l.written o st) :
    st.subject? l = some w.1.space := by
  cases st with
  | write s a v =>
    simp only [written] at h
    split at h
    · obtain rfl := List.mem_singleton.mp h
      rfl
    · contradiction
  | fill i s a stride count v increment =>
    have hs := space_of_mem_fillWrites h
    rw [hs]
    rfl
  | call i s vs | invoke i s vs =>
    simp only [written] at h
    split at h
    · obtain ⟨⟨a, v⟩, _, rfl⟩ := Option.map_eq_some_iff.mp (Option.mem_toList.mp h)
      rfl
    · contradiction
  | snapshotWrite i a v =>
    simp only [written] at h
    split at h
    · obtain ⟨s, hs, rfl⟩ := Option.map_eq_some_iff.mp (Option.mem_toList.mp h)
      exact hs
    · contradiction
  | pageSet i p n v =>
    simp only [written] at h
    split at h
    · obtain ⟨c, hc, rfl⟩ := Option.map_eq_some_iff.mp (Option.mem_toList.mp h)
      obtain ⟨s, hs, hc⟩ := Option.bind_eq_some_iff.mp hc
      rw [space_of_numbered hc]
      exact hs
    · contradiction
  | handleSet i n v =>
    simp only [written] at h
    split at h
    · obtain ⟨c, hc, rfl⟩ := Option.map_eq_some_iff.mp (Option.mem_toList.mp h)
      obtain ⟨⟨s, p⟩, hs, hc⟩ := Option.bind_eq_some_iff.mp hc
      rw [space_of_numbered hc, Step.subject?, hs]
      rfl
    · contradiction
  | _ => contradiction

end Ledger

namespace Session

variable {K : SpaceId → PageTable → Prop} {x : Session} {l : Ledger} {s : SpaceId}
  {m' : Memory} {st : Step}

theorem Fits.space_step (h : x.Fits K l) (hs : s < x.memory.spaces.size)
    (hst : st.space? ≠ some s) : (x.step st).2.memory.space s = x.memory.space s := by
  cases hmanages : st.manages with
  | false =>
    -- A step that is given no space can be taken for one on any other.
    obtain ⟨counted, hworked⟩ := h.worked_step (s := st.space?.getD (s + 1)) hmanages
      fun s' hs' => by simp [hs']
    refine hworked.work.confined.others s ?_
    cases hspace : st.space? with
    | none => simp
    | some s' =>
      rintro rfl
      exact hst hspace
  | true =>
    have hmanaged := managed_step x hmanages
    generalize (x.step st).2.memory = m' at hmanaged
    cases hmanaged with
    | same => rfl
    | opened hc d =>
      rw [Memory.space_say, Memory.space_addSpace, if_neg (Nat.ne_of_lt hs)]
    | closed s' =>
      have hne : s' ≠ s := fun heq => hst (congrArg some heq)
      exact Memory.space_close_of_ne x.memory hne
    | @reset s' _ =>
      have hne : s ≠ s' := fun heq => hst (congrArg some heq.symm)
      rw [Memory.space_resetStatistics, if_neg hne]

theorem Fits.isValid_step (h : x.Fits K l) {t : PageTable} (ht : x.memory.Past s t)
    (hst : st.space? ≠ some s) : (x.step st).2.memory.isValid t = x.memory.isValid t := by
  have he := (h.step st).evolves
  have hbefore := ht.isValid_iff h.sound
  have hafter := (he.past h.sound ht).isValid_iff (he.sound h.sound)
  rw [Memory.table, h.space_step ht.owner hst] at hafter
  exact Bool.eq_iff_iff.mpr (hafter.trans hbefore.symm)

theorem Fits.contents_step_of_ne (h : x.Fits K l) {c : Cell}
    (hst : st.subject? l ≠ some c.space) :
    (x.step st).2.memory.contents c = x.memory.contents c := by
  refine h.contents_step st ?_
  intro hc
  obtain ⟨w, hw, rfl⟩ := List.mem_map.mp hc
  exact hst (Ledger.subject?_of_written hw)

def StaysIn (s : SpaceId) (l : Ledger) (x : Session) : List Step → Prop
  | [] => True
  | st :: sts => (∀ s', st.subject? l = some s' → s' = s) ∧
    StaysIn s (l.after st (x.step st).1) (x.step st).2 sts

theorem Fits.alike_observe (h : x.Fits K l) (ha : x.memory.AgreesAt s m')
    (hst : ∀ s', st.subject? l = some s' → s' = s) :
    ∃ n', (x.step st).2.memory.AgreesAt s n' ∧
      (x.withMemory m').observe st = ((x.observe st).1, (x.step st).2.withMemory n') := by
  have halike := h.alike_step ha hst
  have hplace : (x.withMemory m').memory.journal.size = x.memory.journal.size :=
    congrArg Array.size ha.journal
  simp only [observe, hplace]
  generalize x.step st = r at halike
  generalize (x.withMemory m').step st = r' at halike
  cases halike with
  | @intro o y n' hagree =>
  refine ⟨n', hagree, ?_⟩
  simp only [diagnosticsFrom, withMemory, hagree.journal]

/-- A run about one space goes the same way on memories that agree there. -/
theorem Fits.alike_run (h : x.Fits K l) (ha : x.memory.AgreesAt s m') (more : List Step)
    (hstays : StaysIn s l x more) :
    ∃ n', (x.run more).2.memory.AgreesAt s n' ∧
      (x.withMemory m').run more = ((x.run more).1, (x.run more).2.withMemory n') := by
  induction more generalizing x l K m' with
  | nil => exact ⟨m', ha, rfl⟩
  | cons st sts ih =>
    obtain ⟨hst, hrest⟩ := hstays
    obtain ⟨n₁, hagree, hobserve⟩ := h.alike_observe ha hst
    obtain ⟨n', hfinal, hrun⟩ := ih (h.nextPast st) hagree hrest
    refine ⟨n', hfinal, ?_⟩
    have hnext : (x.observe st).2 = (x.step st).2 := rfl
    simp only [Session.run, hobserve, hnext, hrun]

/-- Isolation. After any run a step changes nothing of a space that it is not about: not its
table, its counters, the validity of a table it ever published or what any cell holds. And
steps that are about one space have the same outcomes and diagnostics and the same effect on
it whatever the cells of the other spaces hold and whatever was counted for them. -/
theorem spaces_isolated (origin : Nat) (options : EventLog.Options) (supply : Supply)
    (sts : List Step) :
    let x := ((start origin options supply).run sts).2
    let l := Ledger.run {} (start origin options supply) sts
    let h := (start origin options supply).history sts
    (∀ st, ∀ s < x.memory.spaces.size, st.subject? l ≠ some s →
      let y := (x.step st).2
      y.memory.space s = x.memory.space s ∧
      (∀ t, Published h s t → y.memory.isValid t = x.memory.isValid t) ∧
      ∀ c : Cell, c.space = s → y.memory.contents c = x.memory.contents c) ∧
    ∀ s m' more, x.memory.AgreesAt s m' → StaysIn s l x more →
      ((x.withMemory m').run more).1 = (x.run more).1 ∧
        (x.run more).2.memory.AgreesAt s ((x.withMemory m').run more).2.memory := by
  intro x l h
  have hf := fits_run origin options supply sts
  refine ⟨?_, ?_⟩
  · intro st s hs hst
    have hspace : st.space? ≠ some s := fun heq => hst (Step.subject?_of_space? l heq)
    refine ⟨hf.space_step hs hspace, fun t ht => ?_, fun c hc => ?_⟩
    · exact hf.isValid_step (past_of_published_run ht) hspace
    · exact hf.contents_step_of_ne (hc ▸ hst)
  · intro s m' more ha hstays
    obtain ⟨n', hagree, hrun⟩ := hf.alike_run ha more hstays
    rw [hrun]
    exact ⟨rfl, hagree⟩

/-- A site was linked in another space, where an element is then changed and a link counted:
a call for this space answers as before. -/
theorem spaces_isolated_foreign_link :
    let x := ((start 1 {}).run [.openDefault, .openDefault, .allocate 0 none, .allocate 1 none,
      .write 0 0 5, .newSite .getElement "GET:ELEMENT:memory", .call 0 1 [.address 0]]).2
    let m' := (x.memory.store ⟨.heap, 1⟩ ⟨0, by decide⟩ 9).count 1 .link
    let more : List Step := [.call 0 0 [.address 0], .counters 0]
    x.memory.read 1 0 = .ok 0 ∧ m'.read 1 0 = .ok 9 ∧ x.memory.AgreesAt 0 m' ∧
      ((x.withMemory m').run more).1 = (x.run more).1 := by
  intro x m' more
  have hsound := (fits_run 1 {} .unlimited [.openDefault, .openDefault, .allocate 0 none,
    .allocate 1 none, .write 0 0 5, .newSite .getElement "GET:ELEMENT:memory",
    .call 0 1 [.address 0]]).sound
  have hagree : x.memory.AgreesAt 0 m' :=
    ((Memory.AgreesAt.refl 0 x.memory).store_elsewhere (c := ⟨1, 0, ⟨0, by decide⟩⟩)
      (p := ⟨.heap, 1⟩) hsound rfl (by decide) 9).count_elsewhere (by decide) .link
  refine ⟨rfl, rfl, hagree, ?_⟩
  refine ((spaces_isolated 1 {} .unlimited _).2 0 m' more hagree ?_).1
  refine ⟨?_, ?_, trivial⟩
  · intro s' hs'
    exact (Option.some.inj hs').symm
  · intro s' hs'
    exact (Option.some.inj hs').symm

end Session

end PagedMemory
