import PagedMemory.Proofs.Memory.Records
import PagedMemory.Proofs.Session.Work

/-! The records of a run. Tables, counters, events and call sites are each kept on their own;
after any run they tell the same story. -/

set_option autoImplicit false

namespace PagedMemory.Session

variable {K : SpaceId → PageTable → Prop} {x : Session} {l : Ledger} {s : SpaceId}

theorem Fits.recorded_step (h : x.Fits K l) (hx : ∀ s, x.memory.Recorded s) (st : Step)
    (s : SpaceId) : (x.step st).2.memory.Recorded s := by
  cases hst : st.manages with
  | false =>
    obtain ⟨s', counted, hworked⟩ := h.worked_somewhere hst
    by_cases hs : s = s'
    · exact hs ▸ hworked.work.recorded (hx _)
    · exact hworked.work.confined.recorded hs (hx s)
  | true =>
    have hmanaged := managed_step x hst
    generalize (x.step st).2.memory = m' at hmanaged
    cases hmanaged with
    | same => exact hx s
    | opened hc d => exact Memory.recorded_say d (Memory.recorded_addSpace hx hc s)
    | closed s' => exact Memory.recorded_close s' (hx s)
    | reset _ => exact Memory.recorded_resetStatistics _ (hx s)

theorem Fits.accounted_step (h : x.Fits K l) (hx : ∀ s, x.memory.Recorded s)
    (ha : x.memory.Accounted s) {st : Step} (hreset : st ≠ .resetCounters s) :
    (x.step st).2.memory.Accounted s := by
  cases hst : st.manages with
  | false =>
    obtain ⟨s', counted, hworked⟩ := h.worked_somewhere hst
    by_cases hs : s = s'
    · exact hs ▸ hworked.work.accounted (hs ▸ ha)
    · exact hworked.work.confined.accounted hs ha
  | true =>
    have hmanaged := managed_step x hst
    generalize (x.step st).2.memory = m' at hmanaged
    cases hmanaged with
    | same => exact ha
    | opened hc d => exact Memory.accounted_say d (Memory.accounted_addSpace hx ha)
    | closed s' => exact Memory.accounted_close s' ha
    | @reset s' _ =>
      have hspace : (x.memory.resetStatistics s').space s = x.memory.space s := by
        rw [Memory.space_resetStatistics, if_neg]
        rintro rfl
        exact hreset rfl
      exact Memory.accounted_congr (m := x.memory) hspace rfl ha

theorem Fits.relinks_step (h : x.Fits K l)
    (hon : ∀ s < x.memory.spaces.size, (x.memory.space s).statistics.enabled = true)
    {st : Step} (hreset : ∀ s < x.memory.spaces.size, st ≠ .resetCounters s)
    (hx : x.memory.relinks = x.siteRelinks) :
    (x.step st).2.memory.relinks = (x.step st).2.siteRelinks := by
  cases hst : st.manages with
  | false =>
    obtain ⟨s', counted, hworked⟩ := h.worked_somewhere hst
    rw [hworked.work.relinks (hon _), hworked.relinks, hx]
    rcases hworked.known with rfl | hs
    · simp
    · rw [if_pos hs]
  | true =>
    have hsites : (x.step st).2.siteRelinks = x.siteRelinks := by
      rw [siteRelinks, siteRelinks, sites_step x (by cases st <;> first | rfl | contradiction)
        (by cases st <;> first | rfl | contradiction)]
    have hmanaged := managed_step x hst
    rw [hsites, ← hx]
    generalize (x.step st).2.memory = m' at hmanaged
    cases hmanaged with
    | same => rfl
    | opened hc d => exact Memory.relinks_addSpace x.memory _
    | closed s => exact Memory.relinks_close x.memory s
    | reset hs => exact absurd rfl (hreset _ hs)

theorem Fits.recorded_run (h : x.Fits K l) (hx : ∀ s, x.memory.Recorded s) (sts : List Step) :
    ∀ s, (x.run sts).2.memory.Recorded s := by
  induction sts generalizing x l K with
  | nil => exact hx
  | cons st sts ih => exact ih (h.nextPast st) (h.recorded_step hx st)

theorem Fits.accounted_run (h : x.Fits K l) (hx : ∀ s, x.memory.Recorded s)
    (ha : x.memory.Accounted s) {sts : List Step} (hreset : .resetCounters s ∉ sts) :
    (x.run sts).2.memory.Accounted s := by
  induction sts generalizing x l K with
  | nil => exact ha
  | cons st sts ih =>
    have hst : st ≠ .resetCounters s := (List.ne_of_not_mem_cons hreset).symm
    exact ih (h.nextPast st) (h.recorded_step hx st) (h.accounted_step hx ha hst)
      (List.not_mem_of_not_mem_cons hreset)

theorem Fits.config_run (h : x.Fits K l) (sts : List Step) {s : SpaceId}
    (hs : s < x.memory.spaces.size) : s < (x.run sts).2.memory.spaces.size ∧
      ((x.run sts).2.memory.space s).config = (x.memory.space s).config := by
  have hany : x.Fits (fun _ _ => True) l := h.mono fun _ _ _ => trivial
  obtain ⟨_, _, w, _, he⟩ := hany.run sts fun _ _ _ _ => trivial
  exact ⟨(he.past h.sound (h.sound.past_table hs)).owner, he.config h.sound hs⟩

theorem Fits.relinks_run (h : x.Fits K l) (hx : ∀ s, x.memory.Recorded s)
    (hr : x.memory.relinks = x.siteRelinks) {sts : List Step}
    (hon : ∀ s < (x.run sts).2.memory.spaces.size,
      ((x.run sts).2.memory.space s).config.statsEnabled = true ∧ .resetCounters s ∉ sts) :
    (x.run sts).2.memory.relinks = (x.run sts).2.siteRelinks := by
  induction sts generalizing x l K with
  | nil => exact hr
  | cons st sts ih =>
    have hnext := h.nextPast st
    have hnow : ∀ s < x.memory.spaces.size, (x.memory.space s).statistics.enabled = true ∧
        st ≠ .resetCounters s := by
      intro s hs
      obtain ⟨hlt, hconfig⟩ := h.config_run (st :: sts) hs
      obtain ⟨henabled, hreset⟩ := hon s hlt
      rw [(hx s).enabled, ← hconfig]
      exact ⟨henabled, (List.ne_of_not_mem_cons hreset).symm⟩
    refine ih hnext (h.recorded_step hx st)
      (h.relinks_step (fun s hs => (hnow s hs).1) (fun s hs => (hnow s hs).2) hr) ?_
    intro s hs
    exact ⟨(hon s hs).1, List.not_mem_of_not_mem_cons (hon s hs).2⟩

theorem recorded_start (origin : Nat) (options : EventLog.Options) (supply : Supply) (s : SpaceId) :
    (start origin options supply).memory.Recorded s := Space.recorded_missing _

/-- Counters, events and tables tell the same story. After any run a space that counts and was
never reset has counted its pages by kind and the tables that it published, and if it is
verbose, has emitted as many events of each sort, so that no counter is ahead of the events. Its
events announce its pages in order, each followed at once by the new table, so that they alone
say of what kinds the pages are. Counters that are not enabled stay at zero. And if all spaces
count and none was reset, they have counted all relinks of all call sites. -/
theorem records_agree (origin : Nat) (options : EventLog.Options) (supply : Supply)
    (sts : List Step) :
    let x := ((start origin options supply).run sts).2
    (∀ s < x.memory.spaces.size,
      let sp := x.memory.space s
      let c := sp.statistics.counters
      let es := x.memory.eventsOf s
      (sp.config.statsEnabled = true → .resetCounters s ∉ sts →
        c.heapPages = sp.table.countOf .heap ∧ c.directPages = sp.table.countOf .direct ∧
        c.snapshotsPublished = sp.table.generation ∧ sp.table.generation = sp.table.size ∧
        (sp.config.verbose = true → c.Tallies es ∧ ∀ n ∈ c.values, n ≤ es.length)) ∧
      (sp.config.verbose = true →
        Retold (x.memory.number s) es sp.table.kinds.toList) ∧
      (sp.config.statsEnabled = false → c = {})) ∧
    ((∀ s < x.memory.spaces.size,
      (x.memory.space s).config.statsEnabled = true ∧ .resetCounters s ∉ sts) →
        x.memory.relinks = x.siteRelinks) := by
  intro x
  have hf := fits_start (K := fun _ _ => True) origin options supply
  have hstart := recorded_start origin options supply
  refine ⟨?_, hf.relinks_run hstart rfl⟩
  intro s _ sp c es
  have hrecorded : sp.Recorded _ es := hf.recorded_run hstart sts s
  have hgeneration : sp.table.generation = sp.table.size := hrecorded.aligned.generation
  refine ⟨?_, hrecorded.told, fun hoff => hrecorded.disabled (hrecorded.enabled.trans hoff)⟩
  intro hon hreset
  -- A space that is not there yet counts nothing, so that there is nothing to account for.
  have hnone : (start origin options supply).memory.Accounted s := fun h => by contradiction
  have haccounted : sp.Accounted es :=
    hf.accounted_run hstart hnone hreset (hrecorded.enabled.trans hon)
  refine ⟨haccounted.pages .heap, haccounted.pages .direct, ?_, hgeneration, fun hverbose => ?_⟩
  · rw [hgeneration]
    exact haccounted.snapshots
  · have htallies := haccounted.tallies hverbose
    exact ⟨htallies, fun _ hn => htallies.le_length hn⟩

/-- A verbose space grows by a page of each kind, and a site of it has to relink. -/
theorem records_agree_relinked :
    let sts : List Step := [.openSpace { verbose := true }, .allocate 0 none,
      .newSite .getElement "GET:ELEMENT:memory", .call 0 0 [.address 0],
      .allocate 0 (some .direct), .call 0 0 [.address 0]]
    let x := ((start 1 {}).run sts).2
    let c := (x.memory.space 0).statistics.counters
    .resetCounters 0 ∉ sts ∧ c = ⟨1, 1, 2, 2, 0, 1, 0⟩ ∧ c.Tallies (x.memory.eventsOf 0) ∧
      Retold 1 (x.memory.eventsOf 0) [.heap, .direct] ∧ x.memory.relinks = x.siteRelinks := by
  intro sts x c
  have hreset : .resetCounters 0 ∉ sts := by decide
  have h := records_agree 1 {} .unlimited sts
  obtain ⟨hcounted, htold, _⟩ := h.1 0 (by decide)
  refine ⟨hreset, rfl, ((hcounted rfl hreset).2.2.2.2 rfl).1, htold rfl, h.2 ?_⟩
  intro s hs
  have hone : s < 1 := hs
  obtain rfl : s = 0 := by omega
  exact ⟨rfl, hreset⟩

end PagedMemory.Session
