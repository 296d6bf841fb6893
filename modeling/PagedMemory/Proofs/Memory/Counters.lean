import PagedMemory.Proofs.Access

/-! What is counted. An operation counts things for one space: its counters go up by them if
they are enabled, and those of all other spaces stay as they are. -/

set_option autoImplicit false

namespace PagedMemory

def Counters.tally (c : Counters) : Countable → Nat
  | .page .heap => c.heapPages
  | .page .direct => c.directPages
  | .link => c.links
  | .linkRejected => c.linksRejected
  | .relink => c.relinks
  | .allocationRejected => c.allocationsRejected

theorem Counters.tally_add (c : Counters) (what sort : Countable) :
    (c.add what).tally sort = c.tally sort + if what = sort then 1 else 0 := by
  rcases what with (_ | _) | _ | _ | _ | _ <;> rcases sort with (_ | _) | _ | _ | _ | _ <;> rfl

namespace Statistics

def recordAll (st : Statistics) (counted : List Countable) : Statistics :=
  counted.foldl record st

theorem tally_recordAll (st : Statistics) (counted : List Countable) (sort : Countable) :
    (st.recordAll counted).counters.tally sort =
      st.counters.tally sort + if st.enabled then counted.count sort else 0 := by
  induction counted generalizing st with
  | nil => simp [recordAll]
  | cons what counted ih =>
    have hrest := ih (st.record what)
    rw [recordAll, List.foldl_cons]
    refine hrest.trans ?_
    cases he : st.enabled with
    | false => simp [record, he]
    | true =>
      simp only [record, he, if_true, Counters.tally_add, List.count_cons, beq_iff_eq]
      omega

end Statistics

namespace Memory

def statistics (m : Memory) (s : SpaceId) : Statistics := (m.space s).statistics

/-- From one memory to the other these things were counted for this space, and nothing for
any other. -/
def Counts (m : Memory) (s : SpaceId) (counted : List Countable) (m' : Memory) : Prop :=
  ∀ s', m'.statistics s' =
    if s' = s then (m.statistics s').recordAll counted else m.statistics s'

variable {m m' m'' : Memory} {s : SpaceId} {counted counted' : List Countable}

theorem counts_of_statistics_eq (h : ∀ s', m'.statistics s' = m.statistics s') :
    m.Counts s [] m' := by
  intro s'
  rw [h s']
  split
  · rfl
  · rfl

theorem Counts.trans (h : m.Counts s counted m') (h' : m'.Counts s counted' m'') :
    m.Counts s (counted ++ counted') m'' := by
  intro s'
  rw [h' s', h s']
  split
  · rw [Statistics.recordAll, Statistics.recordAll, Statistics.recordAll, List.foldl_append]
  · rfl

theorem Counts.trans_nil (h : m.Counts s counted m') (h' : m'.Counts s [] m'') :
    m.Counts s counted m'' := by
  simpa using h.trans h'

theorem Counts.tally (h : m.Counts s counted m') (s' : SpaceId) (sort : Countable) :
    (m'.space s').statistics.counters.tally sort = (m.space s').statistics.counters.tally sort +
      if s' = s ∧ (m.space s').statistics.enabled then counted.count sort else 0 := by
  have hs : (m'.space s').statistics = _ := h s'
  by_cases hspace : s' = s
  · subst hspace
    rw [hs, if_pos rfl, Statistics.tally_recordAll, statistics]
    simp only [true_and]
  · rw [hs, if_neg hspace, if_neg fun h => hspace h.1, statistics, Nat.add_zero]

theorem counts_note (m : Memory) (s : SpaceId) (n : Notice) : m.Counts s [] (m.note n) :=
  counts_of_statistics_eq fun _ => rfl

theorem counts_emit (m : Memory) (s s' : SpaceId) (e : Event) : m.Counts s [] (m.emit s' e) := by
  unfold emit
  split
  · exact counts_note m s (.event e)
  · exact counts_of_statistics_eq fun _ => rfl

theorem counts_count (m : Memory) (s : SpaceId) (what : Countable) :
    m.Counts s [what] (m.count s what) := by
  intro s'
  simp only [statistics, space, count, Array.getElem?_modify]
  by_cases h : s = s'
  · subst h
    cases hs : m.spaces[s]? with
    -- A space that does not exist has its statistics off.
    | none => simp [Space.missing, Statistics.recordAll, Statistics.record]
    | some sp => simp [Statistics.recordAll]
  · simp [h, Ne.symm h]

end Memory

end PagedMemory
