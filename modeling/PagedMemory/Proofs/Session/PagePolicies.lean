import PagedMemory.Proofs.Session.Allocators

/-! The kinds of the pages that an allocator claims, over whole runs. What it has claimed can be
told without looking at it: the pages by which the space grows while the allocator is asked. It
lists just these, and each has the kind that the policy gives to its place among them, however
many requests failed and whoever else let the space grow in between. -/

set_option autoImplicit false

namespace PagedMemory

def Memory.newPages (m m' : Memory) (s : SpaceId) : List Address :=
  (List.range' (m.table s).size ((m'.table s).size - (m.table s).size)).map fun n =>
    pageStart (UInt32.ofNat n)

namespace Step

def claimed (i : Nat) (m m' : Memory) : Step → List Address
  | .malloc j s _ => if j = i then m.newPages m' s else []
  | _ => []

def policy? : Step → Option PagePolicy
  | .newAllocator policy => some policy
  | _ => none

end Step

namespace Session

/-- All pages that the allocator at a place claims in a run, in the order in which it does. -/
def claimed (x : Session) (i : Nat) : List Step → List Address
  | [] => []
  | st :: sts => st.claimed i x.memory (x.step st).2.memory ++ (x.step st).2.claimed i sts

def policies (sts : List Step) : List PagePolicy := sts.filterMap Step.policy?

def pagesOf (x : Session) (i : Nat) : List Address :=
  match x.allocators[i]? with
  | some a => a.pages.toList
  | none => []

end Session

section Request
variable {m m' : Memory} {s : SpaceId}

theorem Memory.newPages_of_table_eq (h : m'.table s = m.table s) : m.newPages m' s = [] := by
  simp [newPages, h]

theorem Memory.newPages_of_allocatePage {kind : Option PageKind} {base : Address}
    (h : m.allocatePage s kind = (.ok base, m')) : m.newPages m' s = [base] := by
  obtain ⟨room, rfl, hs⟩ := allocatePage_eq_ok h
  rw [newPages, table_congr hs, size_table_extend (lt_size_of_room room), Nat.add_sub_cancel_left]
  rfl

theorem BumpAllocator.toList_pages_malloc (a : BumpAllocator) (m : Memory) (s : SpaceId)
    (size : Nat) : (a.malloc m s size).2.1.pages.toList =
      a.pages.toList ++ m.newPages (a.malloc m s size).2.2 s := by
  have hanswer := answers_malloc a m s size
  generalize a.malloc m s size = r at hanswer
  cases hanswer with
  | tooLarge large => simp [Memory.newPages_of_table_eq]
  | refused fits hr =>
    have htable := Memory.table_congr (Memory.storage_of_allocatePage hr) s
    simp [Memory.newPages_of_table_eq htable]
  | cut fits hc left => simp [Memory.newPages_of_table_eq]
  | @claimed fits needed base m₁ m' hr hs =>
    have hnew : m.newPages m' s = [base] := by
      rw [Memory.newPages, Memory.table_congr hs]
      exact Memory.newPages_of_allocatePage hr
    rw [Array.toList_push, hnew]

end Request

namespace Session

theorem pagesOf_mallocStep (x : Session) (i j : Nat) (s : SpaceId) (size : Nat) :
    (x.mallocStep j s size).2.pagesOf i = x.pagesOf i ++
      (Step.malloc j s size).claimed i x.memory (x.mallocStep j s size).2.memory := by
  let P := fun r : Outcome × Session =>
    r.2.pagesOf i = x.pagesOf i ++ (Step.malloc j s size).claimed i x.memory r.2.memory
  have misuse : P (.misuse, x) := by simp [P, Step.claimed, Memory.newPages_of_table_eq]
  refine onSpace_induction misuse fun _ => onKept_induction misuse fun a ha => ?_
  show pagesOf { x with memory := _, allocators := _ } i = _
  by_cases hj : j = i
  · subst hj
    have hlt := (Array.getElem?_eq_some_iff.mp ha).1
    simp only [pagesOf, Step.claimed, ha, Array.getElem?_setIfInBounds_self_of_lt hlt, if_true]
    exact a.toList_pages_malloc x.memory s size
  · simp only [pagesOf, Step.claimed, Array.getElem?_setIfInBounds_ne hj, if_neg hj,
      List.append_nil]

theorem pagesOf_newAllocator (x : Session) (i : Nat) (policy : PagePolicy) :
    (x.step (.newAllocator policy)).2.pagesOf i = x.pagesOf i := by
  by_cases hi : i = x.allocators.size
  · simp [step, pagesOf, hi]
  · simp [step, pagesOf, Array.getElem?_push, hi]

theorem pagesOf_step (x : Session) (i : Nat) (st : Step) : (x.step st).2.pagesOf i =
    x.pagesOf i ++ st.claimed i x.memory (x.step st).2.memory := by
  cases ha : st.allocator? with
  | some j =>
    cases st <;> try contradiction
    exact pagesOf_mallocStep x i _ _ _
  | none =>
    have hnone : st.claimed i x.memory (x.step st).2.memory = [] := by
      cases st <;> first | contradiction | rfl
    rw [hnone, List.append_nil]
    cases hm : st.makesAllocator with
    | false => rw [pagesOf, allocators_step x ha hm, pagesOf]
    | true =>
      cases st <;> try contradiction
      exact pagesOf_newAllocator x i _

theorem pagesOf_run (x : Session) (i : Nat) (sts : List Step) :
    (x.run sts).2.pagesOf i = x.pagesOf i ++ x.claimed i sts := by
  induction sts generalizing x with
  | nil => simp [run, claimed]
  | cons st sts ih =>
    have hrest := ih (x.step st).2
    rw [pagesOf_step, List.append_assoc] at hrest
    exact hrest

theorem policies_mallocStep (x : Session) (j : Nat) (s : SpaceId) (size : Nat) :
    (x.mallocStep j s size).2.allocators.map BumpAllocator.policy =
      x.allocators.map BumpAllocator.policy := by
  let P := fun r : Outcome × Session =>
    r.2.allocators.map BumpAllocator.policy = x.allocators.map BumpAllocator.policy
  have misuse : P (.misuse, x) := rfl
  refine onSpace_induction misuse fun _ => onKept_induction misuse fun a ha => ?_
  refine Array.ext_getElem? fun i => ?_
  rw [Array.getElem?_map, Array.getElem?_map]
  by_cases hj : j = i
  · subst hj
    have hlt := (Array.getElem?_eq_some_iff.mp ha).1
    rw [Array.getElem?_setIfInBounds_self_of_lt hlt, ha, Option.map_some, Option.map_some,
      a.policy_malloc]
  · rw [Array.getElem?_setIfInBounds_ne hj]

theorem policies_step (x : Session) (st : Step) :
    ((x.step st).2.allocators.map BumpAllocator.policy).toList =
      (x.allocators.map BumpAllocator.policy).toList ++ st.policy?.toList := by
  cases ha : st.allocator? with
  | some j =>
    cases st <;> try contradiction
    have hsame := policies_mallocStep x
    simp only [step, hsame, Step.policy?, Option.toList_none, List.append_nil]
  | none =>
    cases hm : st.makesAllocator with
    | false =>
      have hnone : st.policy? = none := by cases st <;> first | contradiction | rfl
      rw [allocators_step x ha hm, hnone]
      simp
    | true =>
      cases st <;> try contradiction
      simp [step, Step.policy?]

theorem policies_run (x : Session) (sts : List Step) :
    ((x.run sts).2.allocators.map BumpAllocator.policy).toList =
      (x.allocators.map BumpAllocator.policy).toList ++ policies sts := by
  induction sts generalizing x with
  | nil => simp [run, policies]
  | cons st sts ih =>
    have hcons : policies (st :: sts) = st.policy?.toList ++ policies sts := by
      cases h : st.policy? <;> simp [policies, h]
    have hrest := ih (x.step st).2
    rw [policies_step, List.append_assoc] at hrest
    rw [hcons]
    exact hrest

/-- The policy that an allocator is made with is the one it keeps. -/
theorem policy_of_run (origin : Nat) (options : EventLog.Options) (supply : Supply)
    {sts : List Step} {i : Nat} {policy : PagePolicy} (hi : (policies sts)[i]? = some policy) :
    ∃ a, ((start origin options supply).run sts).2.allocators[i]? = some a ∧ a.policy = policy := by
  have hrun := policies_run (start origin options supply) sts
  have hempty :
      ((start origin options supply).allocators.map BumpAllocator.policy).toList = [] := by
    simp [start]
  rw [hempty, List.nil_append] at hrun
  rw [← hrun, Array.getElem?_toList, Array.getElem?_map] at hi
  obtain ⟨a, ha, hpolicy⟩ := Option.map_eq_some_iff.mp hi
  exact ⟨a, ha, hpolicy⟩

/-- Whatever a run does besides, also with requests that fail and with other allocators of the
space: an allocator made with a policy lists the pages that it has claimed, each once and in
ascending order, and the page at each place among them has, in the current table of the space,
the kind that the policy gives to the place. -/
theorem claimed_pages_follow_policy (origin : Nat) (options : EventLog.Options)
    (supply : Supply) {i : Nat} {s : SpaceId} {sts : List Step} (hsts : UsedWith i s sts)
    {policy : PagePolicy} (hi : (policies sts)[i]? = some policy) :
    let x := ((start origin options supply).run sts).2
    let pages := (start origin options supply).claimed i sts
    (∃ a, x.allocators[i]? = some a ∧ a.policy = policy ∧ a.pages.toList = pages) ∧
    pages.Pairwise (fun base base' => base.toNat < base'.toNat) ∧ pages.Nodup ∧
    ∀ j base, pages[j]? = some base → pageStart base.page = base ∧
      (x.memory.table s).kindOf? base.page = some (match policy with
        | .default => (x.memory.space s).config.defaultKind
        | .fixed kind => kind
        | .alternate first => if j % 2 = 0 then first else first.other) := by
  intro x pages
  obtain ⟨a, ha, hpolicy⟩ := policy_of_run origin options supply hi
  have hhoused : a.Housed x.memory s := (housedAt_start origin options supply i s).run
    (fits_start (K := fun _ _ => True) origin options supply) hsts a ha
  have hpages : a.pages.toList = pages := by
    have hrun := pagesOf_run (start origin options supply) i sts
    rw [pagesOf, ha] at hrun
    exact hrun
  have hascending := hhoused.ascending
  rw [hpages] at hascending
  refine ⟨⟨a, ha, hpolicy, hpages⟩, hascending, ?_, fun j base hj => ?_⟩
  · exact hascending.imp fun hlt heq => Nat.ne_of_lt hlt (congrArg UInt32.toNat heq)
  · rw [← hpages, Array.getElem?_toList] at hj
    obtain ⟨k, _, hstart⟩ := hhoused.placed.starts base (Array.mem_of_getElem? hj)
    refine ⟨?_, ?_⟩
    · rw [← UInt32.toNat_inj, Address.toNat_pageStart_page]
      omega
    · rw [hhoused.kinds hj, hpolicy]
      cases policy <;> rfl

/-- A request that is too large, pages of others between its own and a space that is full in the
end: none of them shifts the turns. -/
theorem claimed_pages_follow_policy_in_turn :
    let sts : List Step := [.openSpace { maxPages := 4 }, .newAllocator .default,
      .newAllocator (.alternate .direct), .malloc 1 0 5000, .malloc 1 0 4096, .malloc 0 0 8,
      .allocate 0 none, .malloc 1 0 4, .malloc 1 0 4096]
    let x := ((start 1 {}).run sts).2
    UsedWith 1 0 sts ∧ (policies sts)[1]? = some (.alternate .direct) ∧
      (start 1 {}).claimed 1 sts = [0, 12288] ∧
      (x.memory.table 0).kindOf? (Address.page 0) = some .direct ∧
      (x.memory.table 0).kindOf? (Address.page 12288) = some .heap := by
  intro sts x
  have hsts : UsedWith 1 0 sts := by
    intro s' size hmem
    simp only [sts, List.mem_cons, reduceCtorEq, Step.malloc.injEq, List.not_mem_nil, false_or,
      or_false] at hmem
    rcases hmem with h | h | h | h | h <;> exact h.2.1
  have hi : (policies sts)[1]? = some (.alternate .direct) := rfl
  have hpages : (start 1 {}).claimed 1 sts = [0, 12288] := by rfl
  obtain ⟨_, _, _, hkinds⟩ := claimed_pages_follow_policy 1 {} .unlimited hsts hi
  rw [hpages] at hkinds
  exact ⟨hsts, hi, hpages, (hkinds 0 0 rfl).2, (hkinds 1 12288 rfl).2⟩

end Session

end PagedMemory
