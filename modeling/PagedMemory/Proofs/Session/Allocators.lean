import PagedMemory.Proofs.BumpAllocator.Pages
import PagedMemory.Proofs.Memory.Extent
import PagedMemory.Proofs.Session.Frame
import PagedMemory.Proofs.Session.Runs

/-! The pointers that an allocator hands out when it is always used with one space, whatever a
run does besides. They begin in pages of the allocator, with one exception: once a page is cut to
its end, a request for no bytes still counts as fitting in it, and is answered with the address
behind it. -/

set_option autoImplicit false

namespace PagedMemory

namespace Session

variable {K : SpaceId → PageTable → Prop} {x y : Session} {l : Ledger} {i : Nat} {s : SpaceId}
  {a : BumpAllocator} {st : Step}

inductive Serves (x : Session) (i : Nat) (st : Step) (y : Session) : Prop where
  | kept (h : y.allocators[i]? = x.allocators[i]?)
  | made (policy : PagePolicy) (h : y.allocators[i]? = some ⟨policy, none, 0, #[]⟩)
  | asked {s : SpaceId} {size : Nat} {a : BumpAllocator} (hst : st = .malloc i s size)
      (ha : x.allocators[i]? = some a)
      (h : y.allocators[i]? = some (a.malloc x.memory s size).2.1)
      (hm : y.memory = (a.malloc x.memory s size).2.2)

theorem mallocStep_of_open (hopen : (x.memory.space s).isOpen = true)
    (ha : x.allocators[i]? = some a) (size : Nat) :
    let r := a.malloc x.memory s size
    x.mallocStep i s size = (.allocated r.1 r.2.1.remaining r.2.1.pages.toList,
      { x with memory := r.2.2, allocators := x.allocators.setIfInBounds i r.2.1 }) := by
  simp only [mallocStep, onSpace, if_pos hopen, onKept, ha]

theorem malloc_of_granted (ha : x.allocators[i]? = some a) {size : Nat} {p : Address}
    {remaining : Nat} {pages : List Address}
    (hr : (x.step (.malloc i s size)).1 = .allocated (.ok p) remaining pages) :
    ∃ a' m', a.malloc x.memory s size = (.ok p, a', m') ∧ pages = a'.pages.toList ∧
      (x.step (.malloc i s size)).2.allocators[i]? = some a' ∧
      (x.step (.malloc i s size)).2.memory = m' := by
  have hi := (Array.getElem?_eq_some_iff.mp ha).1
  have hopen : (x.memory.space s).isOpen = true := by
    by_contra hclosed
    have hmisuse : (x.step (.malloc i s size)).1 = .misuse := by
      simp [step, mallocStep, onSpace, hclosed]
    rw [hmisuse] at hr
    contradiction
  have hstep : x.step (.malloc i s size) = _ := mallocStep_of_open hopen ha size
  rw [hstep] at hr ⊢
  generalize a.malloc x.memory s size = r at hr
  obtain ⟨answer, a', m'⟩ := r
  cases hr
  exact ⟨a', m', rfl, rfl, by simp [hi], rfl⟩

theorem serves_mallocStep (x : Session) (i j : Nat) (s : SpaceId) (size : Nat) :
    x.Serves i (.malloc j s size) (x.mallocStep j s size).2 := by
  have misuse : x.Serves i (.malloc j s size) x := .kept rfl
  refine onSpace_induction (P := fun r => x.Serves i (.malloc j s size) r.2) misuse fun _ =>
    onKept_induction (P := fun r => x.Serves i (.malloc j s size) r.2) misuse fun a ha => ?_
  by_cases hj : j = i
  · subst hj
    have hlt := (Array.getElem?_eq_some_iff.mp ha).1
    exact .asked rfl ha (by simp [hlt]) rfl
  · exact .kept (Array.getElem?_setIfInBounds_ne hj)

theorem serves_step (x : Session) (i : Nat) (st : Step) : x.Serves i st (x.step st).2 := by
  cases ha : st.allocator? with
  | some j =>
    cases st <;> try contradiction
    exact serves_mallocStep x i _ _ _
  | none =>
    cases hm : st.makesAllocator with
    | false => exact .kept (by rw [allocators_step x ha hm])
    | true =>
      cases st <;> try contradiction
      rename_i policy
      by_cases hi : i = x.allocators.size
      · exact .made policy (by simp [step, hi])
      · exact .kept (by simp [step, Array.getElem?_push, hi])

/-- The allocator at a place is used with this space alone. -/
def UsedWith (i : Nat) (s : SpaceId) (sts : List Step) : Prop :=
  ∀ s' size, Step.malloc i s' size ∈ sts → s' = s

def HousedAt (x : Session) (i : Nat) (s : SpaceId) : Prop :=
  ∀ a, x.allocators[i]? = some a → a.Housed x.memory s

theorem HousedAt.step (h : x.HousedAt i s) (hf : x.Fits K l) (hst : UsedWith i s [st]) :
    (x.step st).2.HousedAt i s := by
  intro a ha
  cases x.serves_step i st with
  | kept hkept =>
    rw [hkept] at ha
    exact (h a ha).evolves hf.sound (hf.step st).evolves
  | made policy hmade =>
    rw [hmade] at ha
    obtain rfl := Option.some.inj ha
    exact BumpAllocator.housed_new policy _ s
  | asked hmalloc hx hy hm =>
    subst hmalloc
    obtain rfl := hst _ _ (List.mem_singleton_self _)
    rw [hy] at ha
    obtain rfl := Option.some.inj ha
    rw [hm]
    exact (h _ hx).malloc hf.sound _

theorem HousedAt.run {sts : List Step} (h : x.HousedAt i s) (hf : x.Fits K l)
    (hsts : UsedWith i s sts) : (x.run sts).2.HousedAt i s := by
  induction sts generalizing x l K with
  | nil => exact h
  | cons st sts ih =>
    have hst : UsedWith i s [st] := fun s' size hmem =>
      hsts s' size (List.mem_cons.mpr (.inl (List.mem_singleton.mp hmem)))
    exact ih (h.step hf hst) (hf.nextPast st) fun s' size hmem =>
      hsts s' size (List.mem_cons_of_mem _ hmem)

theorem housedAt_start (origin : Nat) (options : EventLog.Options) (supply : Supply) (i : Nat)
    (s : SpaceId) : (start origin options supply).HousedAt i s :=
  fun a ha => by simp [start] at ha

/-- Every request that an allocator used with one space grants, of any size and after any run:
the pointer is the sum of the start of the current page and of what was cut from it before. It
begins in a page of the allocator, and the sum is none beyond the last address, exactly unless no
bytes were asked of a page that is cut to its end. A pointer into a page of the allocator can be
read through at once. -/
theorem pointer_in_own_page_iff (origin : Nat) (options : EventLog.Options) (supply : Supply)
    {i : Nat} {s : SpaceId} {sts : List Step} (hsts : UsedWith i s sts) {a : BumpAllocator}
    (ha : ((start origin options supply).run sts).2.allocators[i]? = some a) {size : Nat}
    {p : Address} {remaining : Nat} {pages : List Address}
    (hr : (((start origin options supply).run sts).2.step (.malloc i s size)).1 =
      .allocated (.ok p) remaining pages) :
    let y := (((start origin options supply).run sts).2.step (.malloc i s size)).2
    ∃ a' base top, y.allocators[i]? = some a' ∧ pages = a'.pages.toList ∧
      a'.current = some base ∧ a'.top = top + BumpAllocator.rounded size ∧
      p = base + UInt32.ofNat top ∧
      ((pageStart p.page ∈ pages ∧ base.toNat + top < UInt32.size) ↔
        ¬ (size = 0 ∧ a.Spent)) ∧
      (pageStart p.page ∈ pages → ∃ v, y.memory.read s p = .ok v) := by
  intro y
  obtain ⟨hf, _⟩ := (fits_start (K := fun _ _ => True) origin options supply).run sts
    fun _ _ _ _ => trivial
  have hhoused := (housedAt_start origin options supply i s).run
    (fits_start (K := fun _ _ => True) _ _ _) hsts a ha
  dsimp only [y]
  generalize ((start origin options supply).run sts).2 = x at ha hr hf hhoused ⊢
  have hsound := hf.sound
  obtain ⟨a', m', hmalloc, hpages, hself, hmemory⟩ := malloc_of_granted ha hr
  obtain ⟨base, top, hcurrent, htop, hp, hin⟩ := hhoused.granted hsound hmalloc
  have hafter := hhoused.malloc hsound size
  rw [hmalloc] at hafter
  refine ⟨a', base, top, hself, hpages, hcurrent, htop, hp, ?_, ?_⟩
  · rw [hpages, Array.mem_toList_iff]
    exact hin
  · intro hmem
    rw [hpages, Array.mem_toList_iff] at hmem
    rw [hmemory, Memory.exists_read_iff]
    exact hafter.lt_of_pageStart_mem hmem

/-- After a page that is cut to its end, one byte is asked: a page is claimed for it. -/
theorem pointer_in_own_page_iff_spent :
    let sts : List Step :=
      [.openDefault, .newAllocator .default, .allocate 0 none, .malloc 0 0 4096]
    let x := ((start 1 {}).run sts).2
    let y := (x.step (.malloc 0 0 1)).2
    UsedWith 0 0 sts ∧ (∃ a, x.allocators[0]? = some a ∧ a.Spent) ∧
      (x.step (.malloc 0 0 1)).1 = .allocated (.ok 8192) 4092 [4096, 8192] ∧
      pageStart (Address.page 8192) ∈ ([4096, 8192] : List Address) ∧
      ∃ v, y.memory.read 0 8192 = .ok v := by
  intro sts x y
  have hsts : UsedWith 0 0 sts := by
    intro s' size hmem
    simp only [sts, List.mem_cons, reduceCtorEq, Step.malloc.injEq, List.not_mem_nil, false_or,
      or_false] at hmem
    exact hmem.2.1
  have ha : x.allocators[0]? = some ⟨.default, some 4096, 4096, #[4096]⟩ := rfl
  have hr : (x.step (.malloc 0 0 1)).1 = .allocated (.ok 8192) 4092 [4096, 8192] := by
    dsimp only [x, sts]
    rfl
  obtain ⟨_, _, _, _, _, _, _, _, hin, hread⟩ := pointer_in_own_page_iff 1 {} .unlimited hsts ha hr
  have hmem := (hin.mpr fun hzero => absurd hzero.1 (by decide)).1
  exact ⟨hsts, ⟨_, ha, by simp, rfl⟩, hr, hmem, hread hmem⟩

/-- The exception: the pointer is the start of a page that the allocator has not claimed and the
space does not have. -/
theorem pointer_behind_spent_page :
    let sts : List Step := [.openDefault, .newAllocator .default, .malloc 0 0 4096]
    let x := ((start 1 {}).run sts).2
    let r := x.step (.malloc 0 0 0)
    UsedWith 0 0 sts ∧ r.1 = .allocated (.ok 4096) 0 [0] ∧
      pageStart (Address.page 4096) ∉ ([0] : List Address) ∧
      r.2.memory.read 0 4096 = .error (.unmappedAddress 4096) := by
  refine ⟨?_, by rfl, by decide, by rfl⟩
  intro s' size hmem
  simp only [List.mem_cons, reduceCtorEq, Step.malloc.injEq, List.not_mem_nil, false_or,
    or_false] at hmem
  exact hmem.2.1

end Session

end PagedMemory
