import PagedMemory.Proofs.BumpAllocator
import PagedMemory.Proofs.Session.Frame
import PagedMemory.Proofs.Session.Runs

/-! What allocators hand out. Over a whole run, with any number of allocators, each used with
a space of its own choice, and with pages claimed past them: no byte of a space is handed out
twice, since no two allocators claim the same page and each cuts its pages from below. -/

set_option autoImplicit false

namespace PagedMemory

structure Grant where
  allocator : Nat
  space : SpaceId
  start : Address
  size : Nat
  deriving DecidableEq, Repr

namespace Grant

def stop (g : Grant) : Nat := g.start.toNat + BumpAllocator.rounded g.size

def Disjoint (g g' : Grant) : Prop := g.stop ≤ g'.start.toNat ∨ g'.stop ≤ g.start.toNat

end Grant

/-- What a step with this outcome hands out. A request of no bytes gets none. -/
def Step.granted : Step → Outcome → List Grant
  | .malloc i s size, .allocated (.ok p) _ _ => if size = 0 then [] else [⟨i, s, p, size⟩]
  | _, _ => []

namespace Session

def grants (x : Session) : List Step → List Grant
  | [] => []
  | st :: sts => st.granted (x.step st).1 ++ (x.step st).2.grants sts

def AtHome (home : Nat → SpaceId) (sts : List Step) : Prop :=
  ∀ i s size, Step.malloc i s size ∈ sts → s = home i

/-- Allocators share no page, and what was handed out lies apart in their pages. -/
structure Partitioned (home : Nat → SpaceId) (x : Session) (gs : List Grant) : Prop where
  placed : ∀ {i : Nat} {a : BumpAllocator}, x.allocators[i]? = some a →
    a.Placed (x.memory.table (home i)).size
  apart : ∀ {i j : Nat} {a b : BumpAllocator}, x.allocators[i]? = some a →
    x.allocators[j]? = some b → i ≠ j → home i = home j → ∀ base ∈ a.pages, base ∉ b.pages
  granted : ∀ g ∈ gs, g.space = home g.allocator ∧ g.size ≤ pageSize ∧ g.start.toNat % 4 = 0 ∧
    ∃ a, x.allocators[g.allocator]? = some a ∧ a.Contains g.start.toNat g.stop
  disjoint : gs.Pairwise fun g g' => g.space = g'.space → g.Disjoint g'

variable {home : Nat → SpaceId} {x y : Session} {gs : List Grant} {i : Nat}
  {a a' : BumpAllocator}

theorem partitioned_start (home : Nat → SpaceId) (origin : Nat) (options : EventLog.Options)
    (supply : Supply) :
    (start origin options supply).Partitioned home [] where
  placed := fun h => by simp [start] at h
  apart := fun h => by simp [start] at h
  granted := fun g hg => by simp at hg
  disjoint := .nil

theorem Partitioned.of_allocators_eq (h : x.Partitioned home gs)
    (hy : y.allocators = x.allocators)
    (hsize : ∀ s, (x.memory.table s).size ≤ (y.memory.table s).size) : y.Partitioned home gs where
  placed := fun ha => (h.placed (hy ▸ ha)).mono (hsize _)
  apart := fun ha hb => h.apart (hy ▸ ha) (hy ▸ hb)
  granted := fun g hg => by
    rw [hy]
    exact h.granted g hg
  disjoint := h.disjoint

theorem Partitioned.push (h : x.Partitioned home gs) (policy : PagePolicy) :
    { x with allocators := x.allocators.push ⟨policy, none, 0, #[]⟩ }.Partitioned home gs where
  placed := by
    intro i a ha
    rw [Array.getElem?_push] at ha
    split at ha
    · cases ha
      exact BumpAllocator.placed_new policy _
    · exact h.placed ha
  apart := by
    intro i j a b ha hb hij hhome base hbase
    rw [Array.getElem?_push] at ha hb
    split at ha
    · cases ha
      simp at hbase
    · split at hb
      · cases hb
        simp
      · exact h.apart ha hb hij hhome base hbase
  granted := by
    intro g hg
    obtain ⟨hspace, hsize, hmod, a, ha, hcontains⟩ := h.granted g hg
    have hlt := (Array.getElem?_eq_some_iff.mp ha).1
    refine ⟨hspace, hsize, hmod, a, ?_, hcontains⟩
    rw [Array.getElem?_push, if_neg (Nat.ne_of_lt hlt), ha]
  disjoint := h.disjoint

/-- An allocator goes on: it keeps what it has handed out, and any page that it has more is
beyond those that its space had. -/
theorem Partitioned.set (h : x.Partitioned home gs) (ha : x.allocators[i]? = some a)
    (hy : y.allocators = x.allocators.setIfInBounds i a')
    (hsize : ∀ s, (x.memory.table s).size ≤ (y.memory.table s).size)
    (hplaced : a'.Placed (y.memory.table (home i)).size)
    (hpages : ∀ base ∈ a'.pages,
      base ∈ a.pages ∨ base.toNat = 4096 * (x.memory.table (home i)).size)
    (hcontains : ∀ start stop, a.Contains start stop → a'.Contains start stop) :
    y.Partitioned home gs := by
  have hi : i < x.allocators.size := (Array.getElem?_eq_some_iff.mp ha).1
  have hself : y.allocators[i]? = some a' := by simp [hy, hi]
  have hother : ∀ j, i ≠ j → y.allocators[j]? = x.allocators[j]? := by
    intro j hj
    rw [hy, Array.getElem?_setIfInBounds_ne hj]
  -- A page of the allocator is in no other one's list.
  have hmine : ∀ j b, i ≠ j → home i = home j → x.allocators[j]? = some b →
      ∀ base ∈ a'.pages, base ∉ b.pages := by
    intro j b hj hhome hb base hbase hmem
    rcases hpages base hbase with hold | hnew
    · exact h.apart ha hb hj hhome base hold hmem
    · obtain ⟨k, hk, hstart⟩ := (h.placed hb).starts base hmem
      rw [← hhome] at hk
      omega
  constructor
  · intro j b hb
    by_cases hj : i = j
    · subst hj
      obtain rfl := Option.some.inj (hself.symm.trans hb)
      exact hplaced
    · rw [hother j hj] at hb
      exact (h.placed hb).mono (hsize _)
  · intro j k b c hb hc hjk hhome base hbase
    by_cases hj : i = j
    · subst hj
      obtain rfl := Option.some.inj (hself.symm.trans hb)
      rw [hother k hjk] at hc
      exact hmine k c hjk hhome hc base hbase
    · rw [hother j hj] at hb
      by_cases hk : i = k
      · subst hk
        obtain rfl := Option.some.inj (hself.symm.trans hc)
        exact fun hmem => hmine j b hj hhome.symm hb base hmem hbase
      · rw [hother k hk] at hc
        exact h.apart hb hc hjk hhome base hbase
  · intro g hg
    obtain ⟨hspace, hle, hmod, b, hb, hc⟩ := h.granted g hg
    refine ⟨hspace, hle, hmod, ?_⟩
    by_cases hj : i = g.allocator
    · subst hj
      obtain rfl := Option.some.inj (ha.symm.trans hb)
      exact ⟨a', hself, hcontains _ _ hc⟩
    · exact ⟨b, (hother _ hj).trans hb, hc⟩
  · exact h.disjoint

theorem Partitioned.disjoint_cut (h : x.Partitioned home gs) (ha : x.allocators[i]? = some a)
    {base : Address} (hc : a.current = some base) {g : Grant} (hspace : g.space = home i)
    (hstart : g.start.toNat = base.toNat + a.top) (hstop : g.stop ≤ base.toNat + 4096) :
    ∀ g' ∈ gs, g'.space = g.space → g'.Disjoint g := by
  intro g' hg' hsame
  obtain ⟨hspace', _, _, b, hb, base', hbase', hstart', hstop', htop⟩ := h.granted g' hg'
  have hbase := (h.placed ha).mem_of_current hc
  obtain ⟨k, _, hk⟩ := (h.placed ha).starts base hbase
  obtain ⟨k', _, hk'⟩ := (h.placed hb).starts base' hbase'
  by_cases heq : base' = base
  · subst heq
    have hi : i = g'.allocator := by
      by_contra hne
      have hhome : home i = home g'.allocator := by rw [← hspace, ← hsame, hspace']
      exact h.apart ha hb hne hhome base' hbase hbase'
    subst hi
    obtain rfl := Option.some.inj (ha.symm.trans hb)
    have hbelow := htop hc
    exact .inl (by omega)
  · have hne : base'.toNat ≠ base.toNat := fun hn => heq (UInt32.toNat_inj.mp hn)
    unfold Grant.Disjoint
    omega

theorem Partitioned.disjoint_claim (h : x.Partitioned home gs) {g : Grant}
    (hspace : g.space = home i)
    (hstart : g.start.toNat = 4096 * (x.memory.table (home i)).size) :
    ∀ g' ∈ gs, g'.space = g.space → g'.Disjoint g := by
  intro g' hg' hsame
  obtain ⟨hspace', _, _, b, hb, base', hbase', _, hstop', _⟩ := h.granted g' hg'
  obtain ⟨k', hlt, hk'⟩ := (h.placed hb).starts base' hbase'
  have hhome : home g'.allocator = home i := by rw [← hspace', hsame, hspace]
  rw [hhome] at hlt
  exact .inl (by omega)

theorem Partitioned.refused (h : y.Partitioned home gs) (s : SpaceId) (size : Nat)
    (e : MemoryError) (remaining : Nat) (pages : List Address) :
    y.Partitioned home
      (gs ++ (Step.malloc i s size).granted (.allocated (.error e) remaining pages)) := by
  simpa [Step.granted] using h

theorem Partitioned.grant (h : y.Partitioned home gs) {p : Address} {size : Nat}
    (fits : size ≤ pageSize) (ha : y.allocators[i]? = some a) (remaining : Nat)
    (pages : List Address)
    (hp : 0 < size → p.toNat % 4 = 0 ∧
      a.Contains p.toNat (p.toNat + BumpAllocator.rounded size) ∧
      ∀ g' ∈ gs, g'.space = home i → g'.Disjoint ⟨i, home i, p, size⟩) :
    y.Partitioned home
      (gs ++ (Step.malloc i (home i) size).granted (.allocated (.ok p) remaining pages)) := by
  by_cases hzero : size = 0
  · simpa [Step.granted, hzero] using h
  obtain ⟨hmod, hcontains, hdisjoint⟩ := hp (Nat.pos_of_ne_zero hzero)
  simp only [Step.granted, if_neg hzero]
  refine ⟨h.placed, h.apart, ?_, ?_⟩
  · intro g hg
    rcases List.mem_append.mp hg with hg | hg
    · exact h.granted g hg
    · obtain rfl := List.mem_singleton.mp hg
      exact ⟨rfl, fits, hmod, a, ha, hcontains⟩
  · refine List.pairwise_append.mpr ⟨h.disjoint, List.pairwise_singleton _ _, ?_⟩
    intro g hg g' hg'
    obtain rfl := List.mem_singleton.mp hg'
    exact hdisjoint g hg

theorem Partitioned.answers (h : x.Partitioned home gs) (hm : x.memory.Sound)
    (ha : x.allocators[i]? = some a) {size : Nat}
    {r : Except MemoryError Address × BumpAllocator × Memory}
    (hr : a.Answers x.memory (home i) size r)
    (hsize : ∀ s, (x.memory.table s).size ≤ (r.2.2.table s).size) (remaining : Nat)
    (pages : List Address) :
    { x with memory := r.2.2, allocators := x.allocators.setIfInBounds i r.2.1 }.Partitioned home
      (gs ++ (Step.malloc i (home i) size).granted (.allocated r.1 remaining pages)) := by
  have hi : i < x.allocators.size := (Array.getElem?_eq_some_iff.mp ha).1
  have hself : ∀ a', (x.allocators.setIfInBounds i a')[i]? = some a' := fun _ => by simp [hi]
  have hplaced := h.placed ha
  have hmod := BumpAllocator.rounded_mod size
  cases hr with
  | tooLarge large =>
    have hset := h.set ha (y := { x with allocators := x.allocators.setIfInBounds i a }) rfl
      hsize hplaced (fun _ => .inl) fun _ _ => id
    exact hset.refused _ _ _ _ _
  | @refused fits e m' hr =>
    have hset := h.set ha
      (y := { x with memory := m', allocators := x.allocators.setIfInBounds i a }) rfl
      hsize (hplaced.mono (hsize _)) (fun _ => .inl) fun _ _ => id
    exact hset.refused _ _ _ _ _
  | @cut fits base hc left =>
    have hset := h.set ha (y := { x with allocators := x.allocators.setIfInBounds i _ }) rfl
      hsize (hplaced.cut hc left hmod) (fun _ => .inl) fun _ _ hcontains => hcontains.cut _
    refine hset.grant fits (hself _) remaining pages fun hpos => ?_
    have hstart := hplaced.toNat_cut (hm.size_le _) hc left
      (Nat.lt_of_lt_of_le hpos (BumpAllocator.le_rounded size))
    obtain ⟨k, _, hk⟩ := hplaced.starts base (hplaced.mem_of_current hc)
    have htop := hplaced.top_mod
    have hcontains := hplaced.contains_cut hc left
    rw [← hstart] at hcontains
    refine ⟨by omega, hcontains, ?_⟩
    refine h.disjoint_cut ha hc (g := ⟨i, home i, _, size⟩) rfl hstart ?_
    have hle := hplaced.top_le
    have hrem := BumpAllocator.remaining_of_current hc
    simp only [Grant.stop, hstart]
    omega
  | @claimed fits needed base m₁ m' hr hs =>
    obtain ⟨hstart, hgrown⟩ := hm.toNat_of_allocatePage hr
    have hle := BumpAllocator.rounded_le fits
    have hplaced' := hplaced.claim hstart hle hmod
    rw [← hgrown, ← Memory.table_congr hs] at hplaced'
    have hpages : ∀ base' ∈ a.pages.push base,
        base' ∈ a.pages ∨ base'.toNat = 4096 * (x.memory.table (home i)).size := by
      intro base' hmem
      rcases Array.mem_push.mp hmem with hmem | rfl
      · exact .inl hmem
      · exact .inr hstart
    have hset := h.set ha
      (y := { x with memory := m', allocators := x.allocators.setIfInBounds i _ }) rfl hsize
      hplaced' hpages fun _ _ hcontains => hcontains.claim hplaced hstart _
    refine hset.grant fits (hself _) remaining pages fun hpos => ?_
    refine ⟨by omega, BumpAllocator.contains_claim a base hle, ?_⟩
    exact h.disjoint_claim (g := ⟨i, home i, base, size⟩) rfl hstart

theorem Partitioned.mallocStep {K : SpaceId → PageTable → Prop} {l : Ledger}
    (h : x.Partitioned home gs) (hf : x.Fits K l) (i size : Nat) :
    (x.mallocStep i (home i) size).2.Partitioned home
      (gs ++ (Step.malloc i (home i) size).granted (x.mallocStep i (home i) size).1) := by
  let P := fun r : Outcome × Session =>
    r.2.Partitioned home (gs ++ (Step.malloc i (home i) size).granted r.1)
  have misuse : P (.misuse, x) := by simpa [P, Step.granted] using h
  refine onSpace_induction misuse fun _ => onKept_induction misuse ?_
  intro a ha
  have he := (BumpAllocator.advance_malloc a x.memory (home i) size).evolves
  exact h.answers hf.sound ha (a.answers_malloc x.memory (home i) size) (he.size_le hf.sound) _ _

theorem Partitioned.step {K : SpaceId → PageTable → Prop} {l : Ledger}
    (h : x.Partitioned home gs) (hf : x.Fits K l) {st : Step} (hst : AtHome home [st]) :
    (x.step st).2.Partitioned home (gs ++ st.granted (x.step st).1) := by
  have hsize := (hf.step st).evolves.size_le hf.sound
  cases ha : st.allocator? with
  | some i =>
    cases st <;> try contradiction
    rename_i i s size
    obtain rfl := hst i s size (List.mem_singleton.mpr rfl)
    exact h.mallocStep hf i size
  | none =>
    have hnone : st.granted (x.step st).1 = [] := by
      cases st <;> first | contradiction | rfl
    rw [hnone, List.append_nil]
    cases hm : st.makesAllocator with
    | false => exact h.of_allocators_eq (allocators_step x ha hm) hsize
    | true =>
      cases st <;> try contradiction
      exact h.push _

theorem Partitioned.run {K : SpaceId → PageTable → Prop} {l : Ledger}
    (h : x.Partitioned home gs) (hf : x.Fits K l) {sts : List Step} (hsts : AtHome home sts) :
    (x.run sts).2.Partitioned home (gs ++ x.grants sts) := by
  induction sts generalizing x l K gs with
  | nil => simpa [grants, Session.run] using h
  | cons st sts ih =>
    have hst : AtHome home [st] := fun i s size hmem =>
      hsts i s size (List.mem_cons.mpr (.inl (List.mem_singleton.mp hmem)))
    have hrest := ih (h.step hf hst) (hf.nextPast st) fun i s size hmem =>
      hsts i s size (List.mem_cons_of_mem _ hmem)
    rw [List.append_assoc] at hrest
    exact hrest

/-- Whatever a run does besides: what it hands out is aligned and lies in a mapped page of
the allocator asked, no two parts of a space that it hands out overlap, and no page belongs
to two allocators. A request that succeeds claims a page exactly when the allocator has none
or what is left of its last one is too small. -/
theorem grants_disjoint (origin : Nat) (options : EventLog.Options) (supply : Supply)
    {home : Nat → SpaceId} {sts : List Step} (hsts : AtHome home sts) :
    let x := ((start origin options supply).run sts).2
    let gs := (start origin options supply).grants sts
    (∀ g ∈ gs, g.space = home g.allocator ∧ g.size ≤ pageSize ∧ g.start.isAligned = true ∧
      ∃ a, x.allocators[g.allocator]? = some a ∧ ∃ base ∈ a.pages,
        ((x.memory.table g.space).pageAt? base).isSome ∧ base.toNat % pageSize = 0 ∧
          base.toNat ≤ g.start.toNat ∧ g.stop ≤ base.toNat + pageSize) ∧
    gs.Pairwise (fun g g' => g.space = g'.space → g.Disjoint g') ∧
    (∀ i j (a b : BumpAllocator), x.allocators[i]? = some a → x.allocators[j]? = some b →
      i ≠ j → home i = home j → ∀ base ∈ a.pages, base ∉ b.pages) ∧
    ∀ i (a : BumpAllocator), x.allocators[i]? = some a → ∀ size p a' m',
      a.malloc x.memory (home i) size = (.ok p, a', m') →
        if a.pages = #[] ∨ a.remaining < BumpAllocator.rounded size then
          ∃ base, a'.pages = a.pages.push base
        else a'.pages = a.pages := by
  intro x gs
  have hf := fits_start (K := fun _ _ => True) origin options supply
  have h : x.Partitioned home gs := (partitioned_start home origin options supply).run hf hsts
  refine ⟨?_, h.disjoint, fun _ _ _ _ => h.apart, fun _ _ ha _ _ _ _ hr => ?_⟩
  · intro g hg
    obtain ⟨hspace, hsize, hmod, a, ha, base, hbase, hstart, hstop, _⟩ := h.granted g hg
    have hmapped := (h.placed ha).isSome_pageAt? hbase
    rw [← hspace] at hmapped
    exact ⟨hspace, hsize, (Address.isAligned_iff _).mpr hmod, a, ha, base, hbase, hmapped.1,
      hmapped.2, hstart, hstop⟩
  · exact (h.placed ha).pages_malloc hr

/-- Two allocators and a client share a space; the first one leaves the rest of its page when
a request does not fit. -/
theorem grants_disjoint_shared :
    let sts : List Step := [.openDefault, .newAllocator .default, .newAllocator (.fixed .direct),
      .malloc 0 0 10, .malloc 1 0 4096, .allocate 0 none, .malloc 0 0 4090, .malloc 0 0 3]
    let gs := (start 1 {}).grants sts
    AtHome (fun _ => 0) sts ∧
      gs.map (fun g => (g.start.toNat, g.stop)) =
        [(0, 12), (4096, 8192), (12288, 16380), (16380, 16384)] ∧
      gs.Pairwise fun g g' => g.space = g'.space → g.Disjoint g' := by
  intro sts gs
  have hsts : AtHome (fun _ => 0) sts := by
    intro i s size hmem
    simp only [sts, List.mem_cons, reduceCtorEq, Step.malloc.injEq, List.not_mem_nil, false_or,
      or_false] at hmem
    rcases hmem with h | h | h | h <;> exact h.2.1
  exact ⟨hsts, rfl, (grants_disjoint 1 {} .unlimited hsts).2.1⟩

end Session

end PagedMemory
