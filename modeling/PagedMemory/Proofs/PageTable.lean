import PagedMemory.Proofs.Memory.Sound

/-! The kinds of the pages in a table. Neighbours in a list differ somewhere exactly if the list
has both kinds, so that one look along the table tells whether it does. An extension counts for
the kind of its page alone. -/

set_option autoImplicit false

namespace PagedMemory

theorem PageKind.eq_other_of_ne {j k : PageKind} (h : j ≠ k) : j = k.other := by
  cases j <;> cases k <;> first | rfl | contradiction

/-- Where no neighbours differ, all kinds are that of the first page. -/
theorem neighboursDiffer_cons_iff (k : PageKind) (ks : List PageKind) :
    neighboursDiffer (k :: ks) = true ↔ k.other ∈ ks := by
  induction ks generalizing k with
  | nil => simp [neighboursDiffer]
  | cons j ks ih =>
    rw [neighboursDiffer, Bool.or_eq_true, bne_iff_ne, ih, List.mem_cons]
    by_cases h : j = k
    · subst h
      simp [PageKind.other_ne]
    · exact iff_of_true (.inl (Ne.symm h)) (.inl (PageKind.eq_other_of_ne h).symm)

theorem neighboursDiffer_iff (ks : List PageKind) :
    neighboursDiffer ks = true ↔ .heap ∈ ks ∧ .direct ∈ ks := by
  cases ks with
  | nil => simp [neighboursDiffer]
  | cons k ks =>
    rw [neighboursDiffer_cons_iff]
    cases k with
    | heap => simp [PageKind.other]
    | direct => simp [PageKind.other]

namespace PageTable

variable {t : PageTable}

theorem countOf_pos_iff (t : PageTable) (k : PageKind) :
    0 < t.countOf k ↔ k ∈ t.kinds.toList := by
  simp [countOf]

theorem countOf_extended (t : PageTable) (page : Page) (token : Nat) (k : PageKind) :
    (t.extended page token).countOf k = t.countOf k + if page.kind == k then 1 else 0 := by
  simp only [countOf, extended, Array.toList_push, List.countP_append, List.countP_singleton]

theorem isHeterogeneous_iff (t : PageTable) :
    t.isHeterogeneous = true ↔ 0 < t.countOf .heap ∧ 0 < t.countOf .direct := by
  rw [isHeterogeneous, neighboursDiffer_iff, countOf_pos_iff, countOf_pos_iff]

theorem isHeterogeneous_extended (h : t.isHeterogeneous = true) (page : Page) (token : Nat) :
    (t.extended page token).isHeterogeneous = true := by
  rw [isHeterogeneous_iff, countOf_extended, countOf_extended]
  obtain ⟨hheap, hdirect⟩ := t.isHeterogeneous_iff.mp h
  exact ⟨Nat.add_pos_left hheap _, Nat.add_pos_left hdirect _⟩

inductive Built : PageTable → Prop where
  | empty (token : Nat) : Built (.empty token)
  | extended {t : PageTable} (h : Built t) (page : Page) (token : Nat) :
      Built (t.extended page token)

theorem Built.countOf_add_countOf (h : t.Built) :
    t.countOf .heap + t.countOf .direct = t.size := by
  induction h with
  | empty token => rfl
  | @extended t _ page token ih =>
    have hsize : (t.extended page token).size = t.size + 1 := Array.size_push ..
    rw [countOf_extended, countOf_extended, hsize, ← ih]
    cases page.kind with
    | heap => simp; omega
    | direct => simp; omega

theorem Aligned.built (h : t.Aligned) : t.Built := by
  obtain ⟨kinds, pages, generation, token⟩ := t
  obtain ⟨rfl, rfl⟩ : kinds = pages.map Page.kind ∧ generation = pages.size :=
    ⟨h.kinds, h.generation⟩
  clear h
  -- The last page is the one that the last extension added.
  induction hn : pages.size generalizing pages token with
  | zero =>
    obtain rfl := Array.eq_empty_of_size_eq_zero hn
    rw [Array.map_empty]
    exact .empty token
  | succ n ih =>
    obtain ⟨before, page, rfl⟩ := Array.exists_push_of_size_eq_add_one hn
    have hbefore : before.size = n := by simpa using hn
    simpa [PageTable.extended] using (ih before 0 hbefore).extended page token

/-- The kinds in a table that extensions have led to. Neighbours of different kinds are found in
it exactly if both kinds are there, and each page is of one of them. A further page adds one to
the count of its own kind and nothing to the other, so that both kinds stay. -/
theorem both_kinds_iff_neighbours_differ (h : t.Built) :
    (t.isHeterogeneous = true ↔ 0 < t.countOf .heap ∧ 0 < t.countOf .direct) ∧
    t.countOf .heap + t.countOf .direct = t.size ∧
    ∀ (page : Page) (token : Nat), let t' := t.extended page token
      (t.isHeterogeneous = true → t'.isHeterogeneous = true) ∧
      t'.countOf page.kind = t.countOf page.kind + 1 ∧
      t'.countOf page.kind.other = t.countOf page.kind.other := by
  refine ⟨t.isHeterogeneous_iff, h.countOf_add_countOf, fun page token => ⟨?_, ?_, ?_⟩⟩
  · exact fun ht => isHeterogeneous_extended ht page token
  · rw [countOf_extended, if_pos BEq.rfl]
  · rw [countOf_extended, if_neg (by simp [page.kind.other_ne.symm]), Nat.add_zero]

/-- The kinds differ in the last page only. -/
theorem both_kinds_iff_neighbours_differ_last :
    let t := ((PageTable.empty 0).extended ⟨.heap, 0⟩ 1).extended ⟨.heap, 1⟩ 2
    let t' := t.extended ⟨.direct, 2⟩ 3
    t.Built ∧ t'.Built ∧ t.isHeterogeneous = false ∧ t'.isHeterogeneous = true ∧
      t'.countOf .heap + t'.countOf .direct = 3 ∧
      (t'.extended ⟨.heap, 3⟩ 4).isHeterogeneous = true := by
  intro t t'
  have h : t.Built := ((Built.empty 0).extended _ _).extended _ _
  have h' : t'.Built := h.extended _ _
  obtain ⟨hdiffer, hsum, hmore⟩ := both_kinds_iff_neighbours_differ h'
  have hboth : t'.isHeterogeneous = true := hdiffer.mpr (by decide)
  exact ⟨h, h', rfl, hboth, hsum, (hmore _ 4).1 hboth⟩

end PageTable

end PagedMemory
