import PagedMemory.Text.Split

/-! The pieces of a text between separators are the one way to put the text together from
parts that hold no separator. -/

set_option autoImplicit false

namespace PagedMemory.Text

theorem joined_eq_intercalate (c : Char) (ps : List (List Char)) :
    joined c ps = List.intercalate [c] ps := by
  induction ps with
  | nil => rfl
  | cons p ps ih =>
    cases ps with
    | nil => rw [joined, List.intercalate_singleton]
    | cons q qs =>
      rw [joined, List.intercalate_cons_cons, ih, List.append_assoc, List.singleton_append]

theorem toList_intercalate_bar (ws : List String) :
    (String.intercalate "|" ws).toList = joined '|' (ws.map String.toList) := by
  rw [String.toList_intercalate, joined_eq_intercalate]
  rfl

theorem not_mem_joined {c d : Char} (hd : d ≠ c) {ps : List (List Char)}
    (h : ∀ p ∈ ps, d ∉ p) : d ∉ joined c ps := by
  induction ps with
  | nil => exact List.not_mem_nil
  | cons p ps ih =>
    have hrest := ih fun q hq => h q (List.mem_cons_of_mem p hq)
    cases ps with
    | nil => exact h p (by simp)
    | cons q qs =>
      rw [joined, List.mem_append, List.mem_cons]
      rintro (hp | rfl | hq)
      · exact h p (by simp) hp
      · exact hd rfl
      · exact hrest hq

theorem pieces_ne_nil (c : Char) (cs : List Char) : pieces c cs ≠ [] := by
  cases cs with
  | nil => simp [pieces]
  | cons d ds =>
    rw [pieces]
    split
    · simp
    · cases pieces c ds <;> simp [extendFirst]

theorem joined_extendFirst (c d : Char) (ps : List (List Char)) :
    joined c (extendFirst d ps) = d :: joined c ps := by
  cases ps with
  | nil => rfl
  | cons p ps => cases ps <;> rfl

theorem joined_pieces (c : Char) (cs : List Char) : joined c (pieces c cs) = cs := by
  induction cs with
  | nil => rfl
  | cons d ds ih =>
    rw [pieces]
    by_cases hd : d = c
    · subst hd
      rw [if_pos rfl]
      obtain ⟨p, ps, hp⟩ := List.exists_cons_of_ne_nil (pieces_ne_nil d ds)
      rw [hp] at ih ⊢
      rw [joined, List.nil_append, ih]
    · rw [if_neg hd, joined_extendFirst, ih]

theorem not_mem_of_mem_extendFirst {c d : Char} (hd : d ≠ c) {ps : List (List Char)}
    (h : ∀ p ∈ ps, c ∉ p) : ∀ p ∈ extendFirst d ps, c ∉ p := by
  cases ps with
  | nil => simp [extendFirst, hd.symm]
  | cons q qs =>
    intro p hp
    rcases List.mem_cons.mp hp with rfl | hp
    · exact List.not_mem_cons_of_ne_of_not_mem hd.symm (h q (by simp))
    · exact h p (List.mem_cons_of_mem q hp)

theorem not_mem_of_mem_pieces (c : Char) (cs : List Char) : ∀ p ∈ pieces c cs, c ∉ p := by
  induction cs with
  | nil => simp [pieces]
  | cons d ds ih =>
    rw [pieces]
    by_cases hd : d = c
    · rw [if_pos hd]
      intro p hp
      rcases List.mem_cons.mp hp with rfl | hp
      · exact List.not_mem_nil
      · exact ih p hp
    · rw [if_neg hd]
      exact not_mem_of_mem_extendFirst hd ih

theorem pieces_eq_iff {c : Char} {cs : List Char} {ps : List (List Char)} :
    pieces c cs = ps ↔ joined c ps = cs ∧ ps ≠ [] ∧ ∀ p ∈ ps, c ∉ p := by
  constructor
  · rintro rfl
    exact ⟨joined_pieces c cs, pieces_ne_nil c cs, not_mem_of_mem_pieces c cs⟩
  · rintro ⟨rfl, hne, hfree⟩
    exact pieces_joined c ps hne hfree

end PagedMemory.Text
