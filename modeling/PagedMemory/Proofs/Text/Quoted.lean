import PagedMemory.Json.Reader

/-! Text between quotation marks. A written form stands for one text only, holds no character
below the blank, and is over where the closing mark stands, whatever text it is made of. -/

set_option autoImplicit false

namespace PagedMemory

namespace Text

/-- What a character can be written as: a backslash and a letter, the number of a character
below the blank, or the character itself. -/
inductive Escaped (c : Char) : List Char → Prop where
  | short {e : Char} (he : e ≠ 'u') (hc : shortEscape? e = some c) (shown : 0x20 ≤ e.toNat) :
      Escaped c ['\\', e]
  | numbered (low : c.toNat < 0x20) :
      Escaped c ['\\', 'u', '0', '0', hexDigit (c.toNat / 16), hexDigit c.toNat]
  | plain (mark : c ≠ '"') (backslash : c ≠ '\\') (shown : 0x20 ≤ c.toNat) : Escaped c [c]

theorem escaped_escapeChar (c : Char) : Escaped c (escapeChar c) := by
  unfold escapeChar
  by_cases hmark : c = '"'
  · subst hmark
    exact .short (by decide) rfl (by decide)
  rw [if_neg hmark]
  by_cases hbackslash : c = '\\'
  · subst hbackslash
    exact .short (by decide) rfl (by decide)
  rw [if_neg hbackslash]
  by_cases hn : c = '\n'
  · subst hn
    exact .short (by decide) rfl (by decide)
  rw [if_neg hn]
  by_cases hr : c = '\r'
  · subst hr
    exact .short (by decide) rfl (by decide)
  rw [if_neg hr]
  by_cases ht : c = '\t'
  · subst ht
    exact .short (by decide) rfl (by decide)
  rw [if_neg ht]
  by_cases hb : c = '\x08'
  · subst hb
    exact .short (by decide) rfl (by decide)
  rw [if_neg hb]
  by_cases hf : c = '\x0c'
  · subst hf
    exact .short (by decide) rfl (by decide)
  rw [if_neg hf]
  by_cases hlow : c.toNat < 0x20
  · rw [if_pos hlow]
    exact .numbered hlow
  · rw [if_neg hlow]
    exact .plain hmark hbackslash (Nat.le_of_not_lt hlow)

theorem hexValue?_hexDigit : ∀ n < 16, hexValue? (hexDigit n) = some n := by decide

theorem hexDigit_mod (n : Nat) : hexDigit (n % 16) = hexDigit n := by
  rw [hexDigit, Nat.mod_mod, hexDigit]

theorem shown_hexDigit (n : Nat) : 0x20 ≤ (hexDigit n).toNat := by
  have h : ∀ n < 16, 0x20 ≤ (hexDigit n).toNat := by decide
  rw [← hexDigit_mod]
  exact h _ (Nat.mod_lt n (by decide))

theorem codeUnit?_hexDigit {c : Char} (low : c.toNat < 0x20) :
    codeUnit? '0' '0' (hexDigit (c.toNat / 16)) (hexDigit c.toNat) = some c.toNat := by
  have hzero : hexValue? '0' = some 0 := rfl
  have hhigh := hexValue?_hexDigit (c.toNat / 16) (by omega)
  have hlow := hexValue?_hexDigit (c.toNat % 16) (by omega)
  rw [hexDigit_mod] at hlow
  simp only [codeUnit?, hzero, hhigh, hlow, Option.bind_eq_bind, Option.bind_some,
    Option.some.injEq]
  omega

variable {c : Char} {w : List Char}

/-- There is no control character in the text, and no line break in particular. -/
def Shown (cs : List Char) : Prop := ∀ d ∈ cs, 0x20 ≤ d.toNat

@[simp] theorem shown_nil : Shown [] := List.forall_mem_nil _

@[simp] theorem shown_cons {d : Char} {cs : List Char} :
    Shown (d :: cs) ↔ 0x20 ≤ d.toNat ∧ Shown cs :=
  List.forall_mem_cons

@[simp] theorem shown_append {cs ds : List Char} : Shown (cs ++ ds) ↔ Shown cs ∧ Shown ds :=
  List.forall_mem_append

theorem Shown.not_mem_newline {cs : List Char} (h : Shown cs) : '\n' ∉ cs := fun hmem =>
  absurd (h '\n' hmem) (by decide)

theorem Escaped.shown (h : Escaped c w) : Shown w := by
  cases h with
  | short _ _ shown => simpa [Shown] using shown
  | numbered _ => simp [Shown, shown_hexDigit]
  | plain _ _ shown => simpa [Shown] using shown

theorem Escaped.unescapeFrom_append (h : Escaped c w) (cs : List Char) :
    unescapeFrom none (w ++ cs) = (unescapeFrom none cs).map (c :: ·) := by
  cases h with
  | @short e he hc _ =>
    simp only [List.cons_append, List.nil_append]
    rw [unescapeFrom]
    · simp only [hc]
      cases unescapeFrom none cs <;> rfl
    · exact fun _ _ _ _ _ hu _ => he hu
  | numbered low =>
    have hhigh : ¬ (0xd800 ≤ c.toNat ∧ c.toNat < 0xdc00) := by omega
    have hlow : ¬ (0xdc00 ≤ c.toNat ∧ c.toNat < 0xe000) := by omega
    have hunit : unescapeUnit none c.toNat = some (none, [c]) := by
      simp only [unescapeUnit, if_neg hhigh, if_neg hlow, Char.ofNat_toNat]
    simp only [List.cons_append, List.nil_append, unescapeFrom, codeUnit?_hexDigit low,
      Option.bind_eq_bind, Option.bind_some, hunit]
    cases unescapeFrom none cs <;> rfl
  | plain mark backslash shown =>
    simp only [List.cons_append, List.nil_append]
    rw [unescapeFrom]
    · exact if_neg (by simp [mark, backslash, shown])
    · exact fun _ _ _ _ _ hc _ => backslash hc
    · exact fun _ _ hc _ => backslash hc

@[simp] theorem shown_escape (cs : List Char) : Shown (escape cs) := by
  induction cs with
  | nil => exact shown_nil
  | cons c cs ih => exact shown_append.mpr ⟨(escaped_escapeChar c).shown, ih⟩

/-- A written form stands for the text that it was made of. -/
theorem unescape?_escape (cs : List Char) : unescape? (escape cs) = some cs := by
  induction cs with
  | nil => rfl
  | cons c cs ih =>
    rw [unescape?] at ih ⊢
    rw [escape, (escaped_escapeChar c).unescapeFrom_append, ih, Option.map_some]

theorem escape_inj {cs ds : List Char} : escape cs = escape ds ↔ cs = ds := by
  constructor
  · intro h
    have hread := unescape?_escape cs
    rw [h, unescape?_escape] at hread
    exact (Option.some.inj hread).symm
  · rintro rfl
    rfl

end Text

namespace Json

open Text

theorem isHex_hexDigit (n : Nat) : isHex (hexDigit n) = true := by
  rw [isHex, ← hexDigit_mod, hexValue?_hexDigit _ (Nat.mod_lt n (by decide))]
  rfl

theorem readQuoted_append {c : Char} {w : List Char} (h : Escaped c w) (cs : List Char) :
    readQuoted (w ++ cs) = (readQuoted cs).map fun (q, rest) => (w ++ q, rest) := by
  cases h with
  | @short e he hc _ =>
    simp only [List.cons_append, List.nil_append]
    rw [readQuoted]
    · exact if_pos (Option.isSome_of_eq_some hc)
    · exact fun _ _ _ _ _ hu _ => he hu
  | numbered low =>
    have hzero : isHex '0' = true := rfl
    simp only [List.cons_append, List.nil_append, readQuoted, hzero, isHex_hexDigit, and_self,
      if_true]
  | plain mark backslash shown =>
    simp only [List.cons_append, List.nil_append]
    rw [readQuoted]
    · exact if_neg (by simp [backslash, shown])
    · exact mark
    · exact fun _ _ _ _ _ hc _ => backslash hc
    · exact fun _ _ hc _ => backslash hc

theorem readQuoted_escape (cs rest : List Char) :
    readQuoted (escape cs ++ '"' :: rest) = some (escape cs, rest) := by
  induction cs with
  | nil => rfl
  | cons c cs ih =>
    rw [escape, List.append_assoc, readQuoted_append (escaped_escapeChar c), ih, Option.map_some]

end Json

end PagedMemory
