import PagedMemory.Text.Number

/-! Decimal numbers. A number is written in digits, without a zero in front of others, and read
back as it was; a count is read from an optional plus sign and digits whose value fits in a
word, and from nothing else. -/

set_option autoImplicit false

namespace PagedMemory.Text

variable {n : Nat} {cs : List Char}

theorem decimal_ne_nil (n : Nat) : decimal n ≠ [] := Nat.toDigits_ne_nil

theorem isDigit_of_mem_decimal {c : Char} (h : c ∈ decimal n) : c.isDigit = true :=
  Nat.isDigit_of_mem_toDigits (by decide) (by decide) h

theorem le_toNat_of_isDigit {c : Char} (h : c.isDigit = true) : 0x30 ≤ c.toNat :=
  (Char.isDigit_iff_toNat.mp h).1

theorem exists_decimal (n : Nat) :
    ∃ d ds, decimal n = d :: ds ∧ (d = '0' → ds = []) ∧ ∀ c ∈ d :: ds, c.isDigit = true := by
  suffices h : ∃ d ds, decimal n = d :: ds ∧ (n ≠ 0 → d ≠ '0') by
    obtain ⟨d, ds, hn, hzero⟩ := h
    refine ⟨d, ds, hn, fun hd => ?_, fun c hc => isDigit_of_mem_decimal (hn ▸ hc)⟩
    obtain rfl : n = 0 := by
      by_cases h0 : n = 0
      · exact h0
      · exact absurd hd (hzero h0)
    rw [decimal, Nat.toDigits_zero] at hn
    exact (List.cons.inj hn).2.symm
  induction n using Nat.strongRecOn with
  | ind n ih =>
    by_cases hlt : n < 10
    · refine ⟨Nat.digitChar n, [], Nat.toDigits_of_lt_base hlt, fun hn hd => hn ?_⟩
      exact Nat.digitChar_eq_zero.mp hd
    · obtain ⟨d, ds, hq, hzero⟩ := ih (n / 10) (by omega)
      refine ⟨d, ds ++ [Nat.digitChar (n % 10)], ?_, fun _ => hzero (by omega)⟩
      have hn := Nat.toDigits_of_base_le (b := 10) (by decide) (Nat.le_of_not_lt hlt)
      rw [decimal] at hq
      rw [decimal, hn, hq, List.cons_append]

theorem digit?_of_isDigit {c : Char} (h : c.isDigit = true) :
    digit? c = some (c.toNat - '0'.toNat) := if_pos h

theorem readDigits_eq_some_iff {seen : Nat} :
    readDigits seen cs = some n ↔
      (∀ c ∈ cs, c.isDigit = true) ∧ Nat.ofDigitChars 10 cs seen = n := by
  induction cs generalizing seen with
  | nil => simp [readDigits]
  | cons c cs ih =>
    by_cases hc : c.isDigit = true
    · simp [readDigits, digit?_of_isDigit hc, ih, hc, Nat.ofDigitChars_cons]
    · simp [readDigits, digit?, hc]

theorem readDigits_decimal (n : Nat) : readDigits 0 (decimal n) = some n :=
  readDigits_eq_some_iff.mpr ⟨fun _ => isDigit_of_mem_decimal, Nat.ofDigitChars_ten_toDigits⟩

theorem decimal_inj {k : Nat} : decimal n = decimal k ↔ n = k := by
  constructor
  · intro h
    have hread := readDigits_decimal n
    rw [h, readDigits_decimal] at hread
    exact (Option.some.inj hread).symm
  · rintro rfl
    rfl

/-- At least one digit, and the number that the digits stand for. -/
structure Numeral (ds : List Char) (n : Nat) : Prop where
  nonempty : ds ≠ []
  digits : ∀ c ∈ ds, c.isDigit = true
  value : Nat.ofDigitChars 10 ds 0 = n

theorem numeral_decimal (n : Nat) : Numeral (decimal n) n :=
  ⟨decimal_ne_nil n, fun _ => isDigit_of_mem_decimal, Nat.ofDigitChars_ten_toDigits⟩

theorem Numeral.not_plus (h : Numeral cs n) (rest : List Char) : cs ≠ '+' :: rest := by
  rintro rfl
  have hplus := h.digits '+' List.mem_cons_self
  contradiction

def unsignedCount (ds : List Char) : Option UInt64 :=
  if ds = [] then none
  else (readDigits 0 ds).bind fun n =>
    if n < UInt64.size then some (UInt64.ofNat n) else none

theorem unsignedCount_eq_some_iff {k : UInt64} :
    unsignedCount cs = some k ↔ Numeral cs k.toNat := by
  unfold unsignedCount
  constructor
  · intro h
    by_cases hne : cs = []
    · rw [if_pos hne] at h
      contradiction
    rw [if_neg hne] at h
    obtain ⟨n, hread, hn⟩ := Option.bind_eq_some_iff.mp h
    obtain ⟨hdigits, hvalue⟩ := readDigits_eq_some_iff.mp hread
    by_cases hlt : n < UInt64.size
    · rw [if_pos hlt] at hn
      rw [← Option.some.inj hn, UInt64.toNat_ofNat_of_lt' hlt]
      exact ⟨hne, hdigits, hvalue⟩
    · rw [if_neg hlt] at hn
      contradiction
  · intro h
    have hread := readDigits_eq_some_iff.mpr ⟨h.digits, h.value⟩
    have hlt : k.toNat < UInt64.size := k.toNat_lt
    rw [if_neg h.nonempty, hread, Option.bind_some, if_pos hlt, UInt64.ofNat_toNat]

theorem readCount_plus (ds : List Char) : readCount ('+' :: ds) = unsignedCount ds := by
  simp only [readCount, unsignedCount, List.isEmpty_iff]
  cases readDigits 0 ds <;> rfl

theorem readCount_of_not_plus (h : ∀ rest, cs ≠ '+' :: rest) :
    readCount cs = unsignedCount cs := by
  unfold readCount unsignedCount
  split
  · rename_i rest
    exact absurd rfl (h rest)
  · simp only [List.isEmpty_iff]
    cases readDigits 0 cs <;> rfl

theorem readCount_eq_some_iff {k : UInt64} :
    readCount cs = some k ↔ ∃ ds, (cs = ds ∨ cs = '+' :: ds) ∧ Numeral ds k.toNat := by
  by_cases hplus : ∃ rest, cs = '+' :: rest
  · obtain ⟨rest, rfl⟩ := hplus
    rw [readCount_plus, unsignedCount_eq_some_iff]
    refine ⟨fun h => ⟨rest, .inr rfl, h⟩, ?_⟩
    rintro ⟨ds, rfl | hcons, h⟩
    · exact absurd rfl (h.not_plus rest)
    · exact (List.cons.inj hcons).2 ▸ h
  · have hnot : ∀ rest, cs ≠ '+' :: rest := fun rest h => hplus ⟨rest, h⟩
    rw [readCount_of_not_plus hnot, unsignedCount_eq_some_iff]
    refine ⟨fun h => ⟨cs, .inl rfl, h⟩, ?_⟩
    rintro ⟨ds, rfl | rfl, h⟩
    · exact h
    · exact absurd rfl (hnot ds)

theorem readCount_decimal (k : UInt64) : readCount (decimal k.toNat) = some k :=
  readCount_eq_some_iff.mpr ⟨_, .inl rfl, numeral_decimal k.toNat⟩

end PagedMemory.Text
