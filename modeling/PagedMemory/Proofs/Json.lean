import PagedMemory.Proofs.Text.Number
import PagedMemory.Proofs.Text.Quoted

/-! JSON texts. What is written of a value in the compact form is read as that value, whatever
stands behind it in the text, so that different values are written differently. -/

set_option autoImplicit false

namespace PagedMemory.Json

mutual
/-- The numbers are whole, and the texts and names are escaped as they are written. -/
def Legible : Json → Prop
  | .null => True
  | .bool _ => True
  | .number w => ∃ n, w = Text.decimal n
  | .string w => ∃ cs, w = Text.escape cs
  | .array xs => LegibleItems xs
  | .object ms => LegibleMembers ms

def LegibleItems : List Json → Prop
  | [] => True
  | x :: xs => Legible x ∧ LegibleItems xs

def LegibleMembers : List (List Char × Json) → Prop
  | [] => True
  | (k, v) :: ms => (∃ cs, k = Text.escape cs) ∧ Legible v ∧ LegibleMembers ms
end

theorem legibleMembers_iff {ms : List (List Char × Json)} :
    LegibleMembers ms ↔ ∀ m ∈ ms, (∃ cs, m.1 = Text.escape cs) ∧ Legible m.2 := by
  induction ms with
  | nil => simp [LegibleMembers]
  | cons m ms ih => simp [LegibleMembers, ih, and_assoc]

theorem legible_ofNat (n : Nat) : Legible (ofNat n) := ⟨n, rfl⟩
theorem legible_ofString (s : String) : Legible (ofString s) := ⟨s.toList, rfl⟩

theorem ofNat_inj {n k : Nat} : ofNat n = ofNat k ↔ n = k := by
  rw [ofNat, ofNat, Json.number.injEq, Text.decimal_inj]

theorem ofString_inj {s t : String} : ofString s = ofString t ↔ s = t := by
  rw [ofString, ofString, Json.string.injEq, Text.escape_inj, String.toList_inj]

/-- What can stand behind a value: the end of the text, or what ends an item or a member. -/
def Ends (rest : List Char) : Prop :=
  rest = [] ∨ ∃ c cs, rest = c :: cs ∧ (c = ',' ∨ c = ']' ∨ c = '}')

theorem ends_compactItems (xs : List Json) (rest : List Char) : Ends (compactItems xs ++ rest) := by
  cases xs with
  | nil => exact .inr ⟨']', rest, rfl, by decide⟩
  | cons x xs => exact .inr ⟨',', _, rfl, by decide⟩

theorem ends_compactMembers (ms : List (List Char × Json)) (rest : List Char) :
    Ends (compactMembers ms ++ rest) := by
  cases ms with
  | nil => exact .inr ⟨'}', rest, rfl, by decide⟩
  | cons m ms => exact .inr ⟨',', _, rfl, by decide⟩

theorem skip_cons {c : Char} (h : isBlank c = false) (cs : List Char) :
    skip (c :: cs) = c :: cs := by
  simp [skip, h]

variable {fuel n : Nat} {rest : List Char}

theorem ne_of_isDigit {c d : Char} (hd : d.isDigit = true) (hc : c.isDigit = false) : d ≠ c := by
  rintro rfl
  rw [hd] at hc
  contradiction

theorem isBlank_of_isDigit {d : Char} (hd : d.isDigit = true) : isBlank d = false := by
  simp [isBlank, ne_of_isDigit hd]

theorem takeWhile_digits {ds : List Char} (hd : ∀ c ∈ ds, c.isDigit = true) (h : Ends rest) :
    (ds ++ rest).takeWhile Char.isDigit = ds ∧ (ds ++ rest).dropWhile Char.isDigit = rest := by
  have hstop : rest.takeWhile Char.isDigit = [] ∧ rest.dropWhile Char.isDigit = rest := by
    rcases h with rfl | ⟨c, cs, rfl, rfl | rfl | rfl⟩
    · exact ⟨rfl, rfl⟩
    · exact ⟨rfl, rfl⟩
    · exact ⟨rfl, rfl⟩
    · exact ⟨rfl, rfl⟩
  rw [List.takeWhile_append_of_pos hd, List.dropWhile_append_of_pos hd, hstop.1, hstop.2]
  exact ⟨List.append_nil ds, rfl⟩

theorem readFraction_of_ends (h : Ends rest) : readFraction rest = some ([], rest) := by
  rcases h with rfl | ⟨c, cs, rfl, rfl | rfl | rfl⟩ <;> rfl

theorem readExponent_of_ends (h : Ends rest) : readExponent rest = some ([], rest) := by
  rcases h with rfl | ⟨c, cs, rfl, rfl | rfl | rfl⟩ <;> rfl

theorem readWhole_decimal (n : Nat) (h : Ends rest) :
    readWhole (Text.decimal n ++ rest) = some (Text.decimal n, rest) := by
  obtain ⟨d, ds, hn, hzero, hdigits⟩ := Text.exists_decimal n
  obtain ⟨htake, hdrop⟩ := takeWhile_digits hdigits h
  rw [hn]
  by_cases hd : d = '0'
  · obtain rfl := hzero hd
    rw [hd]
    rfl
  · rw [List.cons_append] at htake hdrop ⊢
    rw [readWhole]
    · simp only [readDigits, htake, hdrop]
    · exact fun _ heq => hd (List.cons.inj heq).1

theorem readUnsigned_decimal (n : Nat) (h : Ends rest) :
    readUnsigned (Text.decimal n ++ rest) = some (Text.decimal n, rest) := by
  simp [readUnsigned, readWhole_decimal n h, readFraction_of_ends h, readExponent_of_ends h]

theorem readValueFuel_of_isDigit {d : Char} (hd : d.isDigit = true) (fuel : Nat) (cs : List Char) :
    readValueFuel (fuel + 1) (d :: cs) =
      (readUnsigned (d :: cs)).map fun (w, rest) => (.number w, rest) := by
  have hne : ∀ c : Char, c.isDigit = false → ∀ ds, d :: cs ≠ c :: ds := fun c hc ds heq =>
    ne_of_isDigit hd hc (List.cons.inj heq).1
  have hnumber : readNumber (d :: cs) = readUnsigned (d :: cs) := by
    rw [readNumber]
    exact hne '-' rfl
  rw [readValueFuel, skip_cons (isBlank_of_isDigit hd)]
  split
  · rename_i heq
    exact absurd heq (hne 'n' rfl _)
  · rename_i heq
    exact absurd heq (hne 't' rfl _)
  · rename_i heq
    exact absurd heq (hne 'f' rfl _)
  · rename_i heq
    exact absurd heq (hne '"' rfl _)
  · rename_i heq
    exact absurd heq (hne '[' rfl _)
  · rename_i heq
    exact absurd heq (hne '{' rfl _)
  · rw [hnumber]

theorem exists_compact {j : Json} (h : j.Legible) :
    ∃ c cs, j.compact = c :: cs ∧ isBlank c = false ∧ c ≠ ']' := by
  match j, h with
  | .null, _ => exact ⟨'n', _, rfl, rfl, by decide⟩
  | .bool true, _ => exact ⟨'t', _, rfl, rfl, by decide⟩
  | .bool false, _ => exact ⟨'f', _, rfl, rfl, by decide⟩
  | .number _, ⟨n, rfl⟩ =>
    obtain ⟨d, ds, hn, _, hdigits⟩ := Text.exists_decimal n
    have hd := hdigits d List.mem_cons_self
    exact ⟨d, ds, by rw [compact, hn], isBlank_of_isDigit hd, ne_of_isDigit hd rfl⟩
  | .string w, _ => exact ⟨'"', _, rfl, rfl, by decide⟩
  | .array [], _ => exact ⟨'[', _, rfl, rfl, by decide⟩
  | .array (x :: xs), _ => exact ⟨'[', _, rfl, rfl, by decide⟩
  | .object [], _ => exact ⟨'{', _, rfl, rfl, by decide⟩
  | .object ((k, v) :: ms), _ => exact ⟨'{', _, rfl, rfl, by decide⟩

theorem skip_compact {j : Json} (h : j.Legible) (rest : List Char) :
    skip (j.compact ++ rest) = j.compact ++ rest := by
  obtain ⟨c, cs, hc, hblank, _⟩ := exists_compact h
  rw [hc, List.cons_append, skip_cons hblank]

theorem compact_append_ne {j : Json} (h : j.Legible) (rest cs : List Char) :
    j.compact ++ rest ≠ ']' :: cs := by
  obtain ⟨c, ds, hc, _, hbracket⟩ := exists_compact h
  rw [hc, List.cons_append]
  exact fun heq => hbracket (List.cons.inj heq).1

theorem readName_escape (cs rest : List Char) :
    readName ('"' :: (Text.escape cs ++ '"' :: ':' :: rest)) = some (Text.escape cs, rest) := by
  have hcolon : skip (':' :: rest) = ':' :: rest := skip_cons rfl rest
  have hquoted := readQuoted_escape cs (':' :: rest)
  rw [readName, skip_cons rfl]
  simp only [hquoted, hcolon, Option.bind_eq_bind, Option.bind_some]

mutual
theorem readValueFuel_compact : ∀ (j : Json) (fuel : Nat) (rest : List Char), j.Legible →
    Ends rest → j.compact.length ≤ fuel → readValueFuel fuel (j.compact ++ rest) = some (j, rest)
  | .null, 0, _, _, _, hf => by simp [compact] at hf
  | .null, fuel + 1, rest, _, _, _ => rfl
  | .bool true, 0, _, _, _, hf => by simp [compact] at hf
  | .bool true, fuel + 1, rest, _, _, _ => rfl
  | .bool false, 0, _, _, _, hf => by simp [compact] at hf
  | .bool false, fuel + 1, rest, _, _, _ => rfl
  | .number _, 0, _, ⟨n, rfl⟩, _, hf => by
    simp [compact, Text.decimal_ne_nil] at hf
  | .number _, fuel + 1, rest, ⟨n, rfl⟩, he, _ => by
    obtain ⟨d, ds, hn, _, hdigits⟩ := Text.exists_decimal n
    have hread := readUnsigned_decimal n he
    rw [compact]
    rw [hn, List.cons_append] at hread ⊢
    rw [readValueFuel_of_isDigit (hdigits d List.mem_cons_self), hread, Option.map_some]
  | .string _, 0, _, _, _, hf => by simp [compact] at hf
  | .string _, fuel + 1, rest, ⟨cs, rfl⟩, _, _ => by
    have htext : (Json.string (Text.escape cs)).compact ++ rest =
        '"' :: (Text.escape cs ++ '"' :: rest) := by simp [compact]
    rw [htext, readValueFuel, skip_cons rfl]
    simp only [readQuoted_escape, Option.map_some]
  | .array [], 0, _, _, _, hf => by simp [compact] at hf
  | .array [], fuel + 1, rest, _, _, _ => rfl
  | .array (x :: xs), 0, _, _, _, hf => by simp [compact] at hf
  | .array (x :: xs), fuel + 1, rest, ⟨hx, hxs⟩, _, hf => by
    have htext : (Json.array (x :: xs)).compact ++ rest =
        '[' :: (x.compact ++ (compactItems xs ++ rest)) := by simp [compact]
    simp only [compact, List.length_cons, List.length_append] at hf
    have hfirst := readValueFuel_compact x fuel (compactItems xs ++ rest) hx
      (ends_compactItems xs rest) (by omega)
    have hrest := readItemsFuel_compact xs fuel rest hxs (by omega)
    rw [htext, readValueFuel, skip_cons rfl]
    simp only [skip_compact hx]
    split
    · rename_i heq
      exact absurd heq (compact_append_ne hx _ _)
    · simp only [hfirst, hrest, Option.bind_eq_bind, Option.bind_some]
  | .object [], 0, _, _, _, hf => by simp [compact] at hf
  | .object [], fuel + 1, rest, _, _, _ => rfl
  | .object ((k, v) :: ms), 0, _, _, _, hf => by simp [compact] at hf
  | .object ((_, v) :: ms), fuel + 1, rest, ⟨⟨cs, rfl⟩, hv, hms⟩, _, hf => by
    have htext : (Json.object ((Text.escape cs, v) :: ms)).compact ++ rest = '{' :: '"' ::
        (Text.escape cs ++ '"' :: ':' :: (v.compact ++ (compactMembers ms ++ rest))) := by
      simp [compact]
    simp only [compact, List.length_cons, List.length_append] at hf
    have hvalue := readValueFuel_compact v fuel (compactMembers ms ++ rest) hv
      (ends_compactMembers ms rest) (by omega)
    have hrest := readMembersFuel_compact ms fuel rest hms (by omega)
    rw [htext, readValueFuel, skip_cons rfl]
    have hmark : isBlank '"' = false := rfl
    simp only [skip_cons hmark]
    split
    · rename_i heq
      exact absurd (List.cons.inj heq).1 (by decide)
    · simp only [readName_escape, hvalue, hrest, Option.bind_eq_bind, Option.bind_some]

theorem readItemsFuel_compact : ∀ (xs : List Json) (fuel : Nat) (rest : List Char),
    LegibleItems xs → (compactItems xs).length ≤ fuel →
      readItemsFuel fuel (compactItems xs ++ rest) = some (xs, rest)
  | [], 0, _, _, hf => by simp [compactItems] at hf
  | [], fuel + 1, rest, _, _ => rfl
  | x :: xs, 0, _, _, hf => by simp [compactItems] at hf
  | x :: xs, fuel + 1, rest, ⟨hx, hxs⟩, hf => by
    have htext : compactItems (x :: xs) ++ rest =
        ',' :: (x.compact ++ (compactItems xs ++ rest)) := by simp [compactItems]
    simp only [compactItems, List.length_cons, List.length_append] at hf
    have hfirst := readValueFuel_compact x fuel (compactItems xs ++ rest) hx
      (ends_compactItems xs rest) (by omega)
    have hrest := readItemsFuel_compact xs fuel rest hxs (by omega)
    rw [htext, readItemsFuel, skip_cons rfl]
    simp only [hfirst, hrest, Option.bind_eq_bind, Option.bind_some]

theorem readMembersFuel_compact : ∀ (ms : List (List Char × Json)) (fuel : Nat)
    (rest : List Char), LegibleMembers ms → (compactMembers ms).length ≤ fuel →
      readMembersFuel fuel (compactMembers ms ++ rest) = some (ms, rest)
  | [], 0, _, _, hf => by simp [compactMembers] at hf
  | [], fuel + 1, rest, _, _ => rfl
  | (k, v) :: ms, 0, _, _, hf => by simp [compactMembers] at hf
  | (_, v) :: ms, fuel + 1, rest, ⟨⟨cs, rfl⟩, hv, hms⟩, hf => by
    have htext : compactMembers ((Text.escape cs, v) :: ms) ++ rest = ',' :: '"' ::
        (Text.escape cs ++ '"' :: ':' :: (v.compact ++ (compactMembers ms ++ rest))) := by
      simp [compactMembers]
    simp only [compactMembers, List.length_cons, List.length_append] at hf
    have hvalue := readValueFuel_compact v fuel (compactMembers ms ++ rest) hv
      (ends_compactMembers ms rest) (by omega)
    have hrest := readMembersFuel_compact ms fuel rest hms (by omega)
    rw [htext, readMembersFuel, skip_cons rfl]
    simp only [readName_escape, hvalue, hrest, Option.bind_eq_bind, Option.bind_some]
end

/-- Reading gives back what was written. -/
theorem read_compact {j : Json} (h : j.Legible) : read j.compact = some j := by
  have hread := readValueFuel_compact j (j.compact.length + 1) [] h (.inl rfl) (by omega)
  rw [List.append_nil] at hread
  simp only [read, hread, Option.bind_eq_bind, Option.bind_some]
  rfl

theorem compact_inj {j j' : Json} (h : j.Legible) (h' : j'.Legible) :
    j.compact = j'.compact ↔ j = j' := by
  constructor
  · intro heq
    have hread := read_compact h
    rw [heq, read_compact h'] at hread
    exact (Option.some.inj hread).symm
  · rintro rfl
    rfl

mutual
theorem shown_compact : ∀ j : Json, j.Legible → Text.Shown j.compact
  | .null, _ => by simp [compact]
  | .bool true, _ => by simp [compact]
  | .bool false, _ => by simp [compact]
  | .number _, ⟨n, rfl⟩ => fun d hd => by
    have hdigit := Text.le_toNat_of_isDigit (Text.isDigit_of_mem_decimal hd)
    omega
  | .string _, ⟨cs, rfl⟩ => by simp [compact]
  | .array [], _ => by simp [compact]
  | .array (x :: xs), ⟨hx, hxs⟩ => by
    simp [compact, shown_compact x hx, shown_compactItems xs hxs]
  | .object [], _ => by simp [compact]
  | .object ((_, v) :: ms), ⟨⟨cs, rfl⟩, hv, hms⟩ => by
    simp [compact, shown_compact v hv, shown_compactMembers ms hms]

theorem shown_compactItems : ∀ xs : List Json, LegibleItems xs → Text.Shown (compactItems xs)
  | [], _ => by simp [compactItems]
  | x :: xs, ⟨hx, hxs⟩ => by
    simp [compactItems, shown_compact x hx, shown_compactItems xs hxs]

theorem shown_compactMembers : ∀ ms : List (List Char × Json), LegibleMembers ms →
    Text.Shown (compactMembers ms)
  | [], _ => by simp [compactMembers]
  | (_, v) :: ms, ⟨⟨cs, rfl⟩, hv, hms⟩ => by
    simp [compactMembers, shown_compact v hv, shown_compactMembers ms hms]
end

end PagedMemory.Json
