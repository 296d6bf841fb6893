import Mathlib.Data.List.Forall2
import PagedMemory.Config.Environment
import PagedMemory.Proofs.Text.Number

/-! Configuration from environment variables. The text of a variable decides its own field and
nothing else. A text that spells no value leaves the field at its default, as if the variable were
absent; only the switch for statistics is off then, although it is on by default. -/

set_option autoImplicit false

namespace PagedMemory

namespace Text

variable {c d : Char} {word word' s : String}

theorem isUpper_iff_toNat : d.isUpper = true ↔ 0x41 ≤ d.toNat ∧ d.toNat ≤ 0x5A := by
  have hbounds : d.isUpper = true ↔ 'A'.val ≤ d.val ∧ d.val ≤ 'Z'.val := decide_eq_true_iff
  rw [hbounds, UInt32.le_iff_toNat_le, UInt32.le_iff_toNat_le]
  rfl

theorem toNat_toLower (d : Char) :
    d.toLower.toNat = if d.isUpper then d.toNat + 0x20 else d.toNat := by
  cases hd : d.isUpper with
  | true =>
    obtain ⟨hlow, hhigh⟩ := isUpper_iff_toNat.mp hd
    have hspace : (0x20 : UInt32).toNat = 0x20 := rfl
    have hword : (d.val + 0x20).toNat = d.toNat + 0x20 := by
      rw [UInt32.toNat_add, Char.toNat_val, hspace]
      omega
    have hlower : d.toLower = _ := dif_pos (of_decide_eq_true hd)
    rw [hlower, if_pos rfl]
    exact hword
  | false =>
    have hlower : d.toLower = d := dif_neg (of_decide_eq_false hd)
    rw [hlower]
    rfl

def SameLetter (c d : Char) : Prop := d = c ∨ (d.isUpper = true ∧ c.toNat = d.toNat + 0x20)

/-- The text is the word, with any of its letters capital. -/
def Spells (word s : String) : Prop := List.Forall₂ SameLetter word.toList s.toList

def LowerCase (word : String) : Prop := ∀ c ∈ word.toList, c.isUpper = false

theorem toLower_eq_iff (hc : c.isUpper = false) : d.toLower = c ↔ SameLetter c d := by
  rw [← Char.toNat_inj, toNat_toLower, SameLetter]
  cases hd : d.isUpper with
  | false => simp [Char.toNat_inj]
  | true =>
    have hne : d ≠ c := by
      rintro rfl
      rw [hc] at hd
      contradiction
    simp [hne, eq_comm]

theorem map_toLower_eq_iff {cs ds : List Char} (hcs : ∀ c ∈ cs, c.isUpper = false) :
    ds.map Char.toLower = cs ↔ List.Forall₂ SameLetter cs ds := by
  induction ds generalizing cs with
  | nil => cases cs <;> simp
  | cons d ds ih =>
    cases cs with
    | nil => simp
    | cons c cs =>
      have hc := hcs c List.mem_cons_self
      have hrest := ih fun c' hc' => hcs c' (List.mem_cons_of_mem c hc')
      rw [List.map_cons, List.cons_eq_cons, toLower_eq_iff hc, hrest, List.forall₂_cons]

theorem spells_refl (word : String) : Spells word word := List.forall₂_same.mpr fun _ _ => .inl rfl

theorem toLower_eq_iff_spells (hword : LowerCase word) : s.toLower = word ↔ Spells word s := by
  have hlower : s.toLower.toList = s.toList.map Char.toLower := String.toList_map
  rw [Spells, ← map_toLower_eq_iff hword, ← String.toList_inj, hlower]

theorem exists_spells_iff {words : List String} (hwords : ∀ word ∈ words, LowerCase word) :
    (∃ word ∈ words, Spells word s) ↔ s.toLower ∈ words := by
  constructor
  · rintro ⟨word, hmem, h⟩
    rwa [(toLower_eq_iff_spells (hwords word hmem)).mpr h]
  · intro hmem
    exact ⟨s.toLower, hmem, (toLower_eq_iff_spells (hwords _ hmem)).mp rfl⟩

/-- No capital letter stands for a character that is not a letter. -/
theorem toLower_eq_one_iff : s.toLower = "1" ↔ s = "1" := by
  rw [toLower_eq_iff_spells (by simp [LowerCase] : LowerCase "1")]
  constructor
  · intro h
    have hone : List.Forall₂ SameLetter ['1'] s.toList := h
    obtain ⟨d, ds, hd, hds, hs⟩ := List.forall₂_cons_left_iff.mp hone
    rw [List.forall₂_nil_left_iff.mp hds] at hs
    rcases hd with rfl | ⟨hup, hnat⟩
    · exact String.toList_inj.mp hs
    · have hhigh := (isUpper_iff_toNat.mp hup).1
      have hdigit : '1'.toNat = 0x31 := rfl
      omega
  · rintro rfl
    exact spells_refl "1"

end Text

namespace Environment

def kindWords : PageKind → List String
  | .heap => ["heap", "bytes"]
  | .direct => ["direct", "mapped"]

def flagWords : Bool → List String
  | true => ["1", "true"]
  | false => ["0", "false"]

def KindSpelling (s : String) (k : PageKind) : Prop := ∃ word ∈ kindWords k, Text.Spells word s

def CountSpelling (s : String) (n : UInt64) : Prop :=
  ∃ ds, (s.toList = ds ∨ s.toList = '+' :: ds) ∧ Text.Numeral ds n.toNat

def FlagSpelling (s : String) (b : Bool) : Prop := ∃ word ∈ flagWords b, Text.Spells word s

variable {s : String}

theorem kindSpelling_iff {k : PageKind} : KindSpelling s k ↔ s.toLower ∈ kindWords k :=
  Text.exists_spells_iff (by cases k <;> simp [kindWords, Text.LowerCase])

theorem flagSpelling_iff {b : Bool} : FlagSpelling s b ↔ s.toLower ∈ flagWords b :=
  Text.exists_spells_iff (by cases b <;> simp [flagWords, Text.LowerCase])

theorem readKind?_eq (s : String) : readKind? s =
    if s.toLower ∈ kindWords .heap then some .heap
    else if s.toLower ∈ kindWords .direct then some .direct else none := by
  simp only [readKind?, PageKind.parse, kindWords, List.mem_cons, List.not_mem_nil, or_false]
  split
  · rfl
  · split <;> rfl

theorem readKind?_eq_some_iff {k : PageKind} : readKind? s = some k ↔ KindSpelling s k := by
  rw [kindSpelling_iff, readKind?_eq]
  by_cases hheap : s.toLower ∈ kindWords .heap
  · have hdirect : s.toLower ∉ kindWords .direct := by
      simp only [kindWords, List.mem_cons, List.not_mem_nil, or_false] at hheap ⊢
      rcases hheap with hheap | hheap <;> rw [hheap] <;> decide
    cases k <;> simp [hheap, hdirect]
  · cases k <;> simp [hheap]

theorem readFlag_eq_true_iff : readFlag s = true ↔ FlagSpelling s true := by
  rw [flagSpelling_iff]
  simp [readFlag, flagWords, Text.toLower_eq_one_iff]

theorem readFlag_of_flagSpelling {b : Bool} (h : FlagSpelling s b) : readFlag s = b := by
  cases b with
  | true => exact readFlag_eq_true_iff.mpr h
  | false =>
    rw [Bool.eq_false_iff, ne_eq, readFlag_eq_true_iff, flagSpelling_iff]
    have hoff := flagSpelling_iff.mp h
    simp only [flagWords, List.mem_cons, List.not_mem_nil, or_false] at hoff ⊢
    rcases hoff with hoff | hoff <;> rw [hoff] <;> decide

/-- How the text of a variable decides a field: a text that spells a value gives that value, and
without one the field has its default. -/
structure Follows {α : Type} (Spelling : String → α → Prop) (text : Option String)
    (default value : α) : Prop where
  spelled : ∀ s a, text = some s → Spelling s a → value = a
  ignored : (∀ s, text = some s → ∀ a, ¬ Spelling s a) → value = default

def DecidedBy {α : Type} (name : String) (field : Config → α) : Prop :=
  ∀ v w : Variables, v name = w name →
    field (ofVariables v).config = field (ofVariables w).config

theorem follows_getD {α : Type} {Spelling : String → α → Prop} {read : String → Option α}
    (hread : ∀ s a, read s = some a ↔ Spelling s a) (text : Option String) (default : α) :
    Follows Spelling text default ((text.bind read).getD default) := by
  constructor
  · rintro s a rfl hs
    rw [Option.bind_some, (hread s a).mpr hs, Option.getD_some]
  · intro hnone
    cases text with
    | none => rfl
    | some s =>
      have hs : read s = none := Option.eq_none_iff_forall_ne_some.mpr fun a ha =>
        hnone s rfl a ((hread s a).mp ha)
      rw [Option.bind_some, hs, Option.getD_none]

theorem follows_flag (text : Option String) (default : Bool)
    (h : ∀ s, text = some s → (∃ b, FlagSpelling s b) ∨ default = false) :
    Follows FlagSpelling text default ((text.map readFlag).getD default) := by
  constructor
  · rintro s b rfl hs
    rw [Option.map_some, Option.getD_some, readFlag_of_flagSpelling hs]
  · intro hnone
    cases text with
    | none => rfl
    | some s =>
      rw [Option.map_some, Option.getD_some]
      rcases h s rfl with ⟨b, hb⟩ | hoff
      · exact absurd hb (hnone s rfl b)
      · rw [hoff, Bool.eq_false_iff, ne_eq, readFlag_eq_true_iff]
        exact hnone s rfl true

theorem statsEnabled_of_not_flagSpelling {v : Variables} (hs : v.text? statsVariable = some s)
    (hoff : ¬ FlagSpelling s true) : (ofVariables v).config.statsEnabled = false := by
  have hread : (ofVariables v).config.statsEnabled = readFlag s := by
    simp only [config, ofVariables, hs, Option.map_some, Option.getD_some]
  rw [hread, Bool.eq_false_iff, ne_eq, readFlag_eq_true_iff]
  exact hoff

/-- Every field is decided by its own variable alone. The page kind, the number of pages and the
switch for messages follow their variables, whatever these are, so a text that spells nothing is
ignored. So does the switch for statistics where its variable has no text or one that spells a
flag; by any other text statistics are switched off. -/
theorem config_follows_variables (v : Variables) :
    let c := (ofVariables v).config
    let plain : Config := {}
    Follows KindSpelling (v.text? pageKindVariable) plain.defaultKind c.defaultKind ∧
    Follows CountSpelling (v.text? maxPagesVariable) plain.maxPages c.maxPages ∧
    Follows FlagSpelling (v.text? verboseVariable) plain.verbose c.verbose ∧
    ((∀ s, v.text? statsVariable = some s → ∃ b, FlagSpelling s b) →
      Follows FlagSpelling (v.text? statsVariable) plain.statsEnabled c.statsEnabled) ∧
    (∀ s, v.text? statsVariable = some s → (∀ b, ¬ FlagSpelling s b) → c.statsEnabled = false) ∧
    DecidedBy pageKindVariable Config.defaultKind ∧ DecidedBy maxPagesVariable Config.maxPages ∧
    DecidedBy verboseVariable Config.verbose ∧ DecidedBy statsVariable Config.statsEnabled := by
  refine ⟨follows_getD (fun _ _ => readKind?_eq_some_iff) _ _,
    follows_getD (fun _ _ => Text.readCount_eq_some_iff) _ _,
    follows_flag _ _ fun _ _ => .inr rfl,
    fun hspelled => follows_flag _ _ fun s hs => .inl (hspelled s hs),
    fun s hs hnone => statsEnabled_of_not_flagSpelling hs (hnone true), ?_⟩
  refine ⟨fun v w h => ?_, fun v w h => ?_, fun v w h => ?_, fun v w h => ?_⟩ <;>
    simp only [config, ofVariables, Variables.text?, h]

/-- Statistics are on by default, and switched off by a text that spells no flag. -/
theorem statistics_off_by_unspelled :
    let v : Variables := fun name => if name = statsVariable then some "yes".toUTF8 else none
    v.text? statsVariable = some "yes" ∧ (∀ b, ¬ FlagSpelling "yes" b) ∧
    (ofVariables v).config.statsEnabled = false ∧ ({} : Config).statsEnabled = true := by
  have htext : String.fromUTF8? "yes".toUTF8 = some "yes" := by decide
  have hnone : ∀ b, ¬ FlagSpelling "yes" b := by
    intro b
    have hlow : "yes".toLower = "yes" :=
      (Text.toLower_eq_iff_spells (by simp [Text.LowerCase])).mpr (Text.spells_refl "yes")
    rw [flagSpelling_iff, hlow]
    cases b <;> decide
  exact ⟨htext, hnone, statsEnabled_of_not_flagSpelling htext (hnone true), rfl⟩

end Environment

end PagedMemory
