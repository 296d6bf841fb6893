import PagedMemory.Operation
import PagedMemory.Proofs.Text.Split

/-! The grammar of operation names. A name is divided by its first two colons, and its middle
part by all of its bars. Reading a name accepts exactly the names that are put together in
this way from a verb and known namespaces, and says of every other name which part is at
fault. -/

set_option autoImplicit false

namespace PagedMemory

def Verb.words : List String := ["GET", "SET", "CALL", "NEW", "REMOVE"]

def Namespace.words : List String := ["PROPERTY", "ELEMENT", "METHOD"]

theorem eq_none_iff_not_mem_words {α : Type} {all : List α} {text : α → String}
    (read : String → Option α) (hall : ∀ a, a ∈ all)
    (hread : ∀ a w, text a = w ↔ read w = some a) {w : String} :
    read w = none ↔ w ∉ all.map text := by
  rw [Option.eq_none_iff_forall_ne_some]
  simp only [List.mem_map, not_exists, not_and, hread]
  exact ⟨fun h a _ => h a, fun h a => h a (hall a)⟩

theorem Verb.text_eq_iff {verb : Verb} {w : String} :
    verb.text = w ↔ Verb.read? w.toList = some verb := by
  constructor
  · rintro rfl
    rw [text, String.toList_ofList, read?_wire]
  · intro h
    have hw : verb.wire = w.toList := by simpa using List.find?_some h
    rw [text, hw, String.ofList_toList]

theorem Verb.read?_eq_none_iff {w : String} :
    Verb.read? w.toList = none ↔ w ∉ Verb.words := by
  have hall : ∀ verb : Verb, verb ∈ Verb.all := by
    intro verb
    cases verb <;> decide
  exact eq_none_iff_not_mem_words (fun w => Verb.read? w.toList) hall fun _ _ => text_eq_iff

theorem Namespace.text_eq_iff {n : Namespace} {w : String} :
    n.text = w ↔ Namespace.parse? w = some n := by
  constructor
  · rintro rfl
    rw [parse?, text, String.toList_ofList, read?_wire]
  · intro h
    have hw : n.wire = w.toList := by simpa using List.find?_some h
    rw [text, hw, String.ofList_toList]

theorem Namespace.parse?_eq_none_iff {w : String} :
    Namespace.parse? w = none ↔ w ∉ Namespace.words := by
  have hall : ∀ n : Namespace, n ∈ Namespace.all := by
    intro n
    cases n <;> decide
  exact eq_none_iff_not_mem_words Namespace.parse? hall fun _ _ => text_eq_iff

theorem Namespace.text_injective {n n' : Namespace} (h : n.text = n'.text) : n = n' := by
  have hread := text_eq_iff.mp h
  rw [text_eq_iff.mp rfl] at hread
  exact (Option.some.inj hread).symm

/-- The namespaces read from some words are those that the known words among them name. -/
theorem Namespace.map_text_filterMap (ps : List String) :
    (ps.filterMap Namespace.parse?).map Namespace.text =
      ps.filter (· ∈ Namespace.words) := by
  induction ps with
  | nil => rfl
  | cons p ps ih =>
    cases hp : Namespace.parse? p with
    | none =>
      have hunknown := parse?_eq_none_iff.mp hp
      rw [List.filterMap_cons_none hp, List.filter_cons_of_neg (by simpa using hunknown), ih]
    | some n =>
      have hknown : p ∈ Namespace.words := by
        apply Classical.not_not.mp
        intro hunknown
        rw [parse?_eq_none_iff.mpr hunknown] at hp
        contradiction
      rw [List.filterMap_cons_some hp, List.filter_cons_of_pos (by simpa using hknown),
        List.map_cons, ih, text_eq_iff.mpr hp]

/-- The pieces of a text between its bars. There is at least one, and a piece may be empty. -/
structure BarPieces (t : String) (ps : List String) : Prop where
  text : String.intercalate "|" ps = t
  free : ∀ p ∈ ps, '|' ∉ p.toList
  nonempty : ps ≠ []

theorem barPieces_iff {t : String} {ps : List String} :
    BarPieces t ps ↔ Text.pieces '|' t.toList = ps.map String.toList := by
  rw [Text.pieces_eq_iff, ← Text.toList_intercalate_bar, String.toList_inj]
  constructor
  · rintro ⟨ht, hfree, hne⟩
    exact ⟨ht, by simpa using hne, by simpa using hfree⟩
  · rintro ⟨ht, hne, hfree⟩
    exact ⟨ht, by simpa using hfree, by simpa using hne⟩

theorem BarPieces.ne_empty {t p : String} {ps : List String} (h : BarPieces t ps) (hp : p ∈ ps)
    (hne : p ≠ "") : t ≠ "" := by
  rintro rfl
  have hps : [[]] = ps.map String.toList := barPieces_iff.mp h
  have hmem := List.mem_map_of_mem (f := String.toList) hp
  rw [← hps, List.mem_singleton] at hmem
  exact hne (by simpa using hmem)

theorem exists_barPieces (t : String) : ∃ ps, BarPieces t ps := by
  refine ⟨(Text.pieces '|' t.toList).map String.ofList, barPieces_iff.mpr ?_⟩
  rw [List.map_map]
  exact (List.map_id'' (fun _ => String.toList_ofList) _).symm

namespace Operation

/-- A name, what stands before its first colon, between its first two colons, and after its
second colon. -/
inductive Divided : String → String → Option String → Option String → Prop where
  | verb {v : String} (hv : ':' ∉ v.toList) : Divided v v none none
  | middle {v t : String} (hv : ':' ∉ v.toList) (ht : ':' ∉ t.toList) :
      Divided (v ++ ":" ++ t) v (some t) none
  | target {v t r : String} (hv : ':' ∉ v.toList) (ht : ':' ∉ t.toList) :
      Divided (v ++ ":" ++ t ++ ":" ++ r) v (some t) (some r)

/-- The namespaces that a middle part lists: its known pieces, in order. No part and an empty
part list none, and any other part has to list some. -/
inductive Lists : Option String → List Namespace → Prop where
  | absent : Lists none []
  | empty : Lists (some "") []
  | known {t : String} {ps : List String} {ns : List Namespace} (ht : t ≠ "")
      (hp : BarPieces t ps)
      (hns : ns.map Namespace.text = ps.filter (· ∈ Namespace.words))
      (hne : ns ≠ []) : Lists (some t) ns

theorem Lists.exists_piece {t : String} {ns : List Namespace} {n : Namespace}
    (h : Lists (some t) ns) (hn : n ∈ ns) : ∃ ps, BarPieces t ps ∧ n.text ∈ ps := by
  cases h with
  | empty => contradiction
  | @known _ ps _ ht hp hns hne =>
    have hmem := List.mem_map_of_mem (f := Namespace.text) hn
    rw [hns] at hmem
    exact ⟨ps, hp, (List.mem_filter.mp hmem).1⟩

theorem exists_divided (s : String) : ∃ v middle target, Divided s v middle target := by
  by_cases hs : ':' ∈ s.toList
  · obtain ⟨v, rest, hrest, hv⟩ := List.eq_append_cons_of_mem hs
    by_cases hcolon : ':' ∈ rest
    · obtain ⟨t, r, rfl, ht⟩ := List.eq_append_cons_of_mem hcolon
      obtain rfl : s = String.ofList v ++ ":" ++ String.ofList t ++ ":" ++ String.ofList r := by
        rw [← String.toList_inj, hrest]
        simp
      exact ⟨_, _, _, .target (by simpa using hv) (by simpa using ht)⟩
    · obtain rfl : s = String.ofList v ++ ":" ++ String.ofList rest := by
        rw [← String.toList_inj, hrest]
        simp
      exact ⟨_, _, _, .middle (by simpa using hv) (by simpa using hcolon)⟩
  · exact ⟨s, none, none, .verb hs⟩

def ofParts (v : String) (middle target : Option String) : Except ParseError Operation :=
  match Verb.read? v.toList with
  | none => .error (.unknownVerb v)
  | some verb =>
    match middle.elim (.ok []) fun t => readNamespaces t.toList with
    | .error e => .error e
    | .ok ns => .ok ⟨verb, ns, target⟩

theorem parse_of_divided {s v : String} {middle target : Option String}
    (h : Divided s v middle target) (hs : s ≠ "") : parse s = ofParts v middle target := by
  have hne : s.toList ≠ [] := by simpa using hs
  unfold parse read ofParts
  rw [if_neg hne]
  cases h with
  | verb hv =>
    rw [Text.cut_of_not_mem ':' _ hv]
    dsimp only
    cases Verb.read? s.toList with
    | none => simp
    | some verb => rfl
  | @middle v t hv ht =>
    have hcut : (v ++ ":" ++ t).toList = v.toList ++ ':' :: t.toList := by simp
    rw [hcut, Text.cut_append ':' _ _ hv]
    dsimp only
    cases Verb.read? v.toList with
    | none => simp
    | some verb =>
      rw [Text.cut_of_not_mem ':' _ ht]
      rfl
  | @target v t r hv ht =>
    have hcut : (v ++ ":" ++ t ++ ":" ++ r).toList =
        v.toList ++ ':' :: (t.toList ++ ':' :: r.toList) := by simp
    rw [hcut, Text.cut_append ':' _ _ hv]
    dsimp only
    cases Verb.read? v.toList with
    | none => simp
    | some verb =>
      rw [Text.cut_append ':' _ _ ht]
      simp only [Option.map_some, String.ofList_toList]
      rfl

theorem readNamespaces_of_pieces {t : String} (ht : t ≠ "") {ps : List String}
    (hp : BarPieces t ps) : readNamespaces t.toList =
      if ps.filterMap Namespace.parse? = [] then .error (.noKnownNamespace t)
      else .ok (ps.filterMap Namespace.parse?) := by
  have hne : t.toList ≠ [] := by simpa using ht
  have hread : (ps.map String.toList).filterMap Namespace.read? =
      ps.filterMap Namespace.parse? := List.filterMap_map
  rw [readNamespaces, if_neg hne, barPieces_iff.mp hp, hread]
  cases ps.filterMap Namespace.parse? with
  | nil => simp
  | cons n ns => simp

theorem readNamespaces_eq_ok_iff {t : String} {ns : List Namespace} :
    readNamespaces t.toList = .ok ns ↔ Lists (some t) ns := by
  constructor
  · intro h
    by_cases ht : t = ""
    · subst ht
      cases h
      exact .empty
    · obtain ⟨ps, hp⟩ := exists_barPieces t
      rw [readNamespaces_of_pieces ht hp] at h
      split at h
      · contradiction
      · rename_i hne
        cases h
        exact .known ht hp (Namespace.map_text_filterMap ps) hne
  · intro h
    cases h with
    | empty => rfl
    | @known _ ps _ ht hp hns hne =>
      have heq : ps.filterMap Namespace.parse? = ns := by
        rw [← Namespace.map_text_filterMap] at hns
        exact (List.map_inj_right fun _ _ => Namespace.text_injective).mp hns.symm
      rw [readNamespaces_of_pieces ht hp, heq, if_neg hne]

theorem readNamespaces_eq_error_iff {t : String} {e : ParseError} :
    readNamespaces t.toList = .error e ↔ e = .noKnownNamespace t ∧ t ≠ "" ∧
      ∃ ps, BarPieces t ps ∧ ∀ p ∈ ps, p ∉ Namespace.words := by
  have hnone : ∀ ps : List String, ps.filterMap Namespace.parse? = [] ↔
      ∀ p ∈ ps, p ∉ Namespace.words := by
    intro ps
    simp only [List.filterMap_eq_nil_iff, Namespace.parse?_eq_none_iff]
  constructor
  · intro h
    have ht : t ≠ "" := by
      rintro rfl
      contradiction
    obtain ⟨ps, hp⟩ := exists_barPieces t
    rw [readNamespaces_of_pieces ht hp] at h
    split at h
    · rename_i hnil
      cases h
      exact ⟨rfl, ht, ps, hp, (hnone ps).mp hnil⟩
    · contradiction
  · rintro ⟨rfl, ht, ps, hp, hunknown⟩
    rw [readNamespaces_of_pieces ht hp, if_pos ((hnone ps).mpr hunknown)]

theorem ofParts_eq_ok_iff {v : String} {middle target : Option String} {op : Operation} :
    ofParts v middle target = .ok op ↔
      op.verb.text = v ∧ Lists middle op.namespaces ∧ op.target = target := by
  have hlists : ∀ ns, (middle.elim (.ok []) fun t => readNamespaces t.toList) = .ok ns ↔
      Lists middle ns := by
    intro ns
    cases middle with
    | none =>
      constructor
      · intro h
        cases h
        exact .absent
      · rintro ⟨⟩
        rfl
    | some t => exact readNamespaces_eq_ok_iff
  rw [Verb.text_eq_iff, ← hlists, ofParts]
  cases Verb.read? v.toList with
  | none => simp
  | some verb =>
    dsimp only
    cases middle.elim (.ok []) fun t => readNamespaces t.toList with
    | error e => simp
    | ok ns =>
      constructor
      · intro h
        cases h
        exact ⟨rfl, rfl, rfl⟩
      · rintro ⟨hverb, hns, htarget⟩
        cases op
        cases hverb
        cases hns
        cases htarget
        rfl

theorem ofParts_eq_error_iff {v : String} {middle target : Option String} {e : ParseError} :
    ofParts v middle target = .error e ↔
      (e = .unknownVerb v ∧ v ∉ Verb.words) ∨
      ∃ t, e = .noKnownNamespace t ∧ v ∈ Verb.words ∧ middle = some t ∧ t ≠ "" ∧
        ∃ ps, BarPieces t ps ∧ ∀ p ∈ ps, p ∉ Namespace.words := by
  have hnone := Verb.read?_eq_none_iff (w := v)
  unfold ofParts
  cases hv : Verb.read? v.toList with
  | none =>
    have hunknown := hnone.mp hv
    simp [hunknown, eq_comm]
  | some verb =>
    have hknown : v ∈ Verb.words := by
      simpa [hv] using hnone
    cases middle with
    | none => simp [hknown]
    | some t =>
      have hread : readNamespaces t.toList = .error e ↔ _ := readNamespaces_eq_error_iff
      refine Iff.trans (b := readNamespaces t.toList = .error e) ?_ (hread.trans ?_)
      · simp only [Option.elim_some]
        cases readNamespaces t.toList <;> simp
      · constructor
        · rintro ⟨he, ht, hps⟩
          exact .inr ⟨t, he, hknown, rfl, ht, hps⟩
        · rintro (⟨_, hunknown⟩ | ⟨_, he, _, ⟨⟩, ht, hps⟩)
          · exact absurd hknown hunknown
          · exact ⟨he, ht, hps⟩

section Names
variable {s v : String} {middle target : Option String} {op : Operation}

theorem parse_empty : parse "" = .error .empty := rfl

/-- Only the empty verb alone makes the empty name. -/
theorem Divided.of_empty (h : Divided s v middle target) (hs : s = "") :
    v = "" ∧ middle = none := by
  cases h with
  | verb hv => exact ⟨hs, rfl⟩
  | middle hv ht => simp at hs
  | target hv ht => simp at hs

theorem Divided.target_eq_none_iff (h : Divided s v middle target) :
    target = none ↔ s.toList.count ':' < 2 := by
  cases h with
  | verb hv => simp [List.count_eq_zero_of_not_mem hv]
  | middle hv ht =>
    simp [List.count_eq_zero_of_not_mem hv, List.count_eq_zero_of_not_mem ht]
  | target hv ht =>
    simp [List.count_eq_zero_of_not_mem hv, List.count_eq_zero_of_not_mem ht]

theorem exists_parts {answer : Except ParseError Operation} (h : parse s = answer)
    (hanswer : answer ≠ .error .empty) : s ≠ "" ∧
      ∃ v middle target, Divided s v middle target ∧ ofParts v middle target = answer := by
  have hne : s ≠ "" := by
    rintro rfl
    exact hanswer (h ▸ parse_empty)
  obtain ⟨v, middle, target, hs⟩ := exists_divided s
  exact ⟨hne, v, middle, target, hs, parse_of_divided hs hne ▸ h⟩

theorem parse_eq_empty_iff : parse s = .error .empty ↔ s = "" := by
  constructor
  · intro h
    obtain ⟨v, middle, target, hs⟩ := exists_divided s
    apply Classical.not_not.mp
    intro hne
    rw [parse_of_divided hs hne, ofParts_eq_error_iff] at h
    simp at h
  · rintro rfl
    exact parse_empty

theorem parse_eq_unknownVerb_iff : parse s = .error (.unknownVerb v) ↔
    s ≠ "" ∧ (∃ middle target, Divided s v middle target) ∧ v ∉ Verb.words := by
  constructor
  · intro h
    obtain ⟨hne, w, middle, target, hs, hparts⟩ := exists_parts h (by simp)
    rcases ofParts_eq_error_iff.mp hparts with ⟨he, hunknown⟩ | ⟨_, he, _⟩
    · cases he
      exact ⟨hne, ⟨middle, target, hs⟩, hunknown⟩
    · contradiction
  · rintro ⟨hne, ⟨middle, target, hs⟩, hunknown⟩
    rw [parse_of_divided hs hne, ofParts_eq_error_iff]
    exact .inl ⟨rfl, hunknown⟩

theorem parse_eq_noKnownNamespace_iff {t : String} : parse s = .error (.noKnownNamespace t) ↔
    (∃ v target, Divided s v (some t) target ∧ v ∈ Verb.words) ∧ t ≠ "" ∧
      ∃ ps, BarPieces t ps ∧ ∀ p ∈ ps, p ∉ Namespace.words := by
  constructor
  · intro h
    obtain ⟨_, v, middle, target, hs, hparts⟩ := exists_parts h (by simp)
    rcases ofParts_eq_error_iff.mp hparts with ⟨he, _⟩ | ⟨_, he, hknown, rfl, ht, hps⟩
    · contradiction
    · cases he
      exact ⟨⟨v, target, hs, hknown⟩, ht, hps⟩
  · rintro ⟨⟨v, target, hs, hknown⟩, ht, hps⟩
    have hne : s ≠ "" := fun h => by simpa using (hs.of_empty h).2
    rw [parse_of_divided hs hne, ofParts_eq_error_iff]
    exact .inr ⟨t, rfl, hknown, rfl, ht, hps⟩

theorem parse_eq_ok_iff : parse s = .ok op ↔
    ∃ middle, Divided s op.verb.text middle op.target ∧ Lists middle op.namespaces := by
  constructor
  · intro h
    obtain ⟨_, v, middle, target, hs, hparts⟩ := exists_parts h (by simp)
    obtain ⟨rfl, hlists, rfl⟩ := ofParts_eq_ok_iff.mp hparts
    exact ⟨middle, hs, hlists⟩
  · rintro ⟨middle, hs, hlists⟩
    have hverb : op.verb.text ≠ "" := by cases op.verb <;> decide
    have hne : s ≠ "" := fun h => hverb (hs.of_empty h).1
    rw [parse_of_divided hs hne, ofParts_eq_ok_iff]
    exact ⟨rfl, hlists, rfl⟩

end Names

/-- Reading follows the grammar. The empty name, an unknown verb and a middle part without a
known namespace are each refused as what they are, the first fault first. Every other name is
read as its verb, the known pieces of its middle part in order, and all that follows its
second colon, if it has two. -/
theorem parse_follows_grammar (s : String) :
    (parse s = .error .empty ↔ s = "") ∧
    (∀ v, parse s = .error (.unknownVerb v) ↔
      s ≠ "" ∧ (∃ middle target, Divided s v middle target) ∧ v ∉ Verb.words) ∧
    (∀ t, parse s = .error (.noKnownNamespace t) ↔
      (∃ v target, Divided s v (some t) target ∧ v ∈ Verb.words) ∧ t ≠ "" ∧
        ∃ ps, BarPieces t ps ∧ ∀ p ∈ ps, p ∉ Namespace.words) ∧
    ∀ op, parse s = .ok op ↔
      ∃ middle, Divided s op.verb.text middle op.target ∧ Lists middle op.namespaces ∧
        (op.target = none ↔ s.toList.count ':' < 2) := by
  refine ⟨parse_eq_empty_iff, fun _ => parse_eq_unknownVerb_iff,
    fun _ => parse_eq_noKnownNamespace_iff, fun op => ?_⟩
  rw [parse_eq_ok_iff]
  constructor
  · rintro ⟨middle, hs, hlists⟩
    exact ⟨middle, hs, hlists, hs.target_eq_none_iff⟩
  · rintro ⟨middle, hs, hlists, _⟩
    exact ⟨middle, hs, hlists⟩

/-- A piece that is no namespace is skipped, and what follows the second colon is kept. -/
example : parse "GET:BOGUS|ELEMENT|ELEMENT:a:|b" =
    .ok ⟨.get, [.element, .element], some "a:|b"⟩ := by rfl

end Operation

end PagedMemory
