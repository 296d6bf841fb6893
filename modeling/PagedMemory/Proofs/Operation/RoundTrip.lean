import PagedMemory.Proofs.Operation.Grammar

/-! Printing operations. A printed name is divided where the operation's own parts meet, so
reading it gives the operation back, whatever its target holds. -/

set_option autoImplicit false

namespace PagedMemory

theorem Verb.colon_not_mem_text (verb : Verb) : ':' ∉ verb.text.toList := by
  cases verb <;> decide

theorem Namespace.colon_not_mem_text (n : Namespace) : ':' ∉ n.text.toList := by
  cases n <;> decide

theorem Namespace.bar_not_mem_text (n : Namespace) : '|' ∉ n.text.toList := by
  cases n <;> decide

theorem Namespace.text_ne_empty (n : Namespace) : n.text ≠ "" := by
  cases n <;> decide

theorem Namespace.text_mem_words (n : Namespace) : n.text ∈ Namespace.words := by
  cases n <;> decide

namespace Operation

def listed (ns : List Namespace) : String := String.intercalate "|" (ns.map Namespace.text)

theorem toList_listed (ns : List Namespace) :
    (listed ns).toList = Text.joined '|' (ns.map Namespace.wire) := by
  rw [listed, Text.toList_intercalate_bar, List.map_map]
  congr 1
  exact List.map_congr_left fun _ _ => String.toList_ofList

theorem colon_not_mem_listed (ns : List Namespace) : ':' ∉ (listed ns).toList := by
  rw [toList_listed]
  refine Text.not_mem_joined (by decide) fun p hp => ?_
  obtain ⟨n, _, rfl⟩ := List.mem_map.mp hp
  simpa [Namespace.text] using n.colon_not_mem_text

theorem barPieces_listed {ns : List Namespace} (h : ns ≠ []) :
    BarPieces (listed ns) (ns.map Namespace.text) where
  text := rfl
  free := by
    intro p hp
    obtain ⟨n, _, rfl⟩ := List.mem_map.mp hp
    exact n.bar_not_mem_text
  nonempty := by simpa using h

theorem lists_listed (ns : List Namespace) : Lists (some (listed ns)) ns := by
  cases ns with
  | nil => exact .empty
  | cons n ns =>
    have hp := barPieces_listed (List.cons_ne_nil n ns)
    refine .known (hp.ne_empty (by simp) n.text_ne_empty) hp ?_ (List.cons_ne_nil n ns)
    refine (List.filter_eq_self.mpr fun p hp => ?_).symm
    obtain ⟨n, _, rfl⟩ := List.mem_map.mp hp
    simpa using n.text_mem_words

/-- The parts of a printed name are the verb, the namespaces and the target. The middle part
is left out if there is nothing to put in it and nothing after it. -/
theorem exists_divided_text (op : Operation) : ∃ middle,
    Divided op.text op.verb.text middle op.target ∧ Lists middle op.namespaces := by
  obtain ⟨verb, ns, target⟩ := op
  have hverb := verb.colon_not_mem_text
  have hlisted := colon_not_mem_listed ns
  cases target with
  | some r =>
    have htext : text ⟨verb, ns, some r⟩ = verb.text ++ ":" ++ listed ns ++ ":" ++ r := by
      rw [← String.toList_inj]
      simp [text, wire, Verb.text, toList_listed]
    exact ⟨some (listed ns), htext ▸ .target hverb hlisted, lists_listed ns⟩
  | none =>
    by_cases hns : ns = []
    · subst hns
      have htext : text ⟨verb, [], none⟩ = verb.text := by
        rw [← String.toList_inj]
        simp [text, wire, Verb.text]
      rw [htext]
      exact ⟨none, .verb hverb, .absent⟩
    · have htext : text ⟨verb, ns, none⟩ = verb.text ++ ":" ++ listed ns := by
        rw [← String.toList_inj]
        simp [text, wire, Verb.text, toList_listed, hns]
      exact ⟨some (listed ns), htext ▸ .middle hverb hlisted, lists_listed ns⟩

theorem parse_text (op : Operation) : parse op.text = .ok op :=
  parse_eq_ok_iff.mpr op.exists_divided_text

theorem text_inj {op op' : Operation} : op.text = op'.text ↔ op = op' := by
  constructor
  · intro h
    have hparse := congrArg parse h
    rw [parse_text, parse_text] at hparse
    exact Except.ok.inj hparse
  · rintro rfl
    rfl

/-- Printing loses nothing. A printed operation is read as itself, so different operations are
printed differently; what is read from a name is read again from its printed form; and the
names that printing leaves as they are, once read, are the printed ones. -/
theorem text_is_faithful :
    (∀ op, parse op.text = .ok op) ∧
    (∀ op op' : Operation, op.text = op'.text ↔ op = op') ∧
    (∀ s, ((parse s).bind fun op => parse op.text) = parse s) ∧
    ∀ s, (parse s).map text = .ok s ↔ ∃ op : Operation, op.text = s := by
  refine ⟨parse_text, fun _ _ => text_inj, fun s => ?_, fun s => ⟨fun h => ?_, ?_⟩⟩
  · cases hs : parse s with
    | error e => rfl
    | ok op => exact op.parse_text
  · cases hs : parse s with
    | error e =>
      rw [hs] at h
      contradiction
    | ok op =>
      rw [hs] at h
      exact ⟨op, Except.ok.inj h⟩
  · rintro ⟨op, rfl⟩
    rw [parse_text]
    rfl

/-- An empty target and one made of separators are kept apart from no target. -/
example : text ⟨.get, [], some ""⟩ = "GET::" ∧ text ⟨.set, [.method, .method], some "|:"⟩ =
    "SET:METHOD|METHOD:|:" := by decide

end Operation

end PagedMemory
