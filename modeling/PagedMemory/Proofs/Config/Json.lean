import PagedMemory.Config.Json
import PagedMemory.Proofs.Json

/-! Configurations as JSON. What is written of a configuration is read as that configuration,
its members in any order; an object is read only if each of the four is there, and once. -/

set_option autoImplicit false

namespace PagedMemory.Config

def members (c : Config) : List (List Char × Json) :=
  [Json.member kindKey (.ofString c.defaultKind.name),
    Json.member maxPagesKey (.ofNat c.maxPages.toNat),
    Json.member verboseKey (.bool c.verbose),
    Json.member statsKey (.bool c.statsEnabled)]

theorem toJson_eq (c : Config) : c.toJson = .object c.members := rfl

def keys : List String := [kindKey, maxPagesKey, verboseKey, statsKey]

theorem nodup_keys : keys.Nodup := by decide

theorem escape_keys : ∀ key ∈ keys, Text.escape key.toList = key.toList := by decide

theorem written?_escape (s : String) : written? (Text.escape s.toList) = some s := by
  rw [written?, Text.unescape?_escape, Option.map_some, String.ofList_toList]

theorem written?_of_mem_keys {key : String} (h : key ∈ keys) : written? key.toList = some key := by
  have hread := written?_escape key
  rwa [escape_keys key h] at hread

theorem kindOfJson?_ofString (k : PageKind) : kindOfJson? (.ofString k.name) = some k := by
  have hname : kindOfName? k.name = some k := by cases k <;> decide
  rw [Json.ofString, kindOfJson?, written?_escape, Option.bind_some, hname]

theorem countOfJson?_ofNat (n : UInt64) : countOfJson? (.ofNat n.toNat) = some n := by
  have hdigits : (Text.decimal n.toNat).all Char.isDigit = true :=
    List.all_eq_true.mpr fun _ => Text.isDigit_of_mem_decimal
  rw [Json.ofNat, countOfJson?, if_pos hdigits, Text.readCount_decimal]

theorem legible_members {c : Config} :
    ∀ m ∈ c.members, (∃ cs, m.1 = Text.escape cs) ∧ m.2.Legible := by
  have hkey : ∀ key ∈ keys, ∃ cs, key.toList = Text.escape cs := fun key hkey =>
    ⟨key.toList, (escape_keys key hkey).symm⟩
  intro m hm
  simp only [members, List.mem_cons, List.not_mem_nil, or_false] at hm
  rcases hm with rfl | rfl | rfl | rfl
  · exact ⟨hkey kindKey (by decide), Json.legible_ofString _⟩
  · exact ⟨hkey maxPagesKey (by decide), Json.legible_ofNat _⟩
  · exact ⟨hkey verboseKey (by decide), trivial⟩
  · exact ⟨hkey statsKey (by decide), trivial⟩

variable {c : Config} {m : List Char × Json} {ms : List (List Char × Json)}
  {seen seen' : List String}

def name (m : List Char × Json) : String := String.ofList m.1

theorem map_name_members (c : Config) : c.members.map name = keys := by
  simp [members, keys, name, Json.member]

/-- What is known of a configuration when the members of these names have been read. -/
def part (c : Config) (seen : List String) : Draft where
  kind := if kindKey ∈ seen then some c.defaultKind else none
  maxPages := if maxPagesKey ∈ seen then some c.maxPages else none
  verbose := if verboseKey ∈ seen then some c.verbose else none
  stats := if statsKey ∈ seen then some c.statsEnabled else none

theorem part_congr (h : ∀ key, key ∈ seen ↔ key ∈ seen') : c.part seen = c.part seen' := by
  simp only [part, h]

theorem add_kindKey (d : Draft) (value : Json) : d.add kindKey value =
    (fill d.kind (kindOfJson? value)).map fun k => { d with kind := some k } := rfl

theorem add_maxPagesKey (d : Draft) (value : Json) : d.add maxPagesKey value =
    (fill d.maxPages (countOfJson? value)).map fun n => { d with maxPages := some n } := rfl

theorem add_verboseKey (d : Draft) (value : Json) : d.add verboseKey value =
    (fill d.verbose (flagOfJson? value)).map fun b => { d with verbose := some b } := rfl

theorem add_statsKey (d : Draft) (value : Json) : d.add statsKey value =
    (fill d.stats (flagOfJson? value)).map fun b => { d with stats := some b } := rfl

theorem add_part (h : m ∈ c.members) (hseen : name m ∉ seen) :
    (c.part seen).add (name m) m.2 = some (c.part (name m :: seen)) := by
  have hname : ∀ (key : String) (v : Json), name (Json.member key v) = key := fun key _ =>
    String.ofList_toList
  simp only [members, List.mem_cons, List.not_mem_nil, or_false] at h
  rcases h with rfl | rfl | rfl | rfl
  · rw [hname] at hseen ⊢
    rw [add_kindKey, Json.member, kindOfJson?_ofString]
    simp +decide [part, fill, hseen]
  · rw [hname] at hseen ⊢
    rw [add_maxPagesKey, Json.member, countOfJson?_ofNat]
    simp +decide [part, fill, hseen]
  · rw [hname] at hseen ⊢
    rw [add_verboseKey, Json.member, flagOfJson?]
    simp +decide [part, fill, hseen]
  · rw [hname] at hseen ⊢
    rw [add_statsKey, Json.member, flagOfJson?]
    simp +decide [part, fill, hseen]

theorem name_mem_keys (h : m ∈ c.members) : name m ∈ keys := by
  rw [← map_name_members c]
  exact List.mem_map_of_mem h

theorem written?_name (h : m ∈ c.members) : written? m.1 = some (name m) := by
  have hread := written?_of_mem_keys (name_mem_keys h)
  rwa [name, String.toList_ofList] at hread

/-- Members of a configuration are taken, in any order, if they have different names. -/
theorem addAll_part (h : ∀ m ∈ ms, m ∈ c.members) (hnodup : (ms.map name).Nodup)
    (seen : List String) (hfresh : ∀ key ∈ ms.map name, key ∉ seen) :
    (c.part seen).addAll ms = some (c.part (ms.map name ++ seen)) := by
  induction ms generalizing seen with
  | nil => rfl
  | cons m ms ih =>
    have hm := h m List.mem_cons_self
    rw [List.map_cons, List.nodup_cons] at hnodup
    rw [List.map_cons, List.forall_mem_cons] at hfresh
    have hrest := ih (fun m' hm' => h m' (List.mem_cons_of_mem m hm')) hnodup.2 (name m :: seen)
      fun key hkey => 
        List.not_mem_cons_of_ne_of_not_mem (fun heq => hnodup.1 (heq ▸ hkey)) (hfresh.2 key hkey)
    have hpart : c.part (ms.map name ++ name m :: seen) = c.part ((m :: ms).map name ++ seen) :=
      part_congr fun key => by
        simp only [List.map_cons, List.cons_append, List.mem_append, List.mem_cons]
        exact or_left_comm
    simp only [Draft.addAll, written?_name hm, add_part hm hfresh.1, Option.bind_eq_bind,
      Option.bind_some, hrest, hpart]

theorem finish_part (c : Config) (seen : List String) :
    (c.part seen).finish = if ∀ key ∈ keys, key ∈ seen then some c else none := by
  by_cases hkind : kindKey ∈ seen <;> by_cases hmax : maxPagesKey ∈ seen <;>
    by_cases hverbose : verboseKey ∈ seen <;> by_cases hstats : statsKey ∈ seen <;>
      simp [part, keys, Draft.finish, hkind, hmax, hverbose, hstats]

theorem ofJson?_object (ms : List (List Char × Json)) :
    ofJson? (.object ms) = (Draft.addAll {} ms).bind Draft.finish := rfl

theorem read?_object (h : ∀ m ∈ ms, (∃ cs, m.1 = Text.escape cs) ∧ m.2.Legible) :
    read? (Json.object ms).compact = (Draft.addAll {} ms).bind Draft.finish := by
  have hlegible : (Json.object ms).Legible := Json.legibleMembers_iff.mpr h
  rw [read?, Json.read_compact hlegible, Option.bind_some, ofJson?_object]

theorem read?_of_members (h : ∀ m ∈ ms, m ∈ c.members) (hnodup : (ms.map name).Nodup) :
    read? (Json.object ms).compact =
      if ∀ key ∈ keys, key ∈ ms.map name then some c else none := by
  have hnew : ({} : Draft) = c.part [] := rfl
  rw [read?_object fun m hm => legible_members m (h m hm), hnew,
    addAll_part h hnodup [] fun _ _ => List.not_mem_nil, List.append_nil, Option.bind_some,
    finish_part]

def Draft.Has (d : Draft) (key : String) : Prop :=
  (key = kindKey ∧ d.kind.isSome) ∨ (key = maxPagesKey ∧ d.maxPages.isSome) ∨
    (key = verboseKey ∧ d.verbose.isSome) ∨ (key = statsKey ∧ d.stats.isSome)

theorem eq_none_of_fill {α : Type} {seen value : Option α} {a : α} (h : fill seen value = some a) :
    seen = none := by
  cases seen with
  | none => rfl
  | some b => cases h

theorem has_of_add {d d' : Draft} {key : String} {value : Json} (h : d.add key value = some d') :
    (∀ key', d.Has key' → d'.Has key') ∧ (key ∈ keys → ¬ d.Has key ∧ d'.Has key) := by
  by_cases hkey : key ∈ keys
  · simp only [keys, List.mem_cons, List.not_mem_nil, or_false] at hkey
    rcases hkey with rfl | rfl | rfl | rfl
    · rw [add_kindKey] at h
      obtain ⟨_, hfill, rfl⟩ := Option.map_eq_some_iff.mp h
      have hnone := eq_none_of_fill hfill
      exact ⟨fun key' => by simp only [Draft.Has]; grind, by simp +decide [Draft.Has, hnone]⟩
    · rw [add_maxPagesKey] at h
      obtain ⟨_, hfill, rfl⟩ := Option.map_eq_some_iff.mp h
      have hnone := eq_none_of_fill hfill
      exact ⟨fun key' => by simp only [Draft.Has]; grind, by simp +decide [Draft.Has, hnone]⟩
    · rw [add_verboseKey] at h
      obtain ⟨_, hfill, rfl⟩ := Option.map_eq_some_iff.mp h
      have hnone := eq_none_of_fill hfill
      exact ⟨fun key' => by simp only [Draft.Has]; grind, by simp +decide [Draft.Has, hnone]⟩
    · rw [add_statsKey] at h
      obtain ⟨_, hfill, rfl⟩ := Option.map_eq_some_iff.mp h
      have hnone := eq_none_of_fill hfill
      exact ⟨fun key' => by simp only [Draft.Has]; grind, by simp +decide [Draft.Has, hnone]⟩
  · have hother : d.add key value = some d := by
      simp only [keys, List.mem_cons, List.not_mem_nil, or_false, not_or] at hkey
      simp only [Draft.add, hkey, if_false]
    cases hother.symm.trans h
    exact ⟨fun _ => id, fun hmem => absurd hmem hkey⟩

def occurrences (key : String) (ms : List (List Char × Json)) : Nat :=
  ms.countP fun m => written? m.1 = some key

theorem addAll_cons_eq_some {d d' : Draft} (h : d.addAll (m :: ms) = some d') :
    ∃ key d₁, written? m.1 = some key ∧ d.add key m.2 = some d₁ ∧ d₁.addAll ms = some d' := by
  rw [Draft.addAll] at h
  obtain ⟨key, hkey, h⟩ := Option.bind_eq_some_iff.mp h
  obtain ⟨d₁, hadd, h⟩ := Option.bind_eq_some_iff.mp h
  exact ⟨key, d₁, hkey, hadd, h⟩

/-- What has been read has had no member of a configuration twice. -/
theorem occurrences_of_addAll {key : String} (hkey : key ∈ keys) {d d' : Draft}
    (h : d.addAll ms = some d') :
    occurrences key ms ≤ 1 ∧ (d.Has key → occurrences key ms = 0) := by
  induction ms generalizing d with
  | nil => exact ⟨Nat.zero_le 1, fun _ => rfl⟩
  | cons m ms ih =>
    obtain ⟨key', d₁, hwritten, hadd, hrest⟩ := addAll_cons_eq_some h
    obtain ⟨hle, hzero⟩ := ih hrest
    obtain ⟨hkept, hfilled⟩ := has_of_add hadd
    by_cases heq : key' = key
    · subst heq
      obtain ⟨hnone, hhas⟩ := hfilled hkey
      have hcount : occurrences key' (m :: ms) = occurrences key' ms + 1 :=
        List.countP_cons_of_pos (decide_eq_true hwritten)
      rw [hcount, hzero hhas]
      exact ⟨Nat.le_refl 1, fun hd => absurd hd hnone⟩
    · have hcount : occurrences key (m :: ms) = occurrences key ms :=
        List.countP_cons_of_neg (by simpa [hwritten] using heq)
      rw [hcount]
      exact ⟨hle, fun hd => hzero (hkept key hd)⟩

theorem occurrences_members {key : String} (hkey : key ∈ keys) :
    1 ≤ occurrences key c.members := by
  rw [← map_name_members c] at hkey
  obtain ⟨m, hm, rfl⟩ := List.mem_map.mp hkey
  exact List.countP_pos_iff.mpr ⟨m, hm, decide_eq_true (written?_name hm)⟩

theorem nodup_of_perm (h : ms.Perm c.members) : (ms.map name).Nodup := by
  have hperm := h.map name
  rw [map_name_members] at hperm
  exact hperm.nodup_iff.mpr nodup_keys

/-- A configuration survives being written and read, valid or not, with its members in any
order. An object that lacks one of the members is not read, and neither is one with a further
member of the same name, of the same value or another. -/
theorem survives_json (c : Config) :
    read? c.render = some c ∧
    (∀ ms, ms.Perm c.members → read? (Json.object ms).compact = some c) ∧
    (∀ m ms, (m :: ms).Perm c.members → read? (Json.object ms).compact = none) ∧
    ∀ key ∈ keys, ∀ value : Json, value.Legible → ∀ ms,
      ms.Perm (Json.member key value :: c.members) → read? (Json.object ms).compact = none := by
  have hany : ∀ ms, ms.Perm c.members → read? (Json.object ms).compact = some c := by
    intro ms hperm
    rw [read?_of_members (fun m hm => hperm.mem_iff.mp hm) (nodup_of_perm hperm), if_pos]
    intro key hkey
    rw [← map_name_members c] at hkey
    exact (hperm.map name).mem_iff.mpr hkey
  refine ⟨?_, hany, fun m ms hperm => ?_, fun key hkey value hvalue ms hperm => ?_⟩
  · rw [render, toJson_eq]
    exact hany _ (.refl _)
  · have hm : m ∈ c.members := hperm.mem_iff.mp List.mem_cons_self
    obtain ⟨hmissing, hnodup⟩ := List.nodup_cons.mp (nodup_of_perm hperm)
    rw [read?_of_members (fun m' hm' => hperm.mem_iff.mp (List.mem_cons_of_mem m hm')) hnodup,
      if_neg fun hall => hmissing (hall _ (name_mem_keys hm))]
  · have hlegible : ∀ m ∈ ms, (∃ cs, m.1 = Text.escape cs) ∧ m.2.Legible := by
      intro m hm
      rcases List.mem_cons.mp (hperm.mem_iff.mp hm) with rfl | hm
      · exact ⟨⟨key.toList, (escape_keys key hkey).symm⟩, hvalue⟩
      · exact legible_members m hm
    have htwice : 2 ≤ occurrences key ms := by
      have hcount : occurrences key ms = occurrences key (Json.member key value :: c.members) :=
        hperm.countP_eq _
      have hfirst : occurrences key (Json.member key value :: c.members) =
          occurrences key c.members + 1 :=
        List.countP_cons_of_pos (decide_eq_true (written?_of_mem_keys hkey))
      have hmembers := occurrences_members (c := c) hkey
      omega
    rw [read?_object hlegible]
    cases hread : Draft.addAll {} ms with
    | none => rfl
    | some d => exact absurd (occurrences_of_addAll hkey hread).1 (Nat.not_le_of_lt htwice)

end PagedMemory.Config
