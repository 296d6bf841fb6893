import PagedMemory.EventLog
import PagedMemory.Proofs.Json
import PagedMemory.Proofs.Text.Split

/-! The stream of events as JSON. An event takes one line, whatever is said in it, and can be
told from every other event by that line. -/

set_option autoImplicit false

namespace PagedMemory

theorem PageKind.name_inj {k k' : PageKind} : k.name = k'.name ↔ k = k' := by
  cases k <;> cases k' <;> decide

namespace Event

def memberNames : List String :=
  ["type", "space", "page_id", "kind", "generation", "pages", "operation", "relinks", "requested",
    "reason"]

theorem escape_memberNames : ∀ name ∈ memberNames, Text.escape name.toList = name.toList := by
  decide

theorem legible_details (e : Event) : ∀ m ∈ e.details,
    (∃ name ∈ memberNames, m.1 = name.toList) ∧ m.2.Legible := by
  cases e <;>
    simp [details, Json.member, memberNames, Json.legible_ofNat, Json.legible_ofString]

theorem legible_toJson (e : Event) : e.toJson.Legible := by
  refine Json.legibleMembers_iff.mpr fun m hm => ?_
  obtain ⟨⟨name, hname, hm⟩, hv⟩ :
      (∃ name ∈ memberNames, m.1 = name.toList) ∧ m.2.Legible := by
    rcases List.mem_cons.mp hm with rfl | hm
    · exact ⟨⟨"type", by decide, rfl⟩, Json.legible_ofString _⟩
    · rcases List.mem_cons.mp hm with rfl | hm
      · exact ⟨⟨"space", by decide, rfl⟩, Json.legible_ofNat _⟩
      · exact e.legible_details m hm
  exact ⟨⟨name.toList, hm.trans (escape_memberNames name hname).symm⟩, hv⟩

theorem shown_wire (e : Event) : Text.Shown e.wire := Json.shown_compact e.toJson e.legible_toJson

theorem toJson_inj {e e' : Event} : e.toJson = e'.toJson ↔ e = e' := by
  cases e <;> cases e' <;>
    simp [toJson, type, space, details, Json.member, Json.ofNat_inj, Json.ofString_inj,
      PageKind.name_inj, UInt32.toNat_inj]

theorem wire_inj {e e' : Event} : e.wire = e'.wire ↔ e = e' := by
  rw [wire, wire, Json.compact_inj e.legible_toJson e'.legible_toJson, toJson_inj]

end Event

theorem Text.lines_of_shown {cs : List Char} (h : Text.Shown cs) : Text.lines cs = [cs] := by
  have hreturn : cs.getLast? ≠ some '\r' := fun hlast =>
    absurd (h '\r' (List.mem_of_getLast? hlast)) (by decide)
  rw [Text.lines, Text.pieces_of_not_mem '\n' cs h.not_mem_newline, List.map_singleton,
    Text.withoutReturn, if_neg hreturn]

theorem EventLog.text_of_json {o : EventLog.Options} (ho : o.json = true) (time : String)
    (e : Event) : EventLog.text o time e =
      (if o.timestamps then "[" ++ time ++ "] " else "") ++ String.ofList e.wire := by
  simp only [EventLog.text, ho, if_true]
  rfl

theorem EventLog.shown_text {o : EventLog.Options} (ho : o.json = true) {time : String}
    (ht : Text.Shown time.toList) (e : Event) : Text.Shown (EventLog.text o time e).toList := by
  rw [EventLog.text_of_json ho]
  cases o.timestamps with
  | false => simp [e.shown_wire]
  | true => simp [ht, e.shown_wire]

theorem EventLog.wire_suffix_text {o : EventLog.Options} (ho : o.json = true) (time : String)
    (e : Event) : e.wire <:+ (EventLog.text o time e).toList := by
  rw [EventLog.text_of_json ho, String.toList_append, String.toList_ofList]
  exact List.suffix_append _ _

namespace Event

/-- The stream of events as JSON is unambiguous. There is no control character in the text of an
event, so that it takes one line of the stream and ends it; and events that differ in anything
have different texts, whatever the operations and the reasons in them look like. -/
theorem stream_is_unambiguous :
    (∀ e : Event, (∀ c ∈ e.wire, 0x20 ≤ c.toNat) ∧ Text.lines e.wire = [e.wire]) ∧
    (∀ (o : EventLog.Options) (time : String) (e : Event), o.json = true →
      Text.Shown time.toList → EventLog.lines o time e = [EventLog.text o time e] ∧
        e.wire <:+ (EventLog.text o time e).toList) ∧
    ∀ e e' : Event, e.wire = e'.wire ↔ e = e' := by
  refine ⟨fun e => ⟨e.shown_wire, Text.lines_of_shown e.shown_wire⟩, fun o time e ho ht => ?_,
    fun _ _ => wire_inj⟩
  have hline : EventLog.lines o time e = [EventLog.text o time e] := by
    rw [EventLog.lines, Text.lines_of_shown (EventLog.shown_text ho ht e), List.map_singleton,
      String.ofList_toList]
  exact ⟨hline, EventLog.wire_suffix_text ho time e⟩

end Event

end PagedMemory
