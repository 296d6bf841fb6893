import Mathlib.Data.List.DropRight
import PagedMemory.EventLog

/-! What a log keeps and writes out. Over any sequence of actions it keeps the latest of the
events admitted since it was last cleared, as many as it has room for, and it writes out every
event admitted, cleared or not. -/

set_option autoImplicit false

namespace PagedMemory.EventLog

variable {o : Options} {l : EventLog} {before actions : List Action}

def run (l : EventLog) : List Action → EventLog × List Event
  | [] => (l, [])
  | a :: as =>
    let (l, written) := l.act a
    let (l, rest) := l.run as
    (l, written.toList ++ rest)

def isOnAfter (before : List Action) : Bool :=
  before.reverse.find? (fun a => a = .enable ∨ a = .disable) ≠ some .disable

def admitted? (limit : Level) (before : List Action) : Action → Option Event
  | .log e => if isOnAfter before ∧ e.level.rank ≤ limit.rank then some e else none
  | _ => none

def admitted (limit : Level) (before : List Action) : List Action → List Event
  | [] => []
  | a :: as => (admitted? limit before a).toList ++ admitted limit (before ++ [a]) as

/-- Those admitted since the log was last cleared. -/
def recent (limit : Level) (actions : List Action) : List Event :=
  admitted limit (actions.rdropWhile (· ≠ .clear)) (actions.rtakeWhile (· ≠ .clear))

@[simp] theorem isOnAfter_concat_enable (before : List Action) :
    isOnAfter (before ++ [.enable]) = true := by simp [isOnAfter]

@[simp] theorem isOnAfter_concat_disable (before : List Action) :
    isOnAfter (before ++ [.disable]) = false := by simp [isOnAfter]

@[simp] theorem isOnAfter_concat_clear (before : List Action) :
    isOnAfter (before ++ [.clear]) = isOnAfter before := by simp [isOnAfter]

@[simp] theorem isOnAfter_concat_log (before : List Action) (e : Event) :
    isOnAfter (before ++ [.log e]) = isOnAfter before := by simp [isOnAfter]

theorem admitted_concat (limit : Level) (before actions : List Action) (a : Action) :
    admitted limit before (actions ++ [a]) =
      admitted limit before actions ++ (admitted? limit (before ++ actions) a).toList := by
  induction actions generalizing before with
  | nil => simp [admitted]
  | cons b actions ih => simp [admitted, ih]

@[simp] theorem recent_nil (limit : Level) : recent limit [] = [] := by simp [recent, admitted]

@[simp] theorem recent_concat_clear (limit : Level) (actions : List Action) :
    recent limit (actions ++ [.clear]) = [] := by
  simp [recent, admitted]

theorem recent_concat (limit : Level) (actions : List Action) {a : Action} (h : a ≠ .clear) :
    recent limit (actions ++ [a]) =
      recent limit actions ++ (admitted? limit actions a).toList := by
  have hp : decide (a ≠ .clear) = true := by simpa using h
  rw [recent, List.rdropWhile_concat, List.rtakeWhile_concat, if_pos hp, if_pos hp,
    admitted_concat, List.rdropWhile_append_rtakeWhile, recent]

theorem length_rtake {α : Type} (xs : List α) (n : Nat) :
    (xs.rtake n).length = min xs.length n := by
  simp only [List.rtake, List.length_drop]
  omega

theorem rtake_of_length_le {α : Type} {xs : List α} {n : Nat} (h : xs.length ≤ n) :
    xs.rtake n = xs := by
  simp [List.rtake, h]

/-- What has left a window does not come back when it moves on. -/
theorem rtake_concat_rtake {α : Type} (xs : List α) (x : α) (n : Nat) :
    (xs.rtake n ++ [x]).rtake n = (xs ++ [x]).rtake n := by
  cases n with
  | zero => simp
  | succ n =>
    rw [List.rtake_concat_succ, List.rtake_concat_succ]
    congr 1
    simp only [List.rtake, List.length_drop, List.drop_drop]
    congr 1
    omega

def Options.kept (o : Options) (es : List Event) : List Event :=
  if o.record then es.rtake o.maxEvents else []

theorem Options.length_kept (o : Options) (es : List Event) :
    (o.kept es).length = if o.record then min es.length o.maxEvents else 0 := by
  unfold kept
  split
  · exact length_rtake es o.maxEvents
  · rfl

theorem Options.length_kept_le (o : Options) (es : List Event) :
    (o.kept es).length ≤ o.maxEvents := by
  rw [length_kept]
  split
  · exact Nat.min_le_right _ _
  · exact Nat.zero_le _

theorem toList_keep (l : EventLog) (e : Event) (hpos : 0 < l.options.maxEvents)
    (hle : l.events.toList.length ≤ l.options.maxEvents) :
    (l.keep e).events.toList = (l.events.toList ++ [e]).rtake l.options.maxEvents := by
  rw [Array.length_toList] at hle
  by_cases h : l.options.maxEvents ≤ l.events.size
  · have hsize : l.options.maxEvents = l.events.toList.length := Nat.le_antisymm h hle
    have hrest : (l.events.extract 1 l.events.size).toList = l.events.toList.drop 1 := by
      rw [Array.toList_extract, List.extract_eq_take_drop]
      exact List.take_of_length_le (by simp)
    rw [keep, if_pos h, Array.toList_push, hrest, List.rtake, List.length_append,
      List.length_singleton, hsize, Nat.add_sub_cancel_left,
      List.drop_append_of_le_length (hsize ▸ hpos)]
  · have hlength : (l.events.toList ++ [e]).length ≤ l.options.maxEvents := by simp; omega
    rw [keep, if_neg h, Array.toList_push, rtake_of_length_le hlength]

theorem toList_log {e : Event} (ha : l.admits e = true) {es : List Event}
    (h : l.events.toList = l.options.kept es) :
    (l.log e).1.events.toList = l.options.kept (es ++ [e]) := by
  have hle := l.options.length_kept_le es
  rw [← h] at hle
  rw [log, if_pos ha]
  by_cases hrecord : l.options.record = true
  · by_cases hpos : 0 < l.options.maxEvents
    · rw [if_pos ⟨hrecord, hpos⟩, toList_keep l e hpos hle, h]
      simp only [Options.kept, if_pos hrecord, rtake_concat_rtake]
    · have hzero : l.options.maxEvents = 0 := Nat.eq_zero_of_not_pos hpos
      rw [if_neg fun hkeep => hpos hkeep.2, h]
      simp only [Options.kept, hzero, List.rtake_zero]
  · rw [if_neg fun hkeep => hrecord hkeep.1, h]
    simp only [Options.kept, if_neg hrecord]

/-- Where a log with these options stands after these actions. -/
structure Standing (o : Options) (actions : List Action) (l : EventLog) : Prop where
  options : l.options = o
  enabled : l.enabled = isOnAfter actions
  events : l.events.toList = o.kept (recent o.level actions)

def written? (o : Options) (before : List Action) (a : Action) : Option Event :=
  if o.console then admitted? o.level before a else none

theorem standing_ofOptions (o : Options) : Standing o [] (ofOptions o) :=
  ⟨rfl, rfl, by simp [ofOptions, Options.kept]⟩

theorem Standing.count (h : Standing o actions l) :
    l.count = (o.kept (recent o.level actions)).length := by
  rw [← h.events, Array.length_toList, EventLog.count]

theorem Standing.admits_iff (h : Standing o actions l) (e : Event) :
    l.admits e = true ↔ isOnAfter actions = true ∧ e.level.rank ≤ o.level.rank := by
  simp [admits, h.enabled, h.options, Level.passes]

theorem Standing.log (h : Standing o actions l) (e : Event) :
    Standing o (actions ++ [.log e]) (l.log e).1 ∧
      (l.log e).2 = written? o actions (.log e) := by
  have hon := h.enabled.trans (isOnAfter_concat_log actions e).symm
  have hrecent := recent_concat o.level actions (a := .log e) (by simp)
  by_cases ha : l.admits e = true
  · have hadmitted : admitted? o.level actions (.log e) = some e := if_pos ((h.admits_iff e).mp ha)
    have hevents := toList_log ha (h.options ▸ h.events)
    rw [hadmitted, Option.toList_some] at hrecent
    rw [h.options, ← hrecent] at hevents
    refine ⟨⟨?_, ?_, hevents⟩, ?_⟩
    · rw [EventLog.log, if_pos ha]
      split
      · exact h.options
      · exact h.options
    · rw [EventLog.log, if_pos ha]
      split
      · exact hon
      · exact hon
    · rw [EventLog.log, if_pos ha, h.options, written?, hadmitted]
  · have hadmitted : admitted? o.level actions (.log e) = none :=
      if_neg fun hadmits => ha ((h.admits_iff e).mpr hadmits)
    rw [hadmitted, Option.toList_none, List.append_nil] at hrecent
    rw [EventLog.log, if_neg ha, written?, hadmitted, ite_self]
    exact ⟨⟨h.options, hon, hrecent ▸ h.events⟩, rfl⟩

theorem Standing.act (h : Standing o actions l) (a : Action) :
    Standing o (actions ++ [a]) (l.act a).1 ∧ (l.act a).2 = written? o actions a := by
  cases a with
  | log e => exact h.log e
  | enable =>
    have hrecent := recent_concat o.level actions (a := .enable) (by simp)
    simp only [admitted?, Option.toList_none, List.append_nil] at hrecent
    refine ⟨⟨h.options, (isOnAfter_concat_enable _).symm, hrecent ▸ h.events⟩, ?_⟩
    simp [EventLog.act, written?, admitted?]
  | disable =>
    have hrecent := recent_concat o.level actions (a := .disable) (by simp)
    simp only [admitted?, Option.toList_none, List.append_nil] at hrecent
    refine ⟨⟨h.options, (isOnAfter_concat_disable _).symm, hrecent ▸ h.events⟩, ?_⟩
    simp [EventLog.act, written?, admitted?]
  | clear =>
    refine ⟨⟨h.options, h.enabled.trans (isOnAfter_concat_clear _).symm, ?_⟩, ?_⟩
    · simp [EventLog.act, EventLog.clear, Options.kept]
    · simp [EventLog.act, written?, admitted?]

theorem Standing.run (h : Standing o before l) (actions : List Action) :
    Standing o (before ++ actions) (l.run actions).1 ∧
      (l.run actions).2 = if o.console then admitted o.level before actions else [] := by
  induction actions generalizing before l with
  | nil => simpa [EventLog.run, admitted] using h
  | cons a actions ih =>
    obtain ⟨hact, hwritten⟩ := h.act a
    obtain ⟨hrun, hrest⟩ := ih hact
    rw [List.append_assoc, List.singleton_append] at hrun
    refine ⟨hrun, ?_⟩
    simp only [EventLog.run, hwritten, hrest, admitted, written?]
    split
    · rfl
    · rfl

/-- Whatever is done with a log: what it keeps are the latest of the events that were admitted
since it was cleared, in order, as many as it may keep; and what it has written out is every
event admitted at all. -/
theorem keeps_latest_admitted (o : Options) (actions : List Action) :
    let r := (ofOptions o).run actions
    let es := recent o.level actions
    let n := min es.length o.maxEvents
    r.1.events.toList = (if o.record then es.drop (es.length - n) else []) ∧
    r.1.count = (if o.record then n else 0) ∧ r.1.count ≤ o.maxEvents ∧
    (o.record = false ∨ o.maxEvents = 0 → r.1.events = #[]) ∧
    r.2 = if o.console then admitted o.level [] actions else [] := by
  intro r es n
  obtain ⟨h, hwritten⟩ := (standing_ofOptions o).run actions
  have hevents : r.1.events.toList = o.kept es := h.events
  have hcount : r.1.count = (o.kept es).length := h.count
  refine ⟨?_, ?_, ?_, ?_, hwritten⟩
  · have hn : es.length - n = es.length - o.maxEvents := by omega
    rw [hevents, hn, Options.kept, List.rtake]
  · rw [hcount, Options.length_kept]
  · rw [hcount]
    exact o.length_kept_le es
  · intro hnone
    apply Array.toList_inj.mp
    rw [hevents, Options.kept]
    rcases hnone with hrecord | hzero
    · simp [hrecord]
    · simp [hzero]

/-- Of three events admitted since the log was cleared the latest two are kept. One was logged
while the log was off, and one is of too much detail. -/
example :
    let page := fun p => Event.pageAllocated 1 p .heap
    let r := (ofOptions { maxEvents := 2 }).run [.log (page 0), .clear, .log (page 1), .disable,
      .log (page 2), .enable, .log (page 3), .log (.relinked 1 "GET:ELEMENT" 1), .log (page 4)]
    r.1.events.toList = [page 3, page 4] ∧ r.2 = [page 0, page 1, page 3, page 4] := by
  decide

end PagedMemory.EventLog
