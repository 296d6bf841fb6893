import PagedMemory.Proofs.BumpAllocator
import PagedMemory.Proofs.Memory.Counters

/-! Work on a space. Whatever is done to a space comes down to a few things: a line is noted,
an element is stored, something is counted and its event emitted, or the space grows by a
page, which is counted and announced. All of it is confined to that space. -/

set_option autoImplicit false

namespace PagedMemory

/-- What an event says was counted. That a snapshot was published is counted with its page. -/
def Event.counted? : Event → Option Countable
  | .pageAllocated _ _ kind => some (.page kind)
  | .snapshotPublished .. => none
  | .linked .. => some .link
  | .linkRejected .. => some .linkRejected
  | .relinked .. => some .relink
  | .allocationRejected .. => some .allocationRejected

/-- What is counted when a page or a region could not be had. The system's refusals are not. -/
def MemoryError.denial : MemoryError → List Countable
  | .pageAllocation _ => []
  | _ => [.allocationRejected]

namespace Memory

variable {m m' m'' : Memory} {s : SpaceId} {counted counted' : List Countable}

def eventsOf (m : Memory) (s : SpaceId) : List Event :=
  m.events.filter fun e => e.space == m.number s

theorem space_count (m : Memory) (s : SpaceId) (what : Countable) (s' : SpaceId) :
    (m.count s what).space s' = if s' = s then
      { m.space s' with statistics := (m.space s').statistics.record what } else m.space s' := by
  simp only [space, count, Array.getElem?_modify]
  by_cases h : s = s'
  · subst h
    cases hs : m.spaces[s]? with
    | none => simp [Space.missing, Statistics.record]
    | some sp => simp
  · simp [h, Ne.symm h]

theorem space_resetStatistics (m : Memory) (s s' : SpaceId) :
    (m.resetStatistics s).space s' = if s' = s then
      { m.space s' with statistics := (m.space s').statistics.reset } else m.space s' := by
  simp only [space, resetStatistics, Array.getElem?_modify]
  by_cases h : s = s'
  · subst h
    cases hs : m.spaces[s]? with
    | none => simp [Space.missing, Statistics.reset]
    | some sp => simp
  · simp [h, Ne.symm h]

theorem space_close_self (m : Memory) (s : SpaceId) :
    (m.close s).space s = { m.space s with isOpen := false } := by
  simp only [space, close, Array.getElem?_modify, if_true]
  cases m.spaces[s]? with
  | none => rfl
  | some sp => rfl

theorem space_close_of_ne (m : Memory) {s s' : SpaceId} (h : s ≠ s') :
    (m.close s).space s' = m.space s' := by
  simp [space, close, Array.getElem?_modify, h]

theorem isOpen_close (m : Memory) (s s' : SpaceId) : ((m.close s).space s').isOpen =
    if s' = s then false else (m.space s').isOpen := by
  split
  · rename_i h
    rw [h, space_close_self]
  · rename_i h
    rw [space_close_of_ne m (Ne.symm h)]

theorem space_ask (m : Memory) (s : SpaceId) (kind : PageKind) (s' : SpaceId) :
    ∃ n, (m.ask s kind).space s' = { m.space s' with mappings := n } := by
  cases kind with
  | heap => exact ⟨_, rfl⟩
  | direct =>
    simp only [space, ask, Array.getElem?_modify]
    split
    · cases m.spaces[s']? with
      | none => exact ⟨0, rfl⟩
      | some sp => exact ⟨_, rfl⟩
    · exact ⟨_, rfl⟩

theorem space_ask_self (m : Memory) (s : SpaceId) :
    (m.ask s .direct).space s = if s < m.spaces.size then
      { m.space s with mappings := (m.space s).mappings + 1 } else m.space s := by
  by_cases h : s < m.spaces.size
  · simp [space, ask, h, Array.getElem_modify]
  · simp [space, ask, h]

theorem space_ask_of_ne (m : Memory) {s s' : SpaceId} (h : s' ≠ s) (kind : PageKind) :
    (m.ask s kind).space s' = m.space s' := by
  cases kind with
  | heap => rfl
  | direct => simp [space, ask, Array.getElem?_modify, h.symm]

@[simp] theorem space_say (m : Memory) (d : Diagnostic) (s : SpaceId) :
    (m.say d).space s = m.space s := rfl

@[simp] theorem space_emit (m : Memory) (s : SpaceId) (e : Event) (s' : SpaceId) :
    (m.emit s e).space s' = m.space s' := by
  unfold emit
  split
  · rfl
  · rfl

theorem space_announcePage (m : Memory) (s : SpaceId) (page : PageId) (kind : PageKind)
    (s' : SpaceId) : (m.announcePage s page kind).space s' = (m.count s (.page kind)).space s' := by
  simp only [announcePage, space_emit]
  split
  · rfl
  · rfl

@[simp] theorem origin_emit (m : Memory) (s : SpaceId) (e : Event) :
    (m.emit s e).origin = m.origin := by
  unfold emit
  split
  · rfl
  · rfl

@[simp] theorem origin_announcePage (m : Memory) (s : SpaceId) (page : PageId)
    (kind : PageKind) : (m.announcePage s page kind).origin = m.origin := by
  simp only [announcePage, origin_emit]
  split
  · rfl
  · rfl

theorem events_note (m : Memory) (n : Notice) :
    (m.note n).events = m.events ++ n.event?.toList := by
  simp only [events, note, Array.toList_push, List.filterMap_append, List.filterMap_cons,
    List.filterMap_nil]
  cases n.event? with
  | none => rfl
  | some e => rfl

theorem events_note_of_none {n : Notice} (hn : n.event? = none) :
    (m.note n).events = m.events := by
  rw [events_note, hn, Option.toList_none, List.append_nil]

theorem events_say (m : Memory) (d : Diagnostic) : (m.say d).events = m.events :=
  events_note_of_none rfl

theorem events_emit (m : Memory) (s : SpaceId) (e : Event) :
    (m.emit s e).events = m.events ++ if (m.space s).config.verbose then [e] else [] := by
  unfold emit
  split
  · exact events_note m (.event e)
  · rw [List.append_nil]

theorem config_count (m : Memory) (s : SpaceId) (what : Countable) (s' : SpaceId) :
    ((m.count s what).space s').config = (m.space s').config :=
  config_congr (storage_count m s what) s'

theorem table_count (m : Memory) (s : SpaceId) (what : Countable) (s' : SpaceId) :
    (m.count s what).table s' = m.table s' := table_congr (storage_count m s what) s'

theorem events_announcePage (m : Memory) (s : SpaceId) (page : PageId) (kind : PageKind) :
    (m.announcePage s page kind).events = m.events ++
      if (m.space s).config.verbose then
        [.pageAllocated (m.number s) page kind,
          .snapshotPublished (m.number s) (m.table s).generation (m.table s).size]
      else [] := by
  have htable := table_count m s (.page kind) s
  have hconfig := config_count m s (.page kind) s
  have hevents : (m.count s (.page kind)).events = m.events := rfl
  cases hv : (m.space s).config.verbose with
  | false =>
    simp only [announcePage, events_emit, space_emit, hconfig, hv, hevents, if_neg,
      Bool.false_eq_true, not_false_eq_true, List.append_nil]
  | true =>
    have hspace : ((m.count s (.page kind)).space s).table = (m.space s).table := htable
    simp only [announcePage, events_emit, events_say, space_emit, space_say, table, number,
      hconfig, hv, hspace, hevents, if_true, origin_emit, List.append_assoc]
    rfl

/-- What can become of a memory while a space is worked on, and what was counted for it. -/
inductive Work (m : Memory) (s : SpaceId) : List Countable → Memory → Prop where
  | refl : Work m s [] m
  | note {counted : List Countable} {m' : Memory} (h : Work m s counted m') (n : Notice)
      (hn : n.event? = none) : Work m s counted (m'.note n)
  | store {counted : List Countable} {m' : Memory} (h : Work m s counted m') (p : Page)
      (i : Fin elementsPerPage) (v : Int32) : Work m s counted (m'.store p i v)
  | report {counted : List Countable} {m' : Memory} (h : Work m s counted m') (e : Event)
      {what : Countable} (hwhat : e.counted? = some what) (hpage : ∀ kind, what ≠ .page kind)
      (hspace : e.space = m'.number s) :
      Work m s (counted ++ [what]) ((m'.count s what).emit s e)
  | ask {counted : List Countable} {m' : Memory} (h : Work m s counted m') (kind : PageKind) :
      Work m s counted (m'.ask s kind)
  | grow {counted : List Countable} {m' : Memory} (h : Work m s counted m') (kind : PageKind)
      (room : (m'.table s).size < (m'.space s).config.maxPages.toNat) :
      Work m s (counted ++ [.page kind])
        ((m'.extend s kind).announcePage s (UInt32.ofNat (m'.table s).size) kind)

theorem Work.trans (h : m.Work s counted m') (h' : m'.Work s counted' m'') :
    m.Work s (counted ++ counted') m'' := by
  induction h' with
  | refl => simpa using h
  | note _ n hn ih => exact ih.note n hn
  | store _ p i v ih => exact ih.store p i v
  | report _ e hwhat hpage hspace ih =>
    rw [← List.append_assoc]
    exact ih.report e hwhat hpage hspace
  | ask _ kind ih => exact ih.ask kind
  | grow _ kind room ih =>
    rw [← List.append_assoc]
    exact ih.grow kind room

theorem counts_ask (m : Memory) (s : SpaceId) (kind : PageKind) :
    m.Counts s [] (m.ask s kind) := by
  refine counts_of_statistics_eq fun s' => ?_
  obtain ⟨n, h⟩ := space_ask m s kind s'
  rw [statistics, h, statistics]

theorem counts_announcePage (m : Memory) (s : SpaceId) (page : PageId) (kind : PageKind) :
    m.Counts s [.page kind] (m.announcePage s page kind) := by
  intro s'
  rw [statistics, space_announcePage]
  exact counts_count m s (.page kind) s'

theorem Work.counts (h : m.Work s counted m') : m.Counts s counted m' := by
  induction h with
  | refl => exact counts_of_statistics_eq fun _ => rfl
  | note _ n _ ih => exact ih.trans_nil (counts_note _ s n)
  | store _ p i v ih => exact ih.trans_nil (counts_of_statistics_eq fun _ => rfl)
  | report _ e _ _ _ ih =>
    exact ih.trans ((counts_count _ s _).trans_nil (counts_emit _ s s e))
  | ask _ kind ih => exact ih.trans_nil (counts_ask _ s kind)
  | @grow _ m₁ _ kind _ ih =>
    refine ih.trans ?_
    have hextend : m₁.Counts s [] (m₁.extend s kind) := by
      refine counts_of_statistics_eq fun s' => ?_
      rw [statistics, space_extend]
      split
      · rfl
      · rfl
    exact hextend.trans (counts_announcePage _ s _ kind)

/-- The other memory differs in what this space is and has emitted, and in elements. -/
structure Confined (s : SpaceId) (m m' : Memory) : Prop where
  origin : m'.origin = m.origin
  spaces : m'.spaces.size = m.spaces.size
  config : ∀ s', (m'.space s').config = (m.space s').config
  others : ∀ s', s' ≠ s → m'.space s' = m.space s'
  events : ∀ s', s' ≠ s → m'.eventsOf s' = m.eventsOf s'

theorem Confined.refl (s : SpaceId) (m : Memory) : Confined s m m :=
  ⟨rfl, rfl, fun _ => rfl, fun _ _ => rfl, fun _ _ => rfl⟩

theorem Confined.trans (h : Confined s m m') (h' : Confined s m' m'') : Confined s m m'' where
  origin := h'.origin.trans h.origin
  spaces := h'.spaces.trans h.spaces
  config := fun s' => (h'.config s').trans (h.config s')
  others := fun s' hs => (h'.others s' hs).trans (h.others s' hs)
  events := fun s' hs => (h'.events s' hs).trans (h.events s' hs)

theorem number_ne (m : Memory) {s s' : SpaceId} (h : s' ≠ s) : m.number s ≠ m.number s' :=
  fun hn => h (Nat.add_left_cancel hn).symm

theorem eventsOf_congr (horigin : m'.origin = m.origin) (h : m'.events = m.events)
    (s : SpaceId) : m'.eventsOf s = m.eventsOf s := by
  rw [eventsOf, eventsOf, h, number, number, horigin]

theorem eventsOf_note_of_none {n : Notice} (hn : n.event? = none) (m : Memory) (s : SpaceId) :
    (m.note n).eventsOf s = m.eventsOf s := by
  have horigin : (m.note n).origin = m.origin := rfl
  exact eventsOf_congr horigin (events_note_of_none hn) s

theorem eventsOf_append {es : List Event} (horigin : m'.origin = m.origin)
    (h : m'.events = m.events ++ es) (s : SpaceId) :
    m'.eventsOf s = m.eventsOf s ++ es.filter fun e => e.space == m.number s := by
  rw [eventsOf, eventsOf, h, number, number, horigin, List.filter_append]

theorem filter_of_ne {es : List Event} {n n' : Nat} (hes : ∀ e ∈ es, e.space = n)
    (hn : n ≠ n') : es.filter (fun e => e.space == n') = [] := by
  rw [List.filter_eq_nil_iff]
  intro e he
  rw [hes e he]
  simpa using hn

theorem confined_note {n : Notice} (hn : n.event? = none) (m : Memory) (s : SpaceId) :
    Confined s m (m.note n) where
  origin := rfl
  spaces := rfl
  config := fun _ => rfl
  others := fun _ _ => rfl
  events := fun s' _ => eventsOf_note_of_none hn m s'

theorem confined_count (m : Memory) (s : SpaceId) (what : Countable) :
    Confined s m (m.count s what) where
  origin := rfl
  spaces := size_spaces_congr (storage_count m s what)
  config := config_count m s what
  others := fun s' hs => by rw [space_count, if_neg hs]
  events := fun _ _ => rfl

theorem confined_emit (m : Memory) (s : SpaceId) {e : Event} (he : e.space = m.number s) :
    Confined s m (m.emit s e) where
  origin := origin_emit m s e
  spaces := size_spaces_congr (storage_emit m s e)
  config := fun s' => by rw [space_emit]
  others := fun s' _ => space_emit m s e s'
  events := fun s' hs => by
    have hne : m.number s ≠ m.number s' := number_ne m hs
    rw [eventsOf_append (origin_emit m s e) (events_emit m s e)]
    split
    · rw [filter_of_ne (by simpa using he) hne, List.append_nil]
    · rw [List.filter_nil, List.append_nil]

theorem events_ask (m : Memory) (s : SpaceId) (kind : PageKind) :
    (m.ask s kind).events = m.events := by
  cases kind with
  | heap => rfl
  | direct => rfl

theorem confined_ask (m : Memory) (s : SpaceId) (kind : PageKind) :
    Confined s m (m.ask s kind) where
  origin := origin_congr (storage_ask m s kind)
  spaces := size_spaces_congr (storage_ask m s kind)
  config := config_congr (storage_ask m s kind)
  others := fun _ hs => space_ask_of_ne m hs kind
  events := fun _ _ =>
    eventsOf_congr (origin_congr (storage_ask m s kind)) (events_ask m s kind) _

theorem confined_extend (m : Memory) (s : SpaceId) (kind : PageKind) :
    Confined s m (m.extend s kind) where
  origin := rfl
  spaces := size_spaces_extend m s kind
  config := config_extend m s kind
  others := fun s' hs => by rw [space_extend, if_neg fun h => hs h.1.symm]
  events := fun _ _ => rfl

theorem confined_announcePage (m : Memory) (s : SpaceId) (page : PageId) (kind : PageKind) :
    Confined s m (m.announcePage s page kind) where
  origin := origin_announcePage m s page kind
  spaces := size_spaces_congr (storage_announcePage m s page kind)
  config := config_congr (storage_announcePage m s page kind)
  others := fun s' hs => by rw [space_announcePage, space_count, if_neg hs]
  events := fun s' hs => by
    have hne : m.number s ≠ m.number s' := number_ne m hs
    rw [eventsOf_append (origin_announcePage m s page kind) (events_announcePage m s page kind)]
    split
    · rw [filter_of_ne (by simp [Event.space]) hne, List.append_nil]
    · rw [List.filter_nil, List.append_nil]

theorem Work.confined (h : m.Work s counted m') : Confined s m m' := by
  induction h with
  | refl => exact .refl s m
  | note _ n hn ih => exact ih.trans (confined_note hn _ s)
  | store _ p i v ih => exact ih.trans ⟨rfl, rfl, fun _ => rfl, fun _ _ => rfl, fun _ _ => rfl⟩
  | report _ e _ _ hspace ih =>
    exact (ih.trans (confined_count _ s _)).trans (confined_emit _ s hspace)
  | ask _ kind ih => exact ih.trans (confined_ask _ s kind)
  | grow _ kind _ ih =>
    exact (ih.trans (confined_extend _ s kind)).trans (confined_announcePage _ s _ kind)

theorem work_say (m : Memory) (s : SpaceId) (d : Diagnostic) : m.Work s [] (m.say d) :=
  Work.refl.note (.diagnostic d) rfl

theorem work_refuse (m : Memory) (s : SpaceId) (requested : Nat) (reason : String) :
    m.Work s [.allocationRejected] (m.refuse s requested reason) :=
  Work.refl.report (.allocationRejected (m.number s) requested reason) rfl
    (fun _ h => by contradiction) rfl

theorem work_reject (m : Memory) (s : SpaceId) (operation : String) :
    m.Work s [.linkRejected] (m.reject s operation) :=
  (work_say m s _).report (.linkRejected (m.number s) operation) rfl
    (fun _ h => by contradiction) rfl

def allocated (kind : PageKind) : Except MemoryError Address → List Countable
  | .ok _ => [.page kind]
  | .error e => e.denial

theorem work_allocatePage (m : Memory) (s : SpaceId) (kind : Option PageKind) :
    m.Work s (allocated (kind.getD (m.space s).config.defaultKind) (m.allocatePage s kind).1)
      (m.allocatePage s kind).2 := by
  simp only [allocatePage]
  by_cases full : (m.space s).config.maxPages.toNat ≤ (m.table s).size
  · rw [if_pos full]
    simp only [allocated, MemoryError.denial]
    exact (work_say m s _).trans (work_refuse _ s _ _)
  · rw [if_neg full]
    have room := Nat.lt_of_not_le full
    generalize kind.getD (m.space s).config.defaultKind = kind
    cases m.refusal? s kind with
    | some cause => exact Work.refl.ask kind
    | none =>
      have hs := storage_ask m s kind
      have hroom : ((m.ask s kind).table s).size <
          ((m.ask s kind).space s).config.maxPages.toNat := by
        rw [table_congr hs, config_congr hs]
        exact room
      have hgrow := (Work.refl.ask kind).grow kind hroom
      rw [table_congr hs] at hgrow
      simp only [allocated]
      exact hgrow

theorem work_reserve (m : Memory) (s : SpaceId) (size : Nat) (kind : Option PageKind) :
    m.Work s (allocated (kind.getD (m.space s).config.defaultKind) (m.reserve s size kind).1)
      (m.reserve s size kind).2 := by
  unfold reserve
  split
  · simp only [allocated, MemoryError.denial]
    exact (work_say m s _).trans (work_refuse _ s _ _)
  · exact work_allocatePage m s kind

def resolved : Except MemoryError (Option Linked) → List Countable
  | .ok (some _) => [.link]
  | .ok none => [.linkRejected]
  | .error _ => []

theorem work_link (m : Memory) (s : SpaceId) (op : Operation) (sig : Signature)
    (args : List Value) :
    m.Work s (resolved (m.link s op sig args).1) (m.link s op sig args).2 := by
  unfold link
  split
  · exact work_reject m s op.text
  · dsimp only
    split
    · exact work_say m s _
    · exact (work_say m s _).report (.linked (m.number s) op.text _ _) rfl
        (fun _ h => by contradiction) rfl

theorem work_linkNamed (m : Memory) (s : SpaceId) (name : String) (sig : Signature)
    (args : List Value) :
    m.Work s (resolved (m.linkNamed s name sig args).1) (m.linkNamed s name sig args).2 := by
  unfold linkNamed
  split
  · exact work_link m s _ sig args
  · exact (work_say m s _).trans (work_reject _ s name)

theorem work_perform (m : Memory) (s : SpaceId) (p : Page) (sh : Shape) (args : sh.Args) :
    m.Work s [] (m.perform p sh args).2 := by
  cases sh with
  | getElement => exact .refl
  | setElement => exact Work.refl.store p _ _
  | lookupPage => exact .refl

theorem work_invoke (m : Memory) (s : SpaceId) (g : Guard) (sh : Shape) (args : sh.Args) :
    m.Work s [] (m.invoke s g sh args).2 := by
  cases hp : g.served? m s (sh.page args) with
  | none =>
    rw [invoke_of_not_served hp]
    exact .refl
  | some p =>
    rw [invoke_of_served hp]
    exact work_perform m s p sh args

theorem count_relink_allocated (answer : Except MemoryError Address) (kind : PageKind) :
    (allocated kind answer).count .relink = 0 := by
  cases answer with
  | ok a => rfl
  | error e => cases e <;> rfl

theorem work_allocateMany (s : SpaceId) (kinds : Array (Option PageKind)) (n i : Nat)
    (last : Option Address) (m : Memory) :
    ∃ counted, m.Work s counted (m.allocateMany s kinds n i last).2 ∧
      counted.count .relink = 0 := by
  induction n generalizing i last m with
  | zero => exact ⟨[], .refl, rfl⟩
  | succ n ih =>
    have hpage := work_allocatePage m s (kinds[i % kinds.size]?.getD none)
    have hcount := count_relink_allocated
      (m.allocatePage s (kinds[i % kinds.size]?.getD none)).1
      ((kinds[i % kinds.size]?.getD none).getD (m.space s).config.defaultKind)
    unfold allocateMany
    generalize m.allocatePage s (kinds[i % kinds.size]?.getD none) = r at hpage hcount
    obtain ⟨answer, m₁⟩ := r
    cases answer with
    | error e => exact ⟨_, hpage, hcount⟩
    | ok a =>
      obtain ⟨counted, hrest, hrelinks⟩ := ih (i + 1) (some a) m₁
      refine ⟨_, hpage.trans hrest, ?_⟩
      rw [List.count_append, hcount, hrelinks]

theorem work_allocateAll (s : SpaceId) (kind : Option PageKind) (n : Nat) (m : Memory) :
    ∃ counted, m.Work s counted (m.allocateAll s kind n).2 ∧ counted.count .relink = 0 := by
  induction n generalizing m with
  | zero => exact ⟨[], .refl, rfl⟩
  | succ n ih =>
    obtain ⟨counted, hrest, hrelinks⟩ := ih (m.allocatePage s kind).2
    refine ⟨_, (work_allocatePage m s kind).trans hrest, ?_⟩
    rw [List.count_append, count_relink_allocated, hrelinks]

end Memory

namespace BumpAllocator

theorem work_claim (a : BumpAllocator) (m : Memory) (s : SpaceId) :
    ∃ kind, m.Work s (Memory.allocated kind (a.claim m s).1) (a.claim m s).2.2 := by
  have h := Memory.work_allocatePage m s (a.policy.kind a.pages.size)
  refine ⟨(a.policy.kind a.pages.size).getD (m.space s).config.defaultKind, ?_⟩
  unfold claim
  generalize m.allocatePage s (a.policy.kind a.pages.size) = r at h
  obtain ⟨answer, m₁⟩ := r
  cases answer with
  | error e => exact h
  | ok base => exact h.note _ rfl

/-- What a request that fails counts: nothing if it is larger than any page. -/
def refused (size : Nat) (e : MemoryError) : List Countable :=
  if pageSize < size then [] else e.denial

theorem work_malloc (a : BumpAllocator) (m : Memory) (s : SpaceId) (size : Nat) :
    ∃ counted, m.Work s counted (a.malloc m s size).2.2 ∧ counted.count .relink = 0 ∧
      ∀ e, (a.malloc m s size).1 = .error e → counted = refused size e := by
  unfold malloc
  by_cases large : pageSize < size
  · rw [if_pos large]
    exact ⟨[], .refl, rfl, fun _ _ => by rw [refused, if_pos large]⟩
  rw [if_neg large]
  by_cases needed : a.current = none ∨ a.remaining < rounded size
  · obtain ⟨kind, hclaim⟩ := work_claim a m s
    have hcount := Memory.count_relink_allocated (a.claim m s).1 kind
    simp only [pageFor_of_needed needed]
    generalize a.claim m s = r at hclaim hcount
    obtain ⟨answer, a', m'⟩ := r
    cases answer with
    | error e =>
      refine ⟨_, hclaim, hcount, fun e' he => ?_⟩
      cases he
      rw [refused, if_neg large, Memory.allocated]
    | ok base => exact ⟨_, hclaim, hcount, fun _ h => by contradiction⟩
  · obtain ⟨hsome, hle⟩ := not_or.mp needed
    obtain ⟨base, hc⟩ := Option.ne_none_iff_exists'.mp hsome
    simp only [pageFor_of_left hc (Nat.le_of_not_lt hle)]
    exact ⟨[], .refl, rfl, fun _ h => by contradiction⟩

end BumpAllocator

end PagedMemory
