import Mathlib.Algebra.GroupWithZero.Nat
import PagedMemory.Proofs.Memory.Work

/-! The records of a space: its table, its counters and its events. Each is kept on its own;
work on the space keeps them in step, so that they tell the same of what was done. -/

set_option autoImplicit false

namespace PagedMemory

def Event.page? : Event → Option PageKind
  | .pageAllocated _ _ kind => some kind
  | _ => none

theorem Event.page?_of_counted {e : Event} {what : Countable} (h : e.counted? = some what)
    (hpage : ∀ kind, what ≠ .page kind) : e.page? = none := by
  cases e with
  | pageAllocated s p kind =>
    cases h
    exact absurd rfl (hpage kind)
  | _ => rfl

/-- These events of a space announce pages of these kinds, one after the other. The `i`th
announcement names the page `i`, and what follows at once is that a table with `i + 1` pages
was published. -/
structure Retold (number : Nat) (es : List Event) (kinds : List PageKind) : Prop where
  announced : es.filterMap Event.page? = kinds
  placed : ∀ (i : Nat) (kind : PageKind), kinds[i]? = some kind → ∃ before page after,
    es = before ++ .pageAllocated number page kind ::
      .snapshotPublished number (i + 1) (i + 1) :: after ∧
    page.toNat = i ∧ (before.filterMap Event.page?).length = i

theorem retold_nil (number : Nat) : Retold number [] [] :=
  ⟨rfl, fun i kind h => by simp at h⟩

variable {number : Nat} {es : List Event} {kinds : List PageKind}

theorem Retold.append (h : Retold number es kinds) {e : Event} (he : e.page? = none) :
    Retold number (es ++ [e]) kinds where
  announced := by simp [List.filterMap_append, h.announced, he]
  placed := by
    intro i kind hi
    obtain ⟨before, page, after, hes, hpage, hlength⟩ := h.placed i kind hi
    exact ⟨before, page, after ++ [e], by simp [hes], hpage, hlength⟩

theorem Retold.grow (h : Retold number es kinds) (kind : PageKind) {page : PageId}
    (hpage : page.toNat = kinds.length) :
    Retold number (es ++ [.pageAllocated number page kind,
      .snapshotPublished number (kinds.length + 1) (kinds.length + 1)]) (kinds ++ [kind]) where
  announced := by simp [List.filterMap_append, h.announced, Event.page?]
  placed := by
    intro i kind' hi
    rw [List.getElem?_append] at hi
    split at hi
    · obtain ⟨before, page', after, hes, hpage', hlength⟩ := h.placed i kind' hi
      refine ⟨before, page', after ++ [.pageAllocated number page kind, .snapshotPublished number
        (kinds.length + 1) (kinds.length + 1)], ?_, hpage', hlength⟩
      rw [hes, List.append_assoc, List.cons_append, List.cons_append]
    · -- The last page is announced last.
      rename_i hge
      have hlast : i = kinds.length := by
        obtain ⟨hlt, _⟩ := List.getElem?_eq_some_iff.mp hi
        simp only [List.length_singleton] at hlt
        omega
      subst hlast
      have hkind : kind = kind' := by simpa using hi
      exact ⟨es, page, [], by rw [hkind], hpage, by rw [h.announced]⟩

/-- The events are as many of each sort as was counted. -/
structure Counters.Tallies (c : Counters) (es : List Event) : Prop where
  pages : (es.map Event.type).count "page_allocated" = c.heapPages + c.directPages
  snapshots : (es.map Event.type).count "snapshot_published" = c.snapshotsPublished
  links : (es.map Event.type).count "linked" = c.links
  linksRejected : (es.map Event.type).count "link_rejected" = c.linksRejected
  relinks : (es.map Event.type).count "relinked" = c.relinks
  allocationsRejected :
    (es.map Event.type).count "allocation_rejected" = c.allocationsRejected

theorem Counters.tallies_nil : Counters.Tallies {} [] := ⟨rfl, rfl, rfl, rfl, rfl, rfl⟩

variable {c : Counters}

theorem Counters.Tallies.append (h : c.Tallies es) {e : Event} {what : Countable}
    (he : e.counted? = some what) (hpage : ∀ kind, what ≠ .page kind) :
    (c.add what).Tallies (es ++ [e]) := by
  obtain ⟨hpages, hsnapshots, hlinks, hlinksRejected, hrelinks, hallocations⟩ := h
  cases e with
  | pageAllocated s p kind =>
    cases he
    exact absurd rfl (hpage kind)
  | snapshotPublished s g n => contradiction
  | linked s op kind g | linkRejected s op | relinked s op n | allocationRejected s n reason =>
    cases he
    constructor <;>
      simp only [List.map_append, List.map_singleton, List.count_append, Event.type,
        Counters.add, hpages, hsnapshots, hlinks, hlinksRejected, hrelinks, hallocations] <;> rfl

theorem Counters.Tallies.grow (h : c.Tallies es) (number : Nat) (page : PageId)
    (kind : PageKind) (generation pages : Nat) :
    (c.add (.page kind)).Tallies
      (es ++ [.pageAllocated number page kind, .snapshotPublished number generation pages]) := by
  obtain ⟨hpages, hsnapshots, hlinks, hlinksRejected, hrelinks, hallocations⟩ := h
  cases kind <;> constructor <;>
    simp only [List.map_append, List.map_cons, List.map_nil, List.count_append, Event.type,
      Counters.add, hpages, hsnapshots, hlinks, hlinksRejected, hrelinks, hallocations] <;>
    simp only [List.count_cons, List.count_nil] <;> simp <;> omega

theorem Counters.Tallies.le_length (h : c.Tallies es) {n : Nat} (hn : n ∈ c.values) :
    n ≤ es.length := by
  have hcount : ∀ type : String, (es.map Event.type).count type ≤ es.length := by
    intro type
    calc (es.map Event.type).count type
      _ ≤ (es.map Event.type).length := List.count_le_length
      _ = es.length := List.length_map _
  have hpages := h.pages ▸ hcount "page_allocated"
  simp only [Counters.values, Counters.fields, List.map_cons, List.map_nil, List.mem_cons,
    List.not_mem_nil, or_false] at hn
  rcases hn with rfl | rfl | rfl | rfl | rfl | rfl | rfl
  · omega
  · omega
  · exact h.snapshots ▸ hcount _
  · exact h.links ▸ hcount _
  · exact h.linksRejected ▸ hcount _
  · exact h.relinks ▸ hcount _
  · exact h.allocationsRejected ▸ hcount _

structure Space.Recorded (sp : Space) (number : Nat) (es : List Event) : Prop where
  aligned : sp.table.Aligned
  bounded : sp.config.maxPages.toNat ≤ PagedMemory.maxPages
  enabled : sp.statistics.enabled = sp.config.statsEnabled
  disabled : sp.statistics.enabled = false → sp.statistics.counters = {}
  silent : sp.config.verbose = false → es = []
  told : sp.config.verbose = true → Retold number es sp.table.kinds.toList

/-- What the records of a space say that counts and was never reset. -/
structure Space.Accounted (sp : Space) (es : List Event) : Prop where
  pages : ∀ kind, sp.statistics.counters.tally (.page kind) = sp.table.countOf kind
  snapshots : sp.statistics.counters.snapshotsPublished = sp.table.size
  tallies : sp.config.verbose = true → sp.statistics.counters.Tallies es

namespace Space

variable {sp : Space} {what : Countable}

theorem recorded_missing (number : Nat) : missing.Recorded number [] where
  aligned := PageTable.empty_aligned 0
  bounded := Nat.zero_le _
  enabled := rfl
  disabled := fun _ => rfl
  silent := fun _ => rfl
  told := fun _ => retold_nil number

theorem recorded_new {config : Config} (hc : config.Valid) (token number : Nat) :
    Recorded ⟨config, { enabled := config.statsEnabled }, .empty token, true, 0⟩ number [] where
  aligned := PageTable.empty_aligned token
  bounded := hc.2
  enabled := rfl
  disabled := fun _ => rfl
  silent := fun _ => rfl
  told := fun _ => retold_nil number

theorem accounted_new (config : Config) (token : Nat) :
    Accounted ⟨config, { enabled := config.statsEnabled }, .empty token, true, 0⟩ [] where
  pages := fun kind => by cases kind <;> rfl
  snapshots := rfl
  tallies := fun _ => Counters.tallies_nil

def recorded (sp : Space) (what : Countable) : Space :=
  { sp with statistics := sp.statistics.record what }

theorem enabled_record (st : Statistics) (what : Countable) :
    (st.record what).enabled = st.enabled := by
  unfold Statistics.record
  split
  · rfl
  · rfl

theorem record_of_disabled {st : Statistics} (h : st.enabled = false) (what : Countable) :
    st.record what = st := by
  rw [Statistics.record, h, if_neg (by simp)]

theorem record_of_enabled {st : Statistics} (h : st.enabled = true) (what : Countable) :
    (st.record what).counters = st.counters.add what := by
  rw [Statistics.record, if_pos h]

theorem Recorded.record (h : sp.Recorded number es) (what : Countable) :
    (sp.recorded what).Recorded number es where
  aligned := h.aligned
  bounded := h.bounded
  enabled := (enabled_record _ what).trans h.enabled
  disabled := by
    intro hoff
    have hoff' : sp.statistics.enabled = false := (enabled_record _ what).symm.trans hoff
    rw [recorded, record_of_disabled hoff']
    exact h.disabled hoff'
  silent := h.silent
  told := h.told

theorem Recorded.report (h : sp.Recorded number es) (what : Countable) {e : Event}
    (he : e.page? = none) :
    (sp.recorded what).Recorded number (es ++ if sp.config.verbose then [e] else []) := by
  have hr := h.record what
  refine ⟨hr.aligned, hr.bounded, hr.enabled, hr.disabled, ?_, ?_⟩
  · intro hv
    have hv' : sp.config.verbose = false := hv
    rw [hv', if_neg (by simp), List.append_nil]
    exact h.silent hv'
  · intro hv
    have hv' : sp.config.verbose = true := hv
    rw [if_pos hv']
    exact (h.told hv').append he

theorem Accounted.report (h : sp.Accounted es) (hon : sp.statistics.enabled = true) {e : Event}
    (he : e.counted? = some what) (hpage : ∀ kind, what ≠ .page kind) :
    (sp.recorded what).Accounted (es ++ if sp.config.verbose then [e] else []) where
  pages := by
    intro kind
    rw [recorded, record_of_enabled hon, Counters.tally_add, if_neg (hpage kind)]
    exact h.pages kind
  snapshots := by
    rw [recorded, record_of_enabled hon, ← h.snapshots]
    cases what with
    | page kind => exact absurd rfl (hpage kind)
    | _ => rfl
  tallies := by
    intro hv
    have hv' : sp.config.verbose = true := hv
    rw [recorded, record_of_enabled hon, if_pos hv']
    exact (h.tallies hv').append he hpage

def grown (sp : Space) (page : Page) (token : Nat) : Space :=
  { sp.recorded (.page page.kind) with table := sp.table.extended page token }

def announcement (sp : Space) (number : Nat) (kind : PageKind) : List Event :=
  if sp.config.verbose then
    [.pageAllocated number (UInt32.ofNat sp.table.size) kind,
      .snapshotPublished number (sp.table.generation + 1) (sp.table.size + 1)]
  else []

theorem Recorded.grow (h : sp.Recorded number es) (page : Page) (token : Nat)
    (room : sp.table.size < sp.config.maxPages.toNat) :
    (sp.grown page token).Recorded number (es ++ sp.announcement number page.kind) := by
  have hr := h.record (.page page.kind)
  refine ⟨h.aligned.extended page token, h.bounded, hr.enabled, hr.disabled, ?_, ?_⟩
  · intro hv
    have hv' : sp.config.verbose = false := hv
    rw [announcement, hv', if_neg (by simp), List.append_nil]
    exact h.silent hv'
  · intro hv
    have hv' : sp.config.verbose = true := hv
    have hlength : sp.table.kinds.toList.length = sp.table.size := by
      simp [h.aligned.kinds, PageTable.size]
    have hpage : (UInt32.ofNat sp.table.size).toNat = sp.table.kinds.toList.length := by
      have hbound := h.bounded
      have hmax : PagedMemory.maxPages = 1048576 := rfl
      rw [hlength, UInt32.toNat_ofNat_of_lt' (by rw [UInt32.size]; omega)]
    have htold := (h.told hv').grow page.kind hpage
    have hgeneration : sp.table.generation = sp.table.size := h.aligned.generation
    rw [hlength] at htold
    rw [announcement, if_pos hv', hgeneration]
    simpa [grown, recorded, PageTable.extended] using htold

theorem Accounted.grow (h : sp.Accounted es) (hon : sp.statistics.enabled = true) (page : Page)
    (token : Nat) (number : Nat) :
    (sp.grown page token).Accounted (es ++ sp.announcement number page.kind) where
  pages := by
    intro kind
    have hpages := h.pages kind
    simp only [PageTable.countOf] at hpages
    simp only [grown, recorded, record_of_enabled hon, Counters.tally_add, PageTable.countOf,
      PageTable.extended, Array.toList_push, List.countP_append, List.countP_singleton, hpages,
      Countable.page.injEq, beq_iff_eq]
  snapshots := by
    have hsnapshots := h.snapshots
    simp only [PageTable.size] at hsnapshots
    simp only [grown, recorded, record_of_enabled hon, PageTable.extended, PageTable.size,
      Array.size_push, ← hsnapshots]
    cases page.kind <;> rfl
  tallies := by
    intro hv
    have hv' : sp.config.verbose = true := hv
    have htallies := (h.tallies hv').grow number (UInt32.ofNat sp.table.size) page.kind
      (sp.table.generation + 1) (sp.table.size + 1)
    rw [announcement, if_pos hv']
    simpa only [grown, recorded, record_of_enabled hon] using htallies

end Space

namespace Memory

variable {m m' : Memory} {s s' : SpaceId} {counted : List Countable} {config : Config}

def Recorded (m : Memory) (s : SpaceId) : Prop :=
  (m.space s).Recorded (m.number s) (m.eventsOf s)

def Accounted (m : Memory) (s : SpaceId) : Prop :=
  (m.space s).statistics.enabled = true → (m.space s).Accounted (m.eventsOf s)

theorem recorded_congr (horigin : m'.origin = m.origin) (hspace : m'.space s = m.space s)
    (hevents : m'.eventsOf s = m.eventsOf s) (h : m.Recorded s) : m'.Recorded s := by
  rw [Recorded, number, horigin, hspace, hevents]
  exact h

theorem accounted_congr (hspace : m'.space s = m.space s)
    (hevents : m'.eventsOf s = m.eventsOf s) (h : m.Accounted s) : m'.Accounted s := by
  rw [Accounted, hspace, hevents]
  exact h

theorem filter_append_of_eq (es new : List Event) {n : Nat} (hnew : ∀ e ∈ new, e.space = n) :
    (es ++ new).filter (fun e => e.space == n) = es.filter (fun e => e.space == n) ++ new := by
  rw [List.filter_append]
  congr 1
  rw [List.filter_eq_self]
  intro e he
  simpa using hnew e he

theorem space_report (m : Memory) (s : SpaceId) (what : Countable) (e : Event) :
    ((m.count s what).emit s e).space s = (m.space s).recorded what := by
  rw [space_emit, space_count, if_pos rfl, Space.recorded]

theorem eventsOf_report (m : Memory) (s : SpaceId) (what : Countable) {e : Event}
    (he : e.space = m.number s) : ((m.count s what).emit s e).eventsOf s =
      m.eventsOf s ++ if (m.space s).config.verbose then [e] else [] := by
  have hnumber : ((m.count s what).emit s e).number s = m.number s := by
    rw [number, origin_emit]
    rfl
  rw [eventsOf, events_emit, config_count, hnumber, filter_append_of_eq, eventsOf]
  · rfl
  · split <;> simp [he]

theorem space_grow {s : SpaceId} (hs : s < m.spaces.size) (page : PageId) (kind : PageKind) :
    ((m.extend s kind).announcePage s page kind).space s =
      (m.space s).grown ⟨kind, m.frames.size⟩ m.tokens.size := by
  rw [space_announcePage, space_count, if_pos rfl, space_extend, if_pos ⟨rfl, hs⟩]
  rfl

theorem eventsOf_grow {s : SpaceId} (hs : s < m.spaces.size) (kind : PageKind) :
    ((m.extend s kind).announcePage s (UInt32.ofNat (m.table s).size) kind).eventsOf s =
      m.eventsOf s ++ (m.space s).announcement (m.number s) kind := by
  have hnumber : ((m.extend s kind).announcePage s (UInt32.ofNat (m.table s).size) kind).number s =
      m.number s := by
    rw [number, origin_announcePage]
    rfl
  have hgrown : ((m.extend s kind).table s).generation = (m.table s).generation + 1 := by
    rw [table_extend_self hs]
    rfl
  rw [eventsOf, events_announcePage, config_extend, hnumber, size_table_extend hs, hgrown,
    filter_append_of_eq, eventsOf]
  · rfl
  · split <;> simp [Event.space, number, extend]

theorem Work.recorded (h : m.Work s counted m') (hm : m.Recorded s) : m'.Recorded s := by
  induction h with
  | refl => exact hm
  | @note _ m₁ _ n hn ih =>
    exact recorded_congr (m := m₁) rfl rfl (eventsOf_note_of_none hn m₁ s) ih
  | @store _ m₁ _ p i v ih => exact recorded_congr (m := m₁) rfl rfl rfl ih
  | @report _ m₁ _ e what hwhat hpage hspace ih =>
    rw [Recorded, space_report, number, origin_emit, eventsOf_report m₁ s what hspace]
    exact ih.report what (Event.page?_of_counted hwhat hpage)
  | @ask _ m₁ _ kind ih =>
    have horigin := origin_congr (storage_ask m₁ s kind)
    obtain ⟨n, hspace⟩ := space_ask m₁ s kind s
    rw [Recorded, hspace, eventsOf_congr horigin (events_ask m₁ s kind), number, horigin]
    exact ⟨ih.aligned, ih.bounded, ih.enabled, ih.disabled, ih.silent, ih.told⟩
  | @grow _ m₁ _ kind room ih =>
    have hs := lt_size_of_room room
    rw [Recorded, space_grow hs, eventsOf_grow hs, number, origin_announcePage]
    exact ih.grow _ _ room

theorem Work.accounted (h : m.Work s counted m') (hm : m.Accounted s) : m'.Accounted s := by
  induction h with
  | refl => exact hm
  | @note _ m₁ _ n hn ih =>
    exact accounted_congr (m := m₁) rfl (eventsOf_note_of_none hn m₁ s) ih
  | @store _ m₁ _ p i v ih => exact accounted_congr (m := m₁) rfl rfl ih
  | @report _ m₁ _ e what hwhat hpage hspace ih =>
    rw [Accounted, space_report, eventsOf_report m₁ s what hspace]
    intro hon
    have hon' := (Space.enabled_record _ what).symm.trans hon
    exact (ih hon').report hon' hwhat hpage
  | @ask _ m₁ _ kind ih =>
    obtain ⟨n, hspace⟩ := space_ask m₁ s kind s
    rw [Accounted, hspace,
      eventsOf_congr (origin_congr (storage_ask m₁ s kind)) (events_ask m₁ s kind)]
    intro hon
    exact ⟨(ih hon).pages, (ih hon).snapshots, (ih hon).tallies⟩
  | @grow _ m₁ _ kind room ih =>
    have hs := lt_size_of_room room
    rw [Accounted, space_grow hs, eventsOf_grow hs]
    intro hon
    have hon' := (Space.enabled_record _ (.page kind)).symm.trans hon
    exact (ih hon').grow hon' _ _ _

theorem Confined.recorded (h : Confined s m m') (hs : s' ≠ s) (hm : m.Recorded s') :
    m'.Recorded s' := recorded_congr h.origin (h.others s' hs) (h.events s' hs) hm

theorem Confined.accounted (h : Confined s m m') (hs : s' ≠ s) (hm : m.Accounted s') :
    m'.Accounted s' := accounted_congr (h.others s' hs) (h.events s' hs) hm

theorem recorded_say (d : Diagnostic) (h : m.Recorded s) : (m.say d).Recorded s :=
  recorded_congr (m := m) rfl rfl (eventsOf_note_of_none rfl m s) h

theorem accounted_say (d : Diagnostic) (h : m.Accounted s) : (m.say d).Accounted s :=
  accounted_congr (m := m) rfl (eventsOf_note_of_none rfl m s) h

theorem Recorded.eventsOf_missing (h : m.Recorded m.spaces.size) :
    m.eventsOf m.spaces.size = [] := by
  have hmissing : m.space m.spaces.size = .missing := by simp [space]
  have hsilent := h.silent
  rw [hmissing] at hsilent
  exact hsilent rfl

theorem recorded_addSpace (h : ∀ s, m.Recorded s) (hc : config.Valid) (s : SpaceId) :
    (m.addSpace config).Recorded s := by
  by_cases hs : s = m.spaces.size
  · subst hs
    have hevents : (m.addSpace config).eventsOf m.spaces.size = [] :=
      (h m.spaces.size).eventsOf_missing
    rw [Recorded, hevents, space_addSpace, if_pos rfl]
    exact Space.recorded_new hc _ _
  · have hspace : (m.addSpace config).space s = m.space s := by
      rw [space_addSpace, if_neg hs]
    exact recorded_congr (m := m) rfl hspace rfl (h s)

theorem accounted_addSpace (h : ∀ s, m.Recorded s) (ha : m.Accounted s) :
    (m.addSpace config).Accounted s := by
  by_cases hs : s = m.spaces.size
  · subst hs
    have hevents : (m.addSpace config).eventsOf m.spaces.size = [] :=
      (h m.spaces.size).eventsOf_missing
    rw [Accounted, hevents, space_addSpace, if_pos rfl]
    exact fun _ => Space.accounted_new config _
  · have hspace : (m.addSpace config).space s = m.space s := by
      rw [space_addSpace, if_neg hs]
    exact accounted_congr (m := m) hspace rfl ha

theorem recorded_close (s : SpaceId) (h : m.Recorded s') : (m.close s).Recorded s' := by
  obtain ⟨b, hspace⟩ := space_close m s s'
  rw [Recorded, hspace]
  exact ⟨h.aligned, h.bounded, h.enabled, h.disabled, h.silent, h.told⟩

theorem accounted_close (s : SpaceId) (h : m.Accounted s') : (m.close s).Accounted s' := by
  obtain ⟨b, hspace⟩ := space_close m s s'
  rw [Accounted, hspace]
  intro hon
  exact ⟨(h hon).pages, (h hon).snapshots, (h hon).tallies⟩

theorem recorded_resetStatistics (s : SpaceId) (h : m.Recorded s') :
    (m.resetStatistics s).Recorded s' := by
  by_cases hs : s' = s
  · rw [Recorded, space_resetStatistics, if_pos hs]
    exact ⟨h.aligned, h.bounded, h.enabled, fun _ => rfl, h.silent, h.told⟩
  · have hspace : (m.resetStatistics s).space s' = m.space s' := by
      rw [space_resetStatistics, if_neg hs]
    exact recorded_congr (m := m) rfl hspace rfl h

def relinks (m : Memory) : Nat :=
  ((List.range m.spaces.size).map fun s => (m.space s).statistics.counters.relinks).sum

theorem sum_map_range_add {f g : Nat → Nat} {k d : Nat}
    (h : ∀ i, g i = f i + if i = k then d else 0) (n : Nat) :
    ((List.range n).map g).sum = ((List.range n).map f).sum + if k < n then d else 0 := by
  induction n with
  | zero => simp
  | succ n ih =>
    simp only [List.range_succ, List.map_append, List.sum_append, List.map_singleton,
      List.sum_singleton, ih, h n]
    by_cases hk : k < n
    · rw [if_pos hk, if_pos (Nat.lt_succ_of_lt hk), if_neg (Nat.ne_of_gt hk)]
      omega
    · by_cases hn : n = k
      · rw [if_neg hk, if_pos hn, if_pos (by omega)]
        omega
      · rw [if_neg hk, if_neg hn, if_neg (by omega)]
        omega

theorem Work.relinks (h : m.Work s counted m')
    (hon : s < m.spaces.size → (m.space s).statistics.enabled = true) :
    m'.relinks = m.relinks + if s < m.spaces.size then counted.count .relink else 0 := by
  have hstep : ∀ s', (m'.space s').statistics.counters.relinks =
      (m.space s').statistics.counters.relinks + if s' = s then
        (if (m.space s).statistics.enabled then counted.count .relink else 0) else 0 := by
    intro s'
    have htally := h.counts.tally s' .relink
    by_cases hs : s' = s
    · subst hs
      simpa [Counters.tally] using htally
    · simpa [Counters.tally, hs] using htally
  have hsum := sum_map_range_add hstep m.spaces.size
  rw [Memory.relinks, h.confined.spaces, hsum]
  by_cases hs : s < m.spaces.size
  · rw [if_pos hs, if_pos hs, if_pos (hon hs)]
    rfl
  · rw [if_neg hs, if_neg hs]
    rfl

theorem relinks_addSpace (m : Memory) (config : Config) :
    (m.addSpace config).relinks = m.relinks := by
  rw [relinks, relinks, size_spaces_addSpace, List.range_succ, List.map_append, List.sum_append,
    List.map_singleton, List.sum_singleton, space_addSpace, if_pos rfl]
  have hsame : (List.range m.spaces.size).map
      (fun s => ((m.addSpace config).space s).statistics.counters.relinks) =
      (List.range m.spaces.size).map fun s => (m.space s).statistics.counters.relinks := by
    apply List.map_congr_left
    intro s hs
    rw [space_addSpace, if_neg (Nat.ne_of_lt (List.mem_range.mp hs))]
  rw [hsame]
  rfl

theorem relinks_close (m : Memory) (s : SpaceId) : (m.close s).relinks = m.relinks := by
  rw [relinks, relinks, (sameTables_close m s).spaces]
  congr 1
  apply List.map_congr_left
  intro s' _
  obtain ⟨b, hspace⟩ := space_close m s s'
  rw [hspace]

end Memory

end PagedMemory
