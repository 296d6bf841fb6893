import PagedMemory.Proofs.Memory.Work

/-! Memories that agree at a space. They may differ in what the cells of other spaces hold and
in what was counted for them. Whatever is done to the space has the same answer in both and
leaves them in agreement. -/

set_option autoImplicit false

namespace PagedMemory

namespace Memory

variable {m m' : Memory} {s : SpaceId}

theorem SameTables.symm (h : SameTables m m') : SameTables m' m where
  spaces := h.spaces.symm
  config := fun s => (h.config s).symm
  table := fun s => (h.table s).symm
  frames := h.frames.symm
  tokens := h.tokens.symm

/-- The memories differ in the cells of other spaces, in what was counted for them and in what the
system has for them, and in nothing else. -/
structure AgreesAt (s : SpaceId) (m m' : Memory) : Prop where
  tables : SameTables m m'
  origin : m'.origin = m.origin
  isOpen : ∀ s', (m'.space s').isOpen = (m.space s').isOpen
  journal : m'.journal = m.journal
  space : m'.space s = m.space s
  supply : m'.supply s = m.supply s
  contents : ∀ c : Cell, c.space = s → m'.contents c = m.contents c

namespace AgreesAt

theorem refl (s : SpaceId) (m : Memory) : AgreesAt s m m :=
  ⟨.refl m, rfl, fun _ => rfl, rfl, rfl, rfl, fun _ _ => rfl⟩

variable (h : AgreesAt s m m')
include h

theorem table (s' : SpaceId) : m'.table s' = m.table s' := h.tables.table s'

theorem config (s' : SpaceId) : (m'.space s').config = (m.space s').config := h.tables.config s'

theorem number (s' : SpaceId) : m'.number s' = m.number s' := by
  rw [Memory.number, Memory.number, h.origin]

theorem isValid (t : PageTable) : m'.isValid t = m.isValid t := by
  rw [Memory.isValid, Memory.isValid, h.tables.tokens]

theorem pageOf? (c : Cell) : m'.pageOf? c = m.pageOf? c := by
  rw [Memory.pageOf?, Memory.pageOf?, h.table]

theorem load {p : Page} {q : PageId} {e : Fin elementsPerPage}
    (hp : m.pageOf? ⟨s, q, e⟩ = some p) : m'.load p e = m.load p e := by
  have hp' : m'.pageOf? ⟨s, q, e⟩ = some p := (h.pageOf? _).trans hp
  have hcontents := h.contents ⟨s, q, e⟩ rfl
  rw [contents_of_page hp', contents_of_page hp] at hcontents
  exact hcontents

theorem of_storage_eq {n n' : Memory} (hn : n.storage = m.storage) (hn' : n'.storage = m'.storage)
    (hjournal : n'.journal = n.journal) (hspace : n'.space s = n.space s) :
    AgreesAt s n n' where
  tables := ((sameTables_of_storage_eq hn).symm.trans h.tables).trans
    (sameTables_of_storage_eq hn')
  origin := by rw [origin_congr hn, origin_congr hn', h.origin]
  isOpen := fun s' => by rw [isOpen_congr hn, isOpen_congr hn', h.isOpen]
  journal := hjournal
  space := hspace
  supply := by rw [supply_congr hn, supply_congr hn', h.supply]
  contents := by
    intro c hc
    rw [contents_of_storage_eq hn, contents_of_storage_eq hn', h.contents c hc]

theorem note (n : Notice) : AgreesAt s (m.note n) (m'.note n) :=
  h.of_storage_eq rfl rfl (congrArg (Array.push · n) h.journal) h.space

theorem say (d : Diagnostic) : AgreesAt s (m.say d) (m'.say d) := h.note (.diagnostic d)

theorem emit (s' : SpaceId) (e : Event) : AgreesAt s (m.emit s' e) (m'.emit s' e) := by
  unfold Memory.emit
  rw [h.config]
  split
  · exact h.note (.event e)
  · exact h

theorem count (what : Countable) : AgreesAt s (m.count s what) (m'.count s what) := by
  refine h.of_storage_eq (storage_count m s what) (storage_count m' s what) h.journal ?_
  rw [space_count, space_count, if_pos rfl, if_pos rfl, h.space]

theorem store (hm : m.Sound) {c : Cell} {p : Page} (hp : m.pageOf? c = some p) (v : Int32) :
    AgreesAt s (m.store p c.element v) (m'.store p c.element v) where
  tables := ((sameTables_store m p _ v).symm.trans h.tables).trans (sameTables_store m' p _ v)
  origin := h.origin
  isOpen := h.isOpen
  journal := h.journal
  space := h.space
  supply := h.supply
  contents := by
    intro x hx
    have hp' : m'.pageOf? c = some p := (h.pageOf? c).trans hp
    rw [hm.contents_store hp, (hm.of_sameTables h.tables).contents_store hp', h.contents x hx]

theorem extend (hm : m.Sound) (s' : SpaceId) (kind : PageKind) :
    AgreesAt s (m.extend s' kind) (m'.extend s' kind) := by
  have hnext : m'.nextTable s' kind = m.nextTable s' kind := by
    rw [nextTable, nextTable, h.table, h.tables.frames, h.tables.tokens]
  refine ⟨⟨?_, ?_, ?_, ?_, ?_⟩, h.origin, ?_, h.journal, ?_, h.supply, ?_⟩
  · rw [size_spaces_extend, size_spaces_extend, h.tables.spaces]
  · intro s''
    rw [config_extend, config_extend, h.config]
  · intro s''
    have htable := h.table s''
    simp only [Memory.table] at htable ⊢
    rw [space_extend, space_extend, h.tables.spaces, hnext]
    split
    · rfl
    · exact htable
  · rw [size_frames_extend, size_frames_extend, h.tables.frames]
  · simp only [Memory.extend, h.table, h.tables.tokens]
  · intro s''
    have hopen := h.isOpen s''
    rw [space_extend, space_extend, h.tables.spaces]
    split
    · exact hopen
    · exact hopen
  · rw [space_extend, space_extend, h.tables.spaces, hnext, h.space]
  · intro c hc
    rw [hm.contents_extend, (hm.of_sameTables h.tables).contents_extend, h.contents c hc]

theorem addSpace (config : Config) : AgreesAt s (m.addSpace config) (m'.addSpace config) := by
  have hspace : ∀ s', (m'.addSpace config).space s' = if s' = m.spaces.size then
      ⟨config, { enabled := config.statsEnabled }, .empty m.tokens.size, true, 0⟩
        else m'.space s' := by
    intro s'
    rw [space_addSpace, h.tables.spaces, h.tables.tokens]
  refine ⟨⟨?_, ?_, ?_, h.tables.frames, ?_⟩, h.origin, ?_, h.journal, ?_, h.supply, ?_⟩
  · rw [size_spaces_addSpace, size_spaces_addSpace, h.tables.spaces]
  · intro s'
    rw [hspace, space_addSpace]
    split
    · rfl
    · exact h.config s'
  · intro s'
    rw [Memory.table, Memory.table, hspace, space_addSpace]
    split
    · rfl
    · exact h.table s'
  · simp only [Memory.addSpace, h.tables.tokens]
  · intro s'
    rw [hspace, space_addSpace]
    split
    · rfl
    · exact h.isOpen s'
  · rw [hspace, space_addSpace, h.space]
  · intro c hc
    rw [contents_addSpace, contents_addSpace, h.contents c hc]

theorem close (s' : SpaceId) : AgreesAt s (m.close s') (m'.close s') where
  tables := ((sameTables_close m s').symm.trans h.tables).trans (sameTables_close m' s')
  origin := h.origin
  isOpen := by
    intro s''
    rw [isOpen_close, isOpen_close, h.isOpen]
  journal := h.journal
  space := by
    by_cases hs : s' = s
    · rw [hs, space_close_self, space_close_self, h.space]
    · rw [space_close_of_ne m hs, space_close_of_ne m' hs, h.space]
  supply := h.supply
  contents := by
    intro c hc
    rw [contents_close, contents_close, h.contents c hc]

theorem resetStatistics (s' : SpaceId) :
    AgreesAt s (m.resetStatistics s') (m'.resetStatistics s') := by
  refine h.of_storage_eq (storage_resetStatistics m s') (storage_resetStatistics m' s')
    h.journal ?_
  rw [space_resetStatistics, space_resetStatistics, h.space]

theorem refuse (requested : Nat) (reason : String) :
    AgreesAt s (m.refuse s requested reason) (m'.refuse s requested reason) := by
  unfold Memory.refuse
  rw [h.number]
  exact (h.count .allocationRejected).emit s _

theorem refusal? (kind : PageKind) : m'.refusal? s kind = m.refusal? s kind := by
  cases kind with
  | heap => rfl
  | direct => rw [Memory.refusal?, Memory.refusal?, h.supply, h.space]

theorem ask (kind : PageKind) : AgreesAt s (m.ask s kind) (m'.ask s kind) := by
  cases kind with
  | heap => exact h
  | direct =>
    refine h.of_storage_eq (storage_ask m s .direct) (storage_ask m' s .direct) h.journal ?_
    rw [space_ask_self, space_ask_self, h.tables.spaces, h.space]

theorem announcePage (page : PageId) (kind : PageKind) :
    AgreesAt s (m.announcePage s page kind) (m'.announcePage s page kind) := by
  have hcount := h.count (.page kind)
  -- From here on both sides note the same, line by line.
  have hrest : ∀ {n n' : Memory}, AgreesAt s n n' →
      AgreesAt s ((n.emit s (.pageAllocated (n.number s) page kind)).emit s (.snapshotPublished
        ((n.emit s (.pageAllocated (n.number s) page kind)).number s)
        ((n.emit s (.pageAllocated (n.number s) page kind)).table s).generation
        ((n.emit s (.pageAllocated (n.number s) page kind)).table s).size))
      ((n'.emit s (.pageAllocated (n'.number s) page kind)).emit s (.snapshotPublished
        ((n'.emit s (.pageAllocated (n'.number s) page kind)).number s)
        ((n'.emit s (.pageAllocated (n'.number s) page kind)).table s).generation
        ((n'.emit s (.pageAllocated (n'.number s) page kind)).table s).size)) := by
    intro n n' hn
    rw [hn.number]
    have hemit := hn.emit s (.pageAllocated (n.number s) page kind)
    rw [hemit.number, hemit.table]
    exact hemit.emit s _
  unfold Memory.announcePage
  dsimp only
  rw [hcount.config, hcount.number]
  split
  · exact hrest (hcount.say _)
  · exact hrest hcount

end AgreesAt

inductive Alike {α : Type} (s : SpaceId) : α × Memory → α × Memory → Prop where
  | intro (answer : α) {n n' : Memory} (h : AgreesAt s n n') : Alike s (answer, n) (answer, n')

inductive AlikeWith {α β : Type} (s : SpaceId) : α × β × Memory → α × β × Memory → Prop where
  | intro (answer : α) (tool : β) {n n' : Memory} (h : AgreesAt s n n') :
    AlikeWith s (answer, tool, n) (answer, tool, n')

namespace AgreesAt

variable (h : AgreesAt s m m')
include h

theorem allocatePage (hm : m.Sound) (kind : Option PageKind) :
    Alike s (m.allocatePage s kind) (m'.allocatePage s kind) := by
  unfold Memory.allocatePage
  dsimp only
  rw [h.config, h.table, h.number]
  split
  · exact .intro _ ((h.say _).refuse _ _)
  · generalize kind.getD (m.space s).config.defaultKind = kind
    rw [h.refusal?]
    cases m.refusal? s kind with
    | some cause => exact .intro _ (h.ask kind)
    | none =>
      have hask := hm.of_sameTables (sameTables_of_storage_eq (storage_ask m s kind))
      exact .intro _ (((h.ask kind).extend hask s kind).announcePage _ kind)

theorem reserve (hm : m.Sound) (size : Nat) (kind : Option PageKind) :
    Alike s (m.reserve s size kind) (m'.reserve s size kind) := by
  unfold Memory.reserve
  dsimp only
  rw [h.number]
  split
  · exact .intro _ ((h.say _).refuse _ _)
  · exact h.allocatePage hm kind

theorem allocateMany (hm : m.Sound) (kinds : Array (Option PageKind)) (n i : Nat)
    (last : Option Address) :
    Alike s (m.allocateMany s kinds n i last) (m'.allocateMany s kinds n i last) := by
  induction n generalizing i last m m' with
  | zero => exact .intro _ h
  | succ n ih =>
    have hpage := h.allocatePage hm (kinds[i % kinds.size]?.getD none)
    have hsound := (advance_allocatePage m s (kinds[i % kinds.size]?.getD none)).sound hm
    unfold Memory.allocateMany
    generalize m.allocatePage s (kinds[i % kinds.size]?.getD none) = r at hpage hsound
    generalize m'.allocatePage s (kinds[i % kinds.size]?.getD none) = r' at hpage
    cases hpage with
    | intro answer hagree =>
    cases answer with
    | error e => exact .intro _ hagree
    | ok a => exact ih hagree hsound (i + 1) (some a)

theorem allocateAll (hm : m.Sound) (kind : Option PageKind) (n : Nat) :
    Alike s (m.allocateAll s kind n) (m'.allocateAll s kind n) := by
  induction n generalizing m m' with
  | zero => exact .intro _ h
  | succ n ih =>
    have hpage := h.allocatePage hm kind
    have hsound := (advance_allocatePage m s kind).sound hm
    simp only [Memory.allocateAll]
    generalize m.allocatePage s kind = r at hpage hsound
    generalize m'.allocatePage s kind = r' at hpage
    cases hpage with
    | @intro answer m₁ m₁' hagree =>
    have hrest := ih hagree hsound
    dsimp only
    generalize Memory.allocateAll s kind n m₁ = r at hrest
    generalize Memory.allocateAll s kind n m₁' = r' at hrest
    cases hrest with
    | intro answers hagree => exact .intro _ hagree

theorem claim (hm : m.Sound) (a : BumpAllocator) :
    AlikeWith s (a.claim m s) (a.claim m' s) := by
  have hpage := h.allocatePage hm (a.policy.kind a.pages.size)
  unfold BumpAllocator.claim
  generalize m.allocatePage s (a.policy.kind a.pages.size) = r at hpage
  generalize m'.allocatePage s (a.policy.kind a.pages.size) = r' at hpage
  cases hpage with
  | intro answer hagree =>
  cases answer with
  | error e => exact .intro _ _ hagree
  | ok base =>
    dsimp only
    rw [hagree.table]
    exact .intro _ _ (hagree.note _)

theorem malloc (hm : m.Sound) (a : BumpAllocator) (size : Nat) :
    AlikeWith s (a.malloc m s size) (a.malloc m' s size) := by
  unfold BumpAllocator.malloc
  by_cases large : pageSize < size
  · rw [if_pos large, if_pos large]
    exact .intro _ _ h
  rw [if_neg large, if_neg large]
  by_cases needed : a.current = none ∨ a.remaining < BumpAllocator.rounded size
  · have hclaim := h.claim hm a
    simp only [BumpAllocator.pageFor_of_needed needed]
    generalize a.claim m s = r at hclaim
    generalize a.claim m' s = r' at hclaim
    cases hclaim with
    | intro answer a₁ hagree =>
    cases answer with
    | error e => exact .intro _ _ hagree
    | ok base => exact .intro _ _ hagree
  · obtain ⟨hsome, hle⟩ := not_or.mp needed
    obtain ⟨base, hc⟩ := Option.ne_none_iff_exists'.mp hsome
    simp only [BumpAllocator.pageFor_of_left hc (Nat.le_of_not_lt hle)]
    exact .intro _ _ h

theorem readThrough? {t : PageTable} (ht : m.Past s t) (a : Address) :
    m'.readThrough? t a = m.readThrough? t a := by
  unfold Memory.readThrough?
  cases hp : t.pageAt? a with
  | none => rfl
  | some p =>
    have hload : m'.load p a.index = m.load p a.index :=
      h.load (q := a.page) (e := a.index) (ht.page? hp)
    rw [Option.map_some, Option.map_some, hload]

theorem writeThrough? (hm : m.Sound) {t : PageTable} (ht : m.Past s t) (a : Address)
    (v : Int32) : Option.Rel (AgreesAt s) (m.writeThrough? t a v) (m'.writeThrough? t a v) := by
  unfold Memory.writeThrough?
  cases hp : t.pageAt? a with
  | none => exact .none
  | some p => exact .some (h.store hm (c := a.cell s) (ht.page? hp) v)

theorem read (hs : s < m.spaces.size) (hm : m.Sound) (a : Address) : m'.read s a = m.read s a := by
  unfold Memory.read
  rw [h.table, h.readThrough? (hm.past_table hs)]

theorem write (hs : s < m.spaces.size) (hm : m.Sound) (a : Address) (v : Int32) :
    Alike s (m.write s a v) (m'.write s a v) := by
  have hwrite := h.writeThrough? hm (hm.past_table hs) a v
  unfold Memory.write
  rw [h.table]
  generalize m.writeThrough? (m.table s) a v = r at hwrite
  generalize m'.writeThrough? (m.table s) a v = r' at hwrite
  cases hwrite with
  | none => exact .intro _ h
  | some hagree => exact .intro _ hagree

theorem load? {p : Page} {q : PageId} (hp : ∀ e, m.pageOf? ⟨s, q, e⟩ = some p) (n : Nat) :
    m'.load? p n = m.load? p n := by
  unfold Memory.load?
  split
  · rw [h.load (hp _)]
  · rfl

theorem store? (hm : m.Sound) {p : Page} {q : PageId} (hp : ∀ e, m.pageOf? ⟨s, q, e⟩ = some p)
    (n : Nat) (v : Int32) : Option.Rel (AgreesAt s) (m.store? p n v) (m'.store? p n v) := by
  unfold Memory.store?
  by_cases hn : n < elementsPerPage
  · rw [dif_pos hn, dif_pos hn]
    exact .some (h.store hm (c := ⟨s, q, ⟨n, hn⟩⟩) (hp _) v)
  · rw [dif_neg hn, dif_neg hn]
    exact .none

theorem elements {p : Page} {q : PageId} (hp : ∀ e, m.pageOf? ⟨s, q, e⟩ = some p) :
    m'.elements p = m.elements p := by
  unfold Memory.elements
  apply List.map_congr_left
  intro e _
  exact h.load (hp e)

theorem store_elsewhere (hm : m'.Sound) {c : Cell} {p : Page} (hp : m'.pageOf? c = some p)
    (hc : c.space ≠ s) (v : Int32) : AgreesAt s m (m'.store p c.element v) where
  tables := h.tables.trans (sameTables_store m' p _ v)
  origin := h.origin
  isOpen := h.isOpen
  journal := h.journal
  space := h.space
  supply := h.supply
  contents := by
    intro x hx
    have hne : x ≠ c := fun heq => hc (heq ▸ hx)
    rw [hm.contents_store hp, if_neg hne, h.contents x hx]

theorem count_elsewhere {s' : SpaceId} (hs : s' ≠ s) (what : Countable) :
    AgreesAt s m (m'.count s' what) := by
  refine h.of_storage_eq rfl (storage_count m' s' what) h.journal ?_
  rw [space_count, if_neg hs.symm, h.space]

theorem reject (operation : String) :
    AgreesAt s (m.reject s operation) (m'.reject s operation) := by
  unfold Memory.reject
  rw [h.number]
  exact ((h.say _).count .linkRejected).emit s _

theorem link (op : Operation) (sig : Signature) (args : List Value) :
    Alike s (m.link s op sig args) (m'.link s op sig args) := by
  unfold Memory.link
  rw [h.number, h.table]
  split
  · exact .intro _ (h.reject op.text)
  · dsimp only
    split
    · exact .intro _ (h.say _)
    · rename_i kind _
      have hcount :=
        (h.say (.linked op.text sig (m.number s) kind (m.table s).generation)).count .link
      rw [hcount.number]
      exact .intro _ (hcount.emit s _)

theorem linkNamed (name : String) (sig : Signature) (args : List Value) :
    Alike s (m.linkNamed s name sig args) (m'.linkNamed s name sig args) := by
  unfold Memory.linkNamed
  split
  · exact h.link _ sig args
  · exact .intro _ ((h.say _).reject name)

theorem holds (g : Guard) (s' : SpaceId) : g.holds m' s' = g.holds m s' := by
  rw [Guard.holds, Guard.holds, h.isValid]

theorem served? (g : Guard) (p : PageId) : g.served? m' s p = g.served? m s p := by
  rw [Guard.served?, Guard.served?, h.holds]

theorem perform (hm : m.Sound) {p : Page} {sh : Shape} {args : sh.Args}
    (hp : (m.table s).page? (sh.page args) = some p) :
    Alike s (m.perform p sh args) (m'.perform p sh args) := by
  cases sh with
  | getElement =>
    have hload := h.load (q := Address.page args) (e := Address.index args) hp
    simp only [Memory.perform, hload]
    exact .intro _ h
  | setElement =>
    obtain ⟨a, v⟩ := args
    exact .intro _ (h.store hm (c := Address.cell s a) hp v)
  | lookupPage => exact .intro _ h

theorem invoke (hm : m.Sound) {g : Guard} (hg : m.Past g.owner g.table) (sh : Shape)
    (args : sh.Args) : Alike s (m.invoke s g sh args) (m'.invoke s g sh args) := by
  cases hserved : g.served? m s (sh.page args) with
  | none =>
    have hserved' := (h.served? g (sh.page args)).trans hserved
    rw [invoke_of_not_served hserved, invoke_of_not_served hserved']
    exact .intro _ h
  | some p =>
    have hserved' := (h.served? g (sh.page args)).trans hserved
    obtain ⟨_, _, hp, _⟩ := (Guard.served?_eq_some_iff hm hg).mp hserved
    have hperform := h.perform hm hp
    rw [invoke_of_served hserved, invoke_of_served hserved']
    generalize m.perform p sh args = r at hperform
    generalize m'.perform p sh args = r' at hperform
    cases hperform with
    | intro answer hagree => exact .intro _ hagree

end AgreesAt

end Memory

end PagedMemory
