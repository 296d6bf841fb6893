import PagedMemory.CallSite

/-! What a memory stores, apart from what it reports. Counters, the journal and the number of
requests to the system are set aside; frames, marks, tables and configurations remain.
Operations that only report leave the storage as it is, and tables, marks and elements depend
on the storage alone. -/

set_option autoImplicit false

namespace PagedMemory

/-- A space without anything that is counted. -/
def Space.storage (sp : Space) : Space :=
  { sp with statistics := { enabled := false }, mappings := 0 }

namespace Memory

def storage (m : Memory) : Memory :=
  { m with spaces := m.spaces.map Space.storage, journal := #[] }

@[simp] theorem frames_storage (m : Memory) : m.storage.frames = m.frames := rfl
@[simp] theorem tokens_storage (m : Memory) : m.storage.tokens = m.tokens := rfl
@[simp] theorem origin_storage (m : Memory) : m.storage.origin = m.origin := rfl
@[simp] theorem supply_storage (m : Memory) : m.storage.supply = m.supply := rfl
@[simp] theorem size_spaces_storage (m : Memory) : m.storage.spaces.size = m.spaces.size := by
  simp [storage]

@[simp] theorem space_storage (m : Memory) (s : SpaceId) :
    m.storage.space s = (m.space s).storage := by
  simp only [space, storage, Array.getElem?_map]
  cases m.spaces[s]? with
  | none => rfl
  | some sp => rfl

theorem table_storage (m : Memory) (s : SpaceId) : m.storage.table s = m.table s := by
  rw [table, space_storage]; rfl

theorem config_storage (m : Memory) (s : SpaceId) :
    (m.storage.space s).config = (m.space s).config := by
  rw [space_storage]; rfl

theorem isOpen_storage (m : Memory) (s : SpaceId) :
    (m.storage.space s).isOpen = (m.space s).isOpen := by
  rw [space_storage]; rfl

section Congr
variable {m m' : Memory}

theorem frames_congr (h : m'.storage = m.storage) : m'.frames = m.frames := by
  rw [← frames_storage m', h, frames_storage]

theorem tokens_congr (h : m'.storage = m.storage) : m'.tokens = m.tokens := by
  rw [← tokens_storage m', h, tokens_storage]

theorem size_spaces_congr (h : m'.storage = m.storage) : m'.spaces.size = m.spaces.size := by
  rw [← size_spaces_storage m', h, size_spaces_storage]

theorem table_congr (h : m'.storage = m.storage) (s : SpaceId) : m'.table s = m.table s := by
  rw [← table_storage m', h, table_storage]

theorem config_congr (h : m'.storage = m.storage) (s : SpaceId) :
    (m'.space s).config = (m.space s).config := by
  rw [← config_storage m', h, config_storage]

theorem origin_congr (h : m'.storage = m.storage) : m'.origin = m.origin := by
  rw [← origin_storage m', h, origin_storage]

theorem supply_congr (h : m'.storage = m.storage) : m'.supply = m.supply := by
  rw [← supply_storage m', h, supply_storage]

theorem isOpen_congr (h : m'.storage = m.storage) (s : SpaceId) :
    (m'.space s).isOpen = (m.space s).isOpen := by
  rw [← isOpen_storage m', h, isOpen_storage]

theorem load_congr (h : m'.storage = m.storage) (p : Page) (i : Fin elementsPerPage) :
    m'.load p i = m.load p i := by
  rw [load, load, frames_congr h]

end Congr

@[simp] theorem storage_note (m : Memory) (n : Notice) : (m.note n).storage = m.storage := rfl
@[simp] theorem storage_say (m : Memory) (d : Diagnostic) : (m.say d).storage = m.storage := rfl

@[simp] theorem storage_emit (m : Memory) (s : SpaceId) (e : Event) :
    (m.emit s e).storage = m.storage := by
  unfold emit
  split
  · rfl
  · rfl

theorem map_storage_modify (spaces : Array Space) (s : SpaceId) {f g : Space → Space}
    (hf : ∀ sp, (f sp).storage = g sp.storage) :
    (spaces.modify s f).map Space.storage = (spaces.map Space.storage).modify s g := by
  apply Array.ext_getElem?
  intro i
  simp only [Array.getElem?_map, Array.getElem?_modify]
  split
  · cases spaces[i]? with
    | none => rfl
    | some sp => simp [hf]
  · rfl

theorem storage_modify (m : Memory) (s : SpaceId) {f : Space → Space}
    (hf : ∀ sp, (f sp).storage = sp.storage) :
    storage { m with spaces := m.spaces.modify s f } = m.storage := by
  have hs := map_storage_modify m.spaces s (g := id) hf
  have hid : (m.spaces.map Space.storage).modify s id = m.spaces.map Space.storage :=
    Array.ext_getElem? fun i => by simp [Array.getElem?_modify]
  simp only [storage, hs, hid]

@[simp] theorem storage_count (m : Memory) (s : SpaceId) (what : Countable) :
    (m.count s what).storage = m.storage := storage_modify m s fun _ => rfl

@[simp] theorem storage_resetStatistics (m : Memory) (s : SpaceId) :
    (m.resetStatistics s).storage = m.storage := storage_modify m s fun _ => rfl

@[simp] theorem storage_ask (m : Memory) (s : SpaceId) (kind : PageKind) :
    (m.ask s kind).storage = m.storage := by
  cases kind with
  | heap => rfl
  | direct => exact storage_modify m s fun _ => rfl

@[simp] theorem storage_refuse (m : Memory) (s : SpaceId) (requested : Nat) (reason : String) :
    (m.refuse s requested reason).storage = m.storage := by
  simp [refuse]

@[simp] theorem storage_announcePage (m : Memory) (s : SpaceId) (page : PageId)
    (kind : PageKind) : (m.announcePage s page kind).storage = m.storage := by
  simp only [announcePage, storage_emit]
  split
  · simp
  · simp

@[simp] theorem storage_reject (m : Memory) (s : SpaceId) (operation : String) :
    (m.reject s operation).storage = m.storage := by
  simp [reject]

/-- Linking reports and changes nothing else. -/
@[simp] theorem storage_link (m : Memory) (s : SpaceId) (op : Operation) (sig : Signature)
    (args : List Value) : (m.link s op sig args).2.storage = m.storage := by
  unfold link
  split
  · simp
  · dsimp only
    split
    · simp
    · simp

@[simp] theorem storage_linkNamed (m : Memory) (s : SpaceId) (name : String) (sig : Signature)
    (args : List Value) : (m.linkNamed s name sig args).2.storage = m.storage := by
  unfold linkNamed
  split
  · simp
  · simp

end Memory

namespace CallSite

variable {sh : Shape}

@[simp] theorem storage_discard (site : CallSite sh) (m : Memory) (s : SpaceId) :
    (site.discard m s).2.storage = m.storage := by
  simp [discard]

@[simp] theorem storage_relink (site : CallSite sh) (m : Memory) (s : SpaceId) (args : sh.Args) :
    (site.relink m s args).2.storage = m.storage := by
  have hl := Memory.storage_link m s site.operation sh.signature (sh.values args)
  unfold relink
  split <;> rename_i hr
  · rw [hr] at hl; exact hl
  · rw [hr] at hl; exact hl
  · rw [hr] at hl
    split
    · exact hl
    · exact hl

end CallSite

end PagedMemory
