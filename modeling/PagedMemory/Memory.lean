import PagedMemory.Counters
import PagedMemory.Mapping
import PagedMemory.Notice
import PagedMemory.PageTable

/-! The memory: frames of elements, validity marks of tables, address spaces, and a journal
of everything reported. A space owns one current table. Growth publishes a table with one
page more and clears the mark of the table that it replaces; tables kept elsewhere stay
readable, since frames are never given back. -/

set_option autoImplicit false

namespace PagedMemory

/-- Spaces are named by their place in the memory. -/
abbrev SpaceId := Nat

/-- What the system answers to a space that asks for storage, by how often it has asked before. -/
abbrev Supply := SpaceId → Nat → Mapping

def Supply.Grants (supply : Supply) (s : SpaceId) : Prop := ∀ n, (supply s n).fault? = none

def Supply.unlimited : Supply := fun _ _ => .placed 4096

theorem Supply.grants_unlimited (s : SpaceId) : Supply.unlimited.Grants s := fun _ => rfl

abbrev Frame := Vector Int32 elementsPerPage

def Frame.zero : Frame := Vector.replicate elementsPerPage 0

structure Space where
  config : Config
  statistics : Statistics
  table : PageTable
  isOpen : Bool
  /-- How often it has asked the system for storage. -/
  mappings : Nat := 0
  deriving DecidableEq, Repr

/-- What stands in for a space that does not exist: it holds nothing and cannot grow. -/
def Space.missing : Space :=
  ⟨{ maxPages := 0, statsEnabled := false }, { enabled := false }, .empty 0, false, 0⟩

instance : Inhabited Space := ⟨Space.missing⟩

structure Memory where
  /-- The number that reports give to the first space; the others count on from it. -/
  origin : Nat := 0
  supply : Supply := .unlimited
  frames : Array Frame := #[]
  /-- Marks of tables: is the table still the latest of its space? -/
  tokens : Array Bool := #[]
  spaces : Array Space := #[]
  journal : Array Notice := #[]

namespace Memory

def space (m : Memory) (s : SpaceId) : Space := m.spaces[s]?.getD .missing
def table (m : Memory) (s : SpaceId) : PageTable := (m.space s).table
def number (m : Memory) (s : SpaceId) : Nat := m.origin + s

def isValid (m : Memory) (t : PageTable) : Bool := m.tokens[t.token]?.getD false

def note (m : Memory) (n : Notice) : Memory := { m with journal := m.journal.push n }

def say (m : Memory) (d : Diagnostic) : Memory := m.note (.diagnostic d)

def emit (m : Memory) (s : SpaceId) (e : Event) : Memory :=
  if (m.space s).config.verbose then m.note (.event e) else m

def count (m : Memory) (s : SpaceId) (what : Countable) : Memory :=
  { m with spaces := m.spaces.modify s fun sp =>
      { sp with statistics := sp.statistics.record what } }

def resetStatistics (m : Memory) (s : SpaceId) : Memory :=
  { m with spaces := m.spaces.modify s fun sp => { sp with statistics := sp.statistics.reset } }

def events (m : Memory) : List Event := m.journal.toList.filterMap Notice.event?

def load (m : Memory) (p : Page) (i : Fin elementsPerPage) : Int32 :=
  match m.frames[p.frame]? with
  | some f => f[i]
  | none => 0

def store (m : Memory) (p : Page) (i : Fin elementsPerPage) (v : Int32) : Memory :=
  { m with frames := m.frames.modify p.frame fun f => f.set i v }

def load? (m : Memory) (p : Page) (i : Nat) : Option Int32 :=
  if h : i < elementsPerPage then some (m.load p ⟨i, h⟩) else none

def store? (m : Memory) (p : Page) (i : Nat) (v : Int32) : Option Memory :=
  if h : i < elementsPerPage then some (m.store p ⟨i, h⟩ v) else none

def storeChecked (m : Memory) (p : Page) (i : Nat) (v : Int32) : Except MemoryError Unit × Memory :=
  match m.store? p i v with
  | some m => (.ok (), m)
  | none =>
    (.error (.internal s!"page element {i} out of range ({elementsPerPage} elements)"), m)

def elements (m : Memory) (p : Page) : List Int32 := (List.finRange elementsPerPage).map (m.load p)

def readThrough? (m : Memory) (t : PageTable) (a : Address) : Option Int32 :=
  (t.pageAt? a).map fun p => m.load p a.index

def writeThrough? (m : Memory) (t : PageTable) (a : Address) (v : Int32) : Option Memory :=
  (t.pageAt? a).map fun p => m.store p a.index v

def read (m : Memory) (s : SpaceId) (a : Address) : Except MemoryError Int32 :=
  match m.readThrough? (m.table s) a with
  | some v => .ok v
  | none => .error (.unmappedAddress a)

def write (m : Memory) (s : SpaceId) (a : Address) (v : Int32) :
    Except MemoryError Unit × Memory :=
  match m.writeThrough? (m.table s) a v with
  | some m => (.ok (), m)
  | none => (.error (.unmappedAddress a), m)

def addSpace (m : Memory) (c : Config) : Memory :=
  { m with
    tokens := m.tokens.push true
    spaces := m.spaces.push ⟨c, { enabled := c.statsEnabled }, .empty m.tokens.size, true, 0⟩ }

def openValid (m : Memory) (c : Config) : SpaceId × Memory :=
  let s := m.spaces.size
  (s, (m.addSpace c).say (.spaceCreated (m.number s) c.defaultKind c.maxPages))

def openSpace (m : Memory) (c : Config) : Except MemoryError SpaceId × Memory :=
  match c.validate with
  | .error e => (.error (.configuration e), m)
  | .ok () => let (s, m) := m.openValid c; (.ok s, m)

/-- Closing a space leaves its tables and frames to those who still hold them. -/
def close (m : Memory) (s : SpaceId) : Memory :=
  { m with spaces := m.spaces.modify s fun sp => { sp with isOpen := false } }

/-- Why the next page of this kind is not to be had, if so; the heap has always room for one. -/
def refusal? (m : Memory) (s : SpaceId) : PageKind → Option String
  | .heap => none
  | .direct => (m.supply s (m.space s).mappings).fault?

def ask (m : Memory) (s : SpaceId) : PageKind → Memory
  | .heap => m
  | .direct =>
    { m with spaces := m.spaces.modify s fun sp => { sp with mappings := sp.mappings + 1 } }

/-- Publish a table with one page more, and clear the mark of the old one. -/
def extend (m : Memory) (s : SpaceId) (kind : PageKind) : Memory :=
  let old := m.table s
  let next := old.extended ⟨kind, m.frames.size⟩ m.tokens.size
  { m with
    frames := m.frames.push .zero
    tokens := (m.tokens.modify old.token fun _ => false).push true
    spaces := m.spaces.modify s fun sp => { sp with table := next } }

def refuse (m : Memory) (s : SpaceId) (requested : Nat) (reason : String) : Memory :=
  (m.count s .allocationRejected).emit s (.allocationRejected (m.number s) requested reason)

def announcePage (m : Memory) (s : SpaceId) (page : PageId) (kind : PageKind) : Memory :=
  let m := m.count s (.page kind)
  let m := if (m.space s).config.verbose then m.say (.pagePlaced (m.number s) page kind) else m
  let m := m.emit s (.pageAllocated (m.number s) page kind)
  m.emit s (.snapshotPublished (m.number s) (m.table s).generation (m.table s).size)

/-- Add a page, of the given kind or of the space's default kind, and answer where it
starts. -/
def allocatePage (m : Memory) (s : SpaceId) (kind : Option PageKind) :
    Except MemoryError Address × Memory :=
  let config := (m.space s).config
  let pages := (m.table s).size
  if config.maxPages.toNat ≤ pages then
    let m := m.say (.spaceExhausted (m.number s) pages)
    (.error (.addressSpaceExhausted pages), m.refuse s pageSize "address space exhausted")
  else
    let kind := kind.getD config.defaultKind
    match m.refusal? s kind with
    | some cause => (.error (.pageAllocation cause), m.ask s kind)
    | none =>
      let page := UInt32.ofNat pages
      (.ok (pageStart page), ((m.ask s kind).extend s kind).announcePage s page kind)

def reserve (m : Memory) (s : SpaceId) (size : Nat) (kind : Option PageKind) :
    Except MemoryError Address × Memory :=
  if pageSize < size then
    let m := m.say (.reservationTooLarge (m.number s) size)
    (.error (.allocationTooLarge size pageSize), m.refuse s size "larger than one page")
  else m.allocatePage s kind

end Memory

end PagedMemory
