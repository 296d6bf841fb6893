import PagedMemory.Config.Environment
import PagedMemory.MatrixTest
import PagedMemory.MemoryTest
import PagedMemory.Text.Split

/-! The words of a command line. Options stand before the command or after it, each at most
once on either side. A word is examined when it is reached, except that the separate value
of an option is only examined at the next option on its side, or at the end. -/

set_option autoImplicit false

namespace PagedMemory.CommandLine

inductive Place where
  | top | info | memtest | matmul
  deriving DecidableEq, Repr

def Place.ofWord? : String → Option Place
  | "info" => some .info
  | "memtest" => some .memtest
  | "matmul" => some .matmul
  | _ => none

inductive Setting where
  | verbose | noColor | json | print | mixed | help | version
  | pageKind | maxPages | count | seed | size | iterations
  deriving DecidableEq, Repr

namespace Setting

def name : Setting → String
  | .verbose => "verbose"
  | .noColor => "no-color"
  | .json => "json"
  | .print => "print"
  | .mixed => "mixed"
  | .help => "help"
  | .version => "version"
  | .pageKind => "page-kind"
  | .maxPages => "max-pages"
  | .count => "count"
  | .seed => "seed"
  | .size => "size"
  | .iterations => "iterations"

def letter? : Setting → Option Char
  | .verbose => some 'v'
  | .print => some 'p'
  | .help => some 'h'
  | .version => some 'V'
  | .count => some 'c'
  | .seed => some 's'
  | .size => some 'm'
  | .iterations => some 'i'
  | _ => none

def takesValue : Setting → Bool
  | .pageKind | .maxPages | .count | .seed | .size | .iterations => true
  | _ => false

def admits (s : Setting) (value : List Char) : Bool :=
  match s with
  | .pageKind => (PageKind.parse (String.ofList value)).toOption.isSome
  | _ => (Text.readCount value).isSome

end Setting

def Place.settings (p : Place) : List Setting :=
  [.verbose, .noColor, .json, .pageKind, .maxPages, .help, .version] ++
    match p with
    | .top | .info => []
    | .memtest => [.count, .seed]
    | .matmul => [.size, .iterations, .seed, .print, .mixed]

def Place.named? (p : Place) (name : List Char) : Option Setting :=
  p.settings.find? fun s => s.name.toList == name

def Place.lettered? (p : Place) (c : Char) : Option Setting :=
  p.settings.find? fun s => s.letter? == some c

inductive Stop where
  | misuse
  | help (p : Place)
  | version (p : Place)
  deriving DecidableEq, Repr

/-- Settings with the values that they were given; switches have an empty one. -/
abbrev Given := List (Setting × List Char)

namespace Given

def has (g : Given) (s : Setting) : Bool := g.any fun (t, _) => t == s

def add (g : Given) (s : Setting) (value : List Char) : Except Stop Given :=
  if g.has s then .error .misuse else .ok ((s, value) :: g)

def kind? (g : Given) : Option PageKind :=
  (g.lookup .pageKind).bind fun v => (PageKind.parse (String.ofList v)).toOption

def number? (g : Given) (s : Setting) : Option UInt64 := (g.lookup s).bind Text.readCount

end Given

structure Found where
  given : Given := []
  /-- An option that still lacks its value, or has one that was not examined yet. -/
  pending : Option (Setting × Option (List Char)) := none
  deriving DecidableEq, Repr

namespace Found

def settle (f : Found) : Except Stop Given :=
  match f.pending with
  | none => .ok f.given
  | some (_, none) => .error .misuse
  | some (s, some value) => if s.admits value then f.given.add s value else .error .misuse

def enter (f : Found) (p : Place) (s : Setting) (value : Option (List Char)) : Except Stop Found :=
  match f.settle with
  | .error e => .error e
  | .ok given =>
    match s, s.takesValue, value with
    | .help, _, none => .error (.help p)
    | .version, _, none => .error (.version p)
    | s, true, none => .ok ⟨given, some (s, none)⟩
    | s, true, some value => (Found.mk given (some (s, some value))).settle.map fun g => ⟨g, none⟩
    | s, false, none => (given.add s []).map fun g => ⟨g, none⟩
    | _, false, some _ => .error .misuse

/-- The letters of a word; the first that takes a value takes what is left, less an equals
sign in front. -/
def letters (p : Place) : List Char → Found → Except Stop Found
  | [], f => .ok f
  | c :: cs, f =>
    match p.lettered? c with
    | none => .error .misuse
    | some s =>
      if s.takesValue then
        match cs with
        | [] => f.enter p s none
        | '=' :: value => f.enter p s (some value)
        | value => f.enter p s (some value)
      else
        match f.enter p s none with
        | .error e => .error e
        | .ok f => letters p cs f

end Found

structure Reading where
  place : Place := .top
  /-- Before the command, once it is reached. -/
  above : Found := {}
  found : Found := {}
  /-- After a lone double dash no word may follow. -/
  closed : Bool := false
  /-- The command is to explain a command. -/
  explaining : Bool := false
  deriving DecidableEq, Repr

namespace Reading

def command (r : Reading) (w : String) : Except Stop Reading :=
  match r.place, Place.ofWord? w with
  | .top, some p => .ok { r with place := p, above := r.found, found := {} }
  | .top, none => if w = "help" then .ok { r with explaining := true } else .error .misuse
  | _, _ => .error .misuse

def word (r : Reading) (w : String) : Except Stop Reading :=
  if r.closed then .error .misuse
  else if r.explaining then
    match r.place, Place.ofWord? w with
    | .top, some p => .ok { r with place := p }
    | _, _ => .error .misuse
  else match w.toList with
    | ['-', '-'] => .ok { r with closed := true }
    | '-' :: '-' :: rest =>
      let (name, value) := Text.cut '=' rest
      match r.place.named? name with
      | some s => (r.found.enter r.place s value).map fun f => { r with found := f }
      | none => .error .misuse
    | '-' :: c :: cs => (Found.letters r.place (c :: cs) r.found).map fun f => { r with found := f }
    | value =>
      match r.found.pending with
      | some (s, none) => .ok { r with found := ⟨r.found.given, some (s, some value)⟩ }
      | _ => r.command w

def words (r : Reading) : List String → Except Stop Reading
  | [] => .ok r
  | w :: ws =>
    match r.word w with
    | .error e => .error e
    | .ok r => r.words ws

end Reading

inductive Command where
  | info
  | memtest (count : UInt64) (seed : Option UInt64)
  | matmul (size iterations : UInt64) (seed : Option UInt64) (print mixed : Bool)
  deriving DecidableEq, Repr

def Place.command? (p : Place) (g : Given) : Option Command :=
  match p with
  | .top => none
  | .info => some .info
  | .memtest =>
    some (.memtest ((g.number? .count).getD MemoryTest.defaultCount) (g.number? .seed))
  | .matmul =>
    some (.matmul ((g.number? .size).getD MatrixTest.defaultSize)
      ((g.number? .iterations).getD MatrixTest.defaultIterations)
      (g.number? .seed) (g.has .print) (g.has .mixed))

structure Arguments where
  verbose : Bool := false
  noColor : Bool := false
  json : Bool := false
  pageKind : Option PageKind := none
  maxPages : Option UInt64 := none
  command : Command
  deriving DecidableEq, Repr

namespace Arguments

def verboseVariable : String := "VMEMT_VERBOSE"
def noColorVariable : String := "VMEMT_NO_COLOR"

/-- A switch is on if it is given anywhere, or if its variable says so. The variable has to be
`true` or `false`; nobody looks at it when the switch is given on both sides. -/
def switch (above below : Given) (s : Setting) (value : Option ByteArray) : Except Stop Bool :=
  let given := above.has s || below.has s
  if above.has s && below.has s then .ok true
  else match value with
    | none => .ok given
    | some bytes =>
      match String.fromUTF8? bytes with
      | some "true" => .ok true
      | some "false" => .ok given
      | _ => .error .misuse

/-- What stands after the command counts more than what stands before it. -/
def ofGiven (v : Variables) (above below : Given) (c : Command) : Except Stop Arguments := do
  let verbose ← switch above below .verbose (v verboseVariable)
  let noColor ← switch above below .noColor (v noColorVariable)
  .ok { verbose := verbose
        noColor := noColor
        json := above.has .json || below.has .json
        pageKind := below.kind?.or above.kind?
        maxPages := (below.number? .maxPages).or (above.number? .maxPages)
        command := c }

/-- Read all words. What is pending after the command is examined before what is pending
in front of it. -/
def read (v : Variables) (ws : List String) : Except Stop Arguments := do
  let r ← ({} : Reading).words ws
  if r.explaining then .error (.help r.place)
  let below ← r.found.settle
  let above ← r.above.settle
  match r.place.command? below with
  | some c => ofGiven v above below c
  | none => .error .misuse

end Arguments

end PagedMemory.CommandLine
