import PagedMemory.Config
import PagedMemory.Json.Reader

/-! Configurations as JSON. Written, a configuration is an object of four members. Read, the
members may stand in any order and among unknown ones, but each of the four exactly once;
an array of the four values in order stands for the same. -/

set_option autoImplicit false

namespace PagedMemory.Config

def kindKey : String := "default_page_kind"
def maxPagesKey : String := "max_pages"
def verboseKey : String := "verbose"
def statsKey : String := "stats_enabled"

def toJson (c : Config) : Json :=
  .object [
    Json.member kindKey (.ofString c.defaultKind.name),
    Json.member maxPagesKey (.ofNat c.maxPages.toNat),
    Json.member verboseKey (.bool c.verbose),
    Json.member statsKey (.bool c.statsEnabled)]

def written? (w : List Char) : Option String := (Text.unescape? w).map String.ofList

def kindOfName? (s : String) : Option PageKind := PageKind.all.find? (fun k => k.name == s)

/-- A kind by its name, or as the only member of an object, with nothing in it. -/
def kindOfJson? : Json → Option PageKind
  | .string w => (written? w).bind kindOfName?
  | .object [(w, .null)] => (written? w).bind kindOfName?
  | _ => none

/-- A number without sign, fraction and exponent, that fits in 64 bits. -/
def countOfJson? : Json → Option UInt64
  | .number w => if w.all Char.isDigit then Text.readCount w else none
  | _ => none

def flagOfJson? : Json → Option Bool
  | .bool b => some b
  | _ => none

structure Draft where
  kind : Option PageKind := none
  maxPages : Option UInt64 := none
  verbose : Option Bool := none
  stats : Option Bool := none

def fill {α : Type} (seen value : Option α) : Option α := if seen.isSome then none else value

def Draft.add (d : Draft) (key : String) (value : Json) : Option Draft :=
  if key = kindKey then (fill d.kind (kindOfJson? value)).map fun k => { d with kind := some k }
  else if key = maxPagesKey then
    (fill d.maxPages (countOfJson? value)).map fun n => { d with maxPages := some n }
  else if key = verboseKey then
    (fill d.verbose (flagOfJson? value)).map fun b => { d with verbose := some b }
  else if key = statsKey then
    (fill d.stats (flagOfJson? value)).map fun b => { d with stats := some b }
  else some d

def Draft.addAll (d : Draft) : List (List Char × Json) → Option Draft
  | [] => some d
  | (w, value) :: ms => do
    let key ← written? w
    let d ← d.add key value
    d.addAll ms

def Draft.finish (d : Draft) : Option Config := do
  some ⟨← d.kind, ← d.maxPages, ← d.verbose, ← d.stats⟩

def ofJson? : Json → Option Config
  | .object ms => do
    let d ← Draft.addAll {} ms
    d.finish
  | .array [k, n, v, s] => do
    some ⟨← kindOfJson? k, ← countOfJson? n, ← flagOfJson? v, ← flagOfJson? s⟩
  | _ => none

def render (c : Config) : List Char := c.toJson.compact

def read? (cs : List Char) : Option Config := (Json.read cs).bind ofJson?

end PagedMemory.Config
