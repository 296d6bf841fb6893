import PagedMemory.Config.Json

/-! A report of the address layout and of a configuration, for people and for programs. -/

set_option autoImplicit false

namespace PagedMemory

def version : String := "0.1.0"

structure LayoutReport where
  config : Config
  /-- The page size of the system that the program runs on, as text. -/
  systemPageSize : String
  deriving DecidableEq, Repr

namespace LayoutReport

def rows (r : LayoutReport) : List (String × String) := [
  ("version", version),
  ("index bits", s!"{indexBits}"),
  ("page size", s!"{pageSize} bytes"),
  ("element size", s!"{elementSize} bytes"),
  ("elements per page", s!"{elementsPerPage}"),
  ("address pages", s!"{maxPages}"),
  ("os page size", s!"{r.systemPageSize} bytes"),
  ("default page kind", r.config.defaultKind.name),
  ("max pages", s!"{r.config.maxPages.toNat}"),
  ("stats", s!"{r.config.statsEnabled}")]

def padded (width : Nat) (s : String) : String :=
  s ++ String.ofList (List.replicate (width - s.length) ' ')

def lines (r : LayoutReport) : List String :=
  r.rows.map fun (name, value) => padded 18 (name ++ ":") ++ " " ++ value

def toJson (r : LayoutReport) : Json := .object [
  Json.member "version" (.ofString version),
  Json.member "index_bits" (.ofNat indexBits),
  Json.member "page_size" (.ofNat pageSize),
  Json.member "element_size" (.ofNat elementSize),
  Json.member "elements_per_page" (.ofNat elementsPerPage),
  Json.member "max_pages" (.ofNat maxPages),
  Json.member "os_page_size" (.number r.systemPageSize.toList),
  Json.member "config" r.config.toJson]

end LayoutReport

end PagedMemory
