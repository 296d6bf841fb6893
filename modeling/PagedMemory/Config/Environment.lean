import PagedMemory.Config
import PagedMemory.Text.Number

/-! Environment variables, and configuration from them. A variable that is absent, or whose value is
no text, leaves its field alone; so does a kind or a page count that cannot be read. A flag
is on for `1` and `true`, and off for every other text. -/

set_option autoImplicit false

namespace PagedMemory

/-- Values of variables by name. A value is any bytes, which need not be text. -/
abbrev Variables := String → Option ByteArray

def Variables.text? (v : Variables) (name : String) : Option String :=
  (v name).bind String.fromUTF8?

structure Environment where
  pageKind : Option String := none
  maxPages : Option String := none
  verbose : Option String := none
  stats : Option String := none
  deriving DecidableEq, Repr

namespace Environment

def pageKindVariable : String := "VMEM_PAGE_KIND"
def maxPagesVariable : String := "VMEM_MAX_PAGES"
def verboseVariable : String := "VMEM_VERBOSE"
def statsVariable : String := "VMEM_STATS"

def ofVariables (v : Variables) : Environment :=
  ⟨v.text? pageKindVariable, v.text? maxPagesVariable, v.text? verboseVariable,
    v.text? statsVariable⟩

def readKind? (s : String) : Option PageKind := (PageKind.parse s).toOption
def readFlag (s : String) : Bool := s = "1" || s.toLower = "true"

def config (env : Environment) : Config :=
  let plain : Config := {}
  { defaultKind := (env.pageKind.bind readKind?).getD plain.defaultKind
    maxPages := (env.maxPages.bind fun s => Text.readCount s.toList).getD plain.maxPages
    verbose := (env.verbose.map readFlag).getD plain.verbose
    statsEnabled := (env.stats.map readFlag).getD plain.statsEnabled }

end Environment

end PagedMemory
