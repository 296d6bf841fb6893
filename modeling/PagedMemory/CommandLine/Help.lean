import PagedMemory.CommandLine.Arguments

/-! The names of the commands, and what may be said to them. -/

set_option autoImplicit false

namespace PagedMemory.CommandLine

def programName : String := "vmemt"

def Place.programName : Place → String
  | .top => CommandLine.programName
  | .info => s!"{CommandLine.programName}-info"
  | .memtest => s!"{CommandLine.programName}-memtest"
  | .matmul => s!"{CommandLine.programName}-matmul"

def Setting.usage (s : Setting) : String :=
  let letter := (s.letter?.map fun c => s!"-{c}, ").getD ""
  let value := if s.takesValue then s!" <{s.name}>" else ""
  s!"  {letter}--{s.name}{value}"

def Place.help (p : Place) : List String :=
  let command := if p = .top then " <info|memtest|matmul>" else ""
  s!"Usage: {p.programName} [options]{command}" :: p.settings.map Setting.usage

end PagedMemory.CommandLine
