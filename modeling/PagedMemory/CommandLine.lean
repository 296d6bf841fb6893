import PagedMemory.CommandLine.Help
import PagedMemory.CommandLine.Report
import PagedMemory.CommandLine.Transcript
import PagedMemory.Keystream

/-! The command line tool: what it does for its words, and what it writes meanwhile. Time,
the page size of the system and fresh seeds come from outside. -/

set_option autoImplicit false

namespace PagedMemory.CommandLine

structure Surroundings where
  environment : Variables
  systemPageSize : String
  /-- The seed of tests that are given none. -/
  freshSeed : UInt64
  time : String

def configOf (v : Variables) (a : Arguments) : Config :=
  let config := (Environment.ofVariables v).config
  { config with
    defaultKind := a.pageKind.getD config.defaultKind
    maxPages := a.maxPages.getD config.maxPages
    verbose := config.verbose || a.verbose }

inductive Plan where
  | answer (t : Transcript)
  | perform (a : Arguments) (c : Config)

def Stop.transcript : Stop → Transcript
  | .misuse => { code := 2, errors := (Place.help .top).map .failure }
  | .help p => { output := p.help }
  | .version p => { output := [s!"{p.programName} {PagedMemory.version}"] }

def plan (s : Surroundings) (words : List String) : Plan :=
  match Arguments.read s.environment words with
  | .error stop => .answer stop.transcript
  | .ok a =>
    let config := configOf s.environment a
    match config.validate with
    | .ok () => .perform a config
    | .error e =>
      .answer { code := 1
                errors := failureLines "invalid configuration" (MemoryError.configuration e).chain }

/-- Reports count spaces from one. -/
def startMemory : Memory := { origin := 1 }

def perform (s : Surroundings) (a : Arguments) (c : Config) : Except ToolError Report × Memory :=
  match a.command with
  | .info => (.ok (.layout ⟨c, s.systemPageSize⟩), startMemory)
  | .memtest count seed =>
    let seed := seed.getD s.freshSeed
    let (answer, m) := MemoryTest.runWith (Keystream.ints seed) startMemory c count seed
    (answer.map .memtest, m)
  | .matmul size iterations seed print mixed =>
    let seed := seed.getD s.freshSeed
    let (answer, m) := MatrixTest.runWith (Keystream.ints seed) startMemory
      { config := c, size := size, iterations := iterations, seed := seed, print := print,
        mixed := mixed }
    (answer.map .matmul, m)

def conclude (s : Surroundings) (elapsed : String) (a : Arguments)
    (result : Except ToolError Report × Memory) : Transcript :=
  let noted := result.2.journal.toList.flatMap (noticeLines a.verbose s.time elapsed)
  let colored := !a.noColor && noted.any Line.isReport
  match result.1 with
  | .ok r => { output := r.output a.json elapsed, errors := noted, colored := colored }
  | .error e =>
    { code := 1
      errors := noted ++ failureLines "command failed" e.chain
      colored := colored }

def run (s : Surroundings) (elapsed : String) (words : List String) : Transcript :=
  match plan s words with
  | .answer t => t
  | .perform a c => conclude s elapsed a (perform s a c)

end PagedMemory.CommandLine
