import Std.Time.Format
import PagedMemory.CommandLine

/-! The program: it looks up what the command line tool needs to know, runs it, and writes
what it answers. -/

set_option autoImplicit false

namespace PagedMemory.CommandLine

def variableNames : List String :=
  [Environment.pageKindVariable, Environment.maxPagesVariable, Environment.verboseVariable,
    Environment.statsVariable, Arguments.verboseVariable, Arguments.noColorVariable]

def Line.paint : Line → String
  | .report level t =>
    let color := match level with
      | .error => "31"
      | .warn => "33"
      | .info => "32"
      | .debug => "34"
      | .trace => "35"
    s!"\x1b[{color}m{level.name}\x1b[0m {t}"
  | l => l.text

def lookUp : IO Variables := do
  let found ← variableNames.filterMapM fun name => do
    return (← IO.getEnv name).map fun value => (name, value.toUTF8)
  return fun name => found.lookup name

def milliseconds (micros : Nat) : String :=
  let rest := toString (micros % 1000)
  let zeros := String.ofList (List.replicate (3 - rest.length) '0')
  s!"{micros / 1000}.{zeros}{rest}"

def write (t : Transcript) : IO UInt32 := do
  for l in t.errors do
    IO.eprintln (if t.colored then l.paint else l.text)
  for l in t.output do
    IO.println l
  return t.code

/-- What a page of the system is taken to be. -/
def usualPageSize : String := "4096"

def start (words : List String) : IO UInt32 := do
  let now ← Std.Time.PlainDateTime.now
  let s : Surroundings := {
    environment := ← lookUp
    systemPageSize := usualPageSize
    freshSeed := UInt64.ofNat (← IO.rand 0 (UInt64.size - 1))
    time := now.format "uuuu-MM-dd HH:mm:ss.SSS" }
  match plan s words with
  | .answer t => write t
  | .perform a c =>
    let before ← IO.monoNanosNow
    let result ← IO.lazyPure fun _ => perform s a c
    let after ← IO.monoNanosNow
    write (conclude s (milliseconds ((after - before) / 1000)) a result)

end PagedMemory.CommandLine

def main (words : List String) : IO UInt32 := PagedMemory.CommandLine.start words
