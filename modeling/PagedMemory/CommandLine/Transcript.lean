import PagedMemory.EventLog
import PagedMemory.Notice

/-! What a run of the command line tool writes: lines of output, lines on the error stream,
and a code. -/

set_option autoImplicit false

namespace PagedMemory.CommandLine

inductive Line where
  | report (level : Level) (text : String)
  | event (text : String)
  | failure (text : String)
  deriving DecidableEq, Repr

def Line.isReport : Line → Bool
  | .report .. => true
  | _ => false

def Line.text : Line → String
  | .report level t => s!"{level.name} {t}"
  | .event t | .failure t => t

structure Transcript where
  code : UInt32 := 0
  output : List String := []
  errors : List Line := []
  colored : Bool := false
  deriving DecidableEq, Repr

/-- A failure and its causes, which are numbered when there are several. -/
def failureLines (what : String) (causes : List String) : List Line :=
  let written := match causes with
    | [cause] => [s!"    {cause}"]
    | causes => causes.zipIdx.map fun (cause, n) => s!"    {n}: {cause}"
  (s!"Error: {what}" :: "" :: "Caused by:" :: written).map .failure

def noticeLines (verbose : Bool) (time elapsed : String) (n : Notice) : List Line :=
  let limit : Level := if verbose then .debug else .info
  match n with
  | .diagnostic d => if d.level.passes limit then [.report d.level d.text] else []
  | .progress p => if p.level.passes limit then [.report p.level (p.text elapsed)] else []
  | .event e =>
    match (({} : EventLog).log e).2 with
    | some e => (EventLog.lines {} time e).map .event
    | none => []

end PagedMemory.CommandLine
