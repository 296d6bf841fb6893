import PagedMemory.Event
import PagedMemory.Text.Split

/-! A log of events: it admits those up to a level while it is switched on, writes them out
if asked to, and keeps the latest of them. -/

set_option autoImplicit false

namespace PagedMemory

structure EventLog.Options where
  level : Level := .info
  console : Bool := true
  json : Bool := false
  timestamps : Bool := true
  record : Bool := true
  maxEvents : Nat := 4096
  deriving DecidableEq, Repr

structure EventLog where
  options : EventLog.Options := {}
  enabled : Bool := true
  /-- What is kept, oldest first. -/
  events : Array Event := #[]
  deriving Repr

namespace EventLog

def ofOptions (o : Options) : EventLog := { options := o }

def enable (l : EventLog) : EventLog := { l with enabled := true }
def disable (l : EventLog) : EventLog := { l with enabled := false }
def clear (l : EventLog) : EventLog := { l with events := #[] }
def count (l : EventLog) : Nat := l.events.size

def admits (l : EventLog) (e : Event) : Bool := l.enabled && e.level.passes l.options.level

def keep (l : EventLog) (e : Event) : EventLog :=
  let events :=
    if l.options.maxEvents ≤ l.events.size then l.events.extract 1 l.events.size else l.events
  { l with events := events.push e }

def text (o : Options) (time : String) (e : Event) : String :=
  let stamp := if o.timestamps then s!"[{time}] " else ""
  let body := if o.json then String.ofList e.wire else e.human
  stamp ++ body

/-- A name or a reason with line breaks in it makes several lines. -/
def lines (o : Options) (time : String) (e : Event) : List String :=
  (Text.lines (text o time e).toList).map String.ofList

def log (l : EventLog) (e : Event) : EventLog × Option Event :=
  if l.admits e then
    (if l.options.record ∧ 0 < l.options.maxEvents then l.keep e else l,
      if l.options.console then some e else none)
  else (l, none)

def logAll (l : EventLog) (es : List Event) : EventLog := es.foldl (fun l e => (l.log e).1) l

inductive Action where
  | log (e : Event)
  | enable | disable | clear
  deriving DecidableEq, Repr

def act (l : EventLog) : Action → EventLog × Option Event
  | .log e => l.log e
  | .enable => (l.enable, none)
  | .disable => (l.disable, none)
  | .clear => (l.clear, none)

end EventLog

end PagedMemory
