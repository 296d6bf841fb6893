import PagedMemory.Text.Split

/-! Operation names: a verb, then namespaces separated by bars, then a target, with
colons between the three parts (`GET:ELEMENT|PROPERTY:memory`). Unknown namespaces are
skipped, but not all of them; the target is everything after the second colon. -/

set_option autoImplicit false

namespace PagedMemory

inductive Verb where
  | get | set | call | new | remove
  deriving DecidableEq, Repr

def Verb.wire : Verb → List Char
  | .get => ['G','E','T']
  | .set => ['S','E','T']
  | .call => ['C','A','L','L']
  | .new => ['N','E','W']
  | .remove => ['R','E','M','O','V','E']

def Verb.all : List Verb := [.get, .set, .call, .new, .remove]

def Verb.read? (cs : List Char) : Option Verb := Verb.all.find? (fun v => v.wire == cs)

@[simp] theorem Verb.read?_wire (v : Verb) : Verb.read? v.wire = some v := by cases v <;> decide

inductive Namespace where
  | property | element | method
  deriving DecidableEq, Repr

def Namespace.wire : Namespace → List Char
  | .property => ['P','R','O','P','E','R','T','Y']
  | .element => ['E','L','E','M','E','N','T']
  | .method => ['M','E','T','H','O','D']

def Namespace.all : List Namespace := [.property, .element, .method]

def Namespace.read? (cs : List Char) : Option Namespace :=
  Namespace.all.find? (fun n => n.wire == cs)

@[simp] theorem Namespace.read?_wire (n : Namespace) : Namespace.read? n.wire = some n := by
  cases n <;> decide

/-- What an operation asks for. Namespaces keep their order and repetitions. -/
structure Operation where
  verb : Verb
  namespaces : List Namespace
  target : Option String
  deriving DecidableEq, Repr

namespace Operation

inductive ParseError where
  | empty
  | unknownVerb (verb : String)
  | noKnownNamespace (tokens : String)
  deriving DecidableEq, Repr

def ParseError.message : ParseError → String
  | .empty => "empty operation name"
  | .unknownVerb v => s!"unknown verb '{v}'"
  | .noKnownNamespace t => s!"no recognized namespace in '{t}'"

def ofVerb (v : Verb) : Operation := ⟨v, [], none⟩

def withNamespaces (op : Operation) (ns : List Namespace) : Operation :=
  { op with namespaces := op.namespaces ++ ns }

def named (op : Operation) (target : String) : Operation := { op with target := some target }

def hasNamespace (op : Operation) (n : Namespace) : Bool := op.namespaces.contains n

/-- The known namespaces among the pieces of a part; an empty part means none, and a part
with pieces of which none is known is refused. -/
def readNamespaces (part : List Char) : Except ParseError (List Namespace) :=
  if part = [] then .ok []
  else match (Text.pieces '|' part).filterMap Namespace.read? with
    | [] => .error (.noKnownNamespace (String.ofList part))
    | ns => .ok ns

def read (cs : List Char) : Except ParseError Operation :=
  if cs = [] then .error .empty
  else
    let (head, tail) := Text.cut ':' cs
    match Verb.read? head with
    | none => .error (.unknownVerb (String.ofList head))
    | some verb =>
      match tail with
      | none => .ok (ofVerb verb)
      | some tail =>
        let (part, target) := Text.cut ':' tail
        match readNamespaces part with
        | .error e => .error e
        | .ok ns => .ok ⟨verb, ns, target.map String.ofList⟩

def parse (s : String) : Except ParseError Operation := read s.toList

/-- The middle part is written when there are namespaces or a target after it. -/
def wire (op : Operation) : List Char :=
  op.verb.wire
    ++ (if op.namespaces = [] ∧ op.target = none then []
        else ':' :: Text.joined '|' (op.namespaces.map Namespace.wire))
    ++ (match op.target with
        | none => []
        | some t => ':' :: t.toList)

def text (op : Operation) : String := String.ofList op.wire

end Operation

/-- Verbs are also read on their own; there the empty text is an unknown verb. -/
def Verb.parse (s : String) : Except Operation.ParseError Verb :=
  match Verb.read? s.toList with
  | some v => .ok v
  | none => .error (.unknownVerb s)

def Verb.text (v : Verb) : String := String.ofList v.wire
def Namespace.text (n : Namespace) : String := String.ofList n.wire
def Namespace.parse? (s : String) : Option Namespace := Namespace.read? s.toList

end PagedMemory
