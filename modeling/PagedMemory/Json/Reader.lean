import PagedMemory.Json

/-! A strict reader of JSON. It accepts the grammar and nothing else: no comments, no
trailing commas, no leading zeros, and nothing but blanks around the value. Spellings are
kept, so that the size of a number or a lone surrogate is left to whoever asks for it. -/

set_option autoImplicit false

namespace PagedMemory.Json

def isBlank (c : Char) : Bool := c = ' ' || c = '\t' || c = '\n' || c = '\r'

def skip (cs : List Char) : List Char := cs.dropWhile isBlank

def isHex (c : Char) : Bool := (Text.hexValue? c).isSome

def readQuoted : List Char → Option (List Char × List Char)
  | [] => none
  | '"' :: cs => some ([], cs)
  | '\\' :: 'u' :: a :: b :: c :: d :: cs =>
    if isHex a ∧ isHex b ∧ isHex c ∧ isHex d then
      (readQuoted cs).map fun (w, rest) => ('\\' :: 'u' :: a :: b :: c :: d :: w, rest)
    else none
  | '\\' :: e :: cs =>
    if (Text.shortEscape? e).isSome then
      (readQuoted cs).map fun (w, rest) => ('\\' :: e :: w, rest)
    else none
  | c :: cs =>
    if c = '\\' ∨ c.toNat < 0x20 then none
    else (readQuoted cs).map fun (w, rest) => (c :: w, rest)

def readDigits (cs : List Char) : Option (List Char × List Char) :=
  match cs.takeWhile Char.isDigit with
  | [] => none
  | ds => some (ds, cs.dropWhile Char.isDigit)

/-- A zero on its own, or digits that do not begin with one. -/
def readWhole : List Char → Option (List Char × List Char)
  | '0' :: cs => some (['0'], cs)
  | cs => readDigits cs

def readFraction : List Char → Option (List Char × List Char)
  | '.' :: cs => (readDigits cs).map fun (ds, rest) => ('.' :: ds, rest)
  | cs => some ([], cs)

def readExponent : List Char → Option (List Char × List Char)
  | [] => some ([], [])
  | e :: cs =>
    if e = 'e' ∨ e = 'E' then
      match cs with
      | '+' :: cs => (readDigits cs).map fun (ds, rest) => (e :: '+' :: ds, rest)
      | '-' :: cs => (readDigits cs).map fun (ds, rest) => (e :: '-' :: ds, rest)
      | _ => (readDigits cs).map fun (ds, rest) => (e :: ds, rest)
    else some ([], e :: cs)

def readUnsigned (cs : List Char) : Option (List Char × List Char) := do
  let (whole, cs) ← readWhole cs
  let (fraction, cs) ← readFraction cs
  let (exponent, cs) ← readExponent cs
  some (whole ++ fraction ++ exponent, cs)

def readNumber : List Char → Option (List Char × List Char)
  | '-' :: cs => (readUnsigned cs).map fun (w, rest) => ('-' :: w, rest)
  | cs => readUnsigned cs

def readName (cs : List Char) : Option (List Char × List Char) :=
  match skip cs with
  | '"' :: cs => do
    let (name, cs) ← readQuoted cs
    let ':' :: cs := skip cs | none
    some (name, cs)
  | _ => none

mutual
/-- Each level of nesting and each further item takes one unit of fuel; a text has no more
of them than characters. -/
def readValueFuel : Nat → List Char → Option (Json × List Char)
  | 0, _ => none
  | fuel + 1, cs =>
    match skip cs with
    | 'n' :: 'u' :: 'l' :: 'l' :: cs => some (.null, cs)
    | 't' :: 'r' :: 'u' :: 'e' :: cs => some (.bool true, cs)
    | 'f' :: 'a' :: 'l' :: 's' :: 'e' :: cs => some (.bool false, cs)
    | '"' :: cs => (readQuoted cs).map fun (w, rest) => (.string w, rest)
    | '[' :: cs =>
      match skip cs with
      | ']' :: cs => some (.array [], cs)
      | cs => do
        let (x, cs) ← readValueFuel fuel cs
        let (xs, cs) ← readItemsFuel fuel cs
        some (.array (x :: xs), cs)
    | '{' :: cs =>
      match skip cs with
      | '}' :: cs => some (.object [], cs)
      | cs => do
        let (k, cs) ← readName cs
        let (v, cs) ← readValueFuel fuel cs
        let (ms, cs) ← readMembersFuel fuel cs
        some (.object ((k, v) :: ms), cs)
    | cs => (readNumber cs).map fun (w, rest) => (.number w, rest)

def readItemsFuel : Nat → List Char → Option (List Json × List Char)
  | 0, _ => none
  | fuel + 1, cs =>
    match skip cs with
    | ']' :: cs => some ([], cs)
    | ',' :: cs => do
      let (x, cs) ← readValueFuel fuel cs
      let (xs, cs) ← readItemsFuel fuel cs
      some (x :: xs, cs)
    | _ => none

def readMembersFuel : Nat → List Char → Option (List (List Char × Json) × List Char)
  | 0, _ => none
  | fuel + 1, cs =>
    match skip cs with
    | '}' :: cs => some ([], cs)
    | ',' :: cs => do
      let (k, cs) ← readName cs
      let (v, cs) ← readValueFuel fuel cs
      let (ms, cs) ← readMembersFuel fuel cs
      some ((k, v) :: ms, cs)
    | _ => none
end

def read (cs : List Char) : Option Json := do
  let (j, rest) ← readValueFuel (cs.length + 1) cs
  if skip rest = [] then some j else none

end PagedMemory.Json
