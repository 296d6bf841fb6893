import PagedMemory.Text.Number

/-! The written form of text inside JSON quotation marks, and the text that a written
form stands for. Only the mark, the backslash and the characters below the blank are
escaped. -/

set_option autoImplicit false

namespace PagedMemory.Text

def escapeChar (c : Char) : List Char :=
  if c = '"' then ['\\', '"']
  else if c = '\\' then ['\\', '\\']
  else if c = '\n' then ['\\', 'n']
  else if c = '\r' then ['\\', 'r']
  else if c = '\t' then ['\\', 't']
  else if c = '\x08' then ['\\', 'b']
  else if c = '\x0c' then ['\\', 'f']
  else if c.toNat < 0x20 then ['\\', 'u', '0', '0', hexDigit (c.toNat / 16), hexDigit c.toNat]
  else [c]

def escape : List Char → List Char
  | [] => []
  | c :: cs => escapeChar c ++ escape cs

@[simp] theorem escape_append (a b : List Char) : escape (a ++ b) = escape a ++ escape b := by
  induction a with
  | nil => rfl
  | cons c cs ih => simp [escape, ih]

def hexValue? (c : Char) : Option Nat :=
  if '0' ≤ c ∧ c ≤ '9' then some (c.toNat - 48)
  else if 'a' ≤ c ∧ c ≤ 'f' then some (c.toNat - 87)
  else if 'A' ≤ c ∧ c ≤ 'F' then some (c.toNat - 55)
  else none

def codeUnit? (a b c d : Char) : Option Nat := do
  let a ← hexValue? a
  let b ← hexValue? b
  let c ← hexValue? c
  let d ← hexValue? d
  some (a * 4096 + b * 256 + c * 16 + d)

def shortEscape? (c : Char) : Option Char :=
  if c = '"' ∨ c = '\\' ∨ c = '/' then some c
  else if c = 'n' then some '\n'
  else if c = 'r' then some '\r'
  else if c = 't' then some '\t'
  else if c = 'b' then some '\x08'
  else if c = 'f' then some '\x0c'
  else none

/-- A unit outside the surrogates is a character of its own; a high surrogate needs a low
one after it. The high surrogate waits in `pending`. -/
def unescapeUnit (pending : Option Nat) (u : Nat) : Option (Option Nat × List Char) :=
  match pending with
  | none =>
    if 0xd800 ≤ u ∧ u < 0xdc00 then some (some u, [])
    else if 0xdc00 ≤ u ∧ u < 0xe000 then none
    else some (none, [Char.ofNat u])
  | some h =>
    if 0xdc00 ≤ u ∧ u < 0xe000 then
      some (none, [Char.ofNat (0x10000 + (h - 0xd800) * 0x400 + (u - 0xdc00))])
    else none

/-- The text of a written form; `none` for a surrogate that stands alone. -/
def unescapeFrom (pending : Option Nat) : List Char → Option (List Char)
  | [] => if pending.isNone then some [] else none
  | '\\' :: 'u' :: a :: b :: c :: d :: cs => do
    let u ← codeUnit? a b c d
    let (pending, out) ← unescapeUnit pending u
    let rest ← unescapeFrom pending cs
    some (out ++ rest)
  | '\\' :: e :: cs =>
    if pending.isSome then none
    else do
      let c ← shortEscape? e
      let rest ← unescapeFrom none cs
      some (c :: rest)
  | c :: cs =>
    if pending.isSome ∨ c = '\\' ∨ c = '"' ∨ c.toNat < 0x20 then none
    else (unescapeFrom none cs).map (c :: ·)

def unescape? (cs : List Char) : Option (List Char) := unescapeFrom none cs

end PagedMemory.Text
