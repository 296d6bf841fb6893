/-! Numbers as text: decimal digits of any length, and 32-bit words as eight
hexadecimal digits. -/

set_option autoImplicit false

namespace PagedMemory.Text

def decimal (n : Nat) : List Char := Nat.toDigits 10 n

def signedDecimal : Int → List Char
  | .ofNat n => decimal n
  | .negSucc n => '-' :: decimal (n + 1)

def digit? (c : Char) : Option Nat := if c.isDigit then some (c.toNat - '0'.toNat) else none

def readDigits (seen : Nat) : List Char → Option Nat
  | [] => some seen
  | c :: cs => do
    let d ← digit? c
    readDigits (10 * seen + d) cs

/-- An optional plus sign, then at least one digit and nothing else; the value has to fit
in 64 bits. -/
def readCount (cs : List Char) : Option UInt64 :=
  let digits := match cs with
    | '+' :: rest => rest
    | _ => cs
  if digits.isEmpty then none
  else match readDigits 0 digits with
    | some n => if n < UInt64.size then some (UInt64.ofNat n) else none
    | none => none

def hexDigit (n : Nat) : Char := Nat.digitChar (n % 16)

def hexWord (w : UInt32) : List Char :=
  '0' :: 'x' :: [28, 24, 20, 16, 12, 8, 4, 0].map fun s => hexDigit (w.toNat >>> s)

theorem length_hexWord (w : UInt32) : (hexWord w).length = 10 := rfl

def hex (w : UInt32) : String := String.ofList (hexWord w)

end PagedMemory.Text
