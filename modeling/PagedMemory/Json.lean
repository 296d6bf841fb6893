import PagedMemory.Text.Quoted

/-! JSON values as they are written: numbers and strings keep their spelling, and objects
keep the order and the repetitions of their members. Two printers: compact, and indented
by two blanks a level. -/

set_option autoImplicit false

namespace PagedMemory

inductive Json where
  | null
  | bool (b : Bool)
  | number (written : List Char)
  | string (written : List Char)
  | array (items : List Json)
  | object (members : List (List Char × Json))

namespace Json

def ofNat (n : Nat) : Json := .number (Text.decimal n)
def ofInt (n : Int) : Json := .number (Text.signedDecimal n)
def ofString (s : String) : Json := .string (Text.escape s.toList)

def member (name : String) (value : Json) : List Char × Json := (name.toList, value)

mutual
def compact : Json → List Char
  | .null => ['n','u','l','l']
  | .bool true => ['t','r','u','e']
  | .bool false => ['f','a','l','s','e']
  | .number w => w
  | .string w => '"' :: w ++ ['"']
  | .array [] => ['[',']']
  | .array (x :: xs) => '[' :: compact x ++ compactItems xs
  | .object [] => ['{','}']
  | .object ((k, v) :: ms) => '{' :: '"' :: k ++ '"' :: ':' :: compact v ++ compactMembers ms

def compactItems : List Json → List Char
  | [] => [']']
  | x :: xs => ',' :: compact x ++ compactItems xs

def compactMembers : List (List Char × Json) → List Char
  | [] => ['}']
  | (k, v) :: ms => ',' :: '"' :: k ++ '"' :: ':' :: compact v ++ compactMembers ms
end

def newline (depth : Nat) : List Char := '\n' :: List.replicate (2 * depth) ' '

mutual
def indented (depth : Nat) : Json → List Char
  | .null => ['n','u','l','l']
  | .bool true => ['t','r','u','e']
  | .bool false => ['f','a','l','s','e']
  | .number w => w
  | .string w => '"' :: w ++ ['"']
  | .array [] => ['[',']']
  | .array (x :: xs) =>
    '[' :: newline (depth + 1) ++ indented (depth + 1) x ++ indentedItems depth xs
  | .object [] => ['{','}']
  | .object ((k, v) :: ms) =>
    '{' :: newline (depth + 1) ++ '"' :: k ++ '"' :: ':' :: ' ' :: indented (depth + 1) v
      ++ indentedMembers depth ms

def indentedItems (depth : Nat) : List Json → List Char
  | [] => newline depth ++ [']']
  | x :: xs => ',' :: newline (depth + 1) ++ indented (depth + 1) x ++ indentedItems depth xs

def indentedMembers (depth : Nat) : List (List Char × Json) → List Char
  | [] => newline depth ++ ['}']
  | (k, v) :: ms =>
    ',' :: newline (depth + 1) ++ '"' :: k ++ '"' :: ':' :: ' ' :: indented (depth + 1) v
      ++ indentedMembers depth ms
end

def text (j : Json) : String := String.ofList j.compact
def pretty (j : Json) : String := String.ofList (indented 0 j)

end Json

end PagedMemory
