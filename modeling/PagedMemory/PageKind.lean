/-! The two representations that a page may have. -/

set_option autoImplicit false

namespace PagedMemory

inductive PageKind where
  | heap
  | direct
  deriving DecidableEq, Repr, Inhabited

namespace PageKind

def all : List PageKind := [.heap, .direct]

def tag : PageKind → Nat
  | .heap => 0
  | .direct => 1

def name : PageKind → String
  | .heap => "heap"
  | .direct => "direct"

def other : PageKind → PageKind
  | .heap => .direct
  | .direct => .heap

@[simp] theorem other_other (k : PageKind) : k.other.other = k := by cases k <;> rfl

theorem other_ne (k : PageKind) : k.other ≠ k := by cases k <;> decide

structure Unknown where
  spelling : String
  deriving DecidableEq, Repr

def Unknown.message (u : Unknown) : String := s!"unknown page kind '{u.spelling}'"

/-- Each kind has two spellings, in any ASCII case. -/
def parse (s : String) : Except Unknown PageKind :=
  let spelling := s.toLower
  if spelling = "heap" ∨ spelling = "bytes" then .ok .heap
  else if spelling = "direct" ∨ spelling = "mapped" then .ok .direct
  else .error ⟨spelling⟩

end PageKind

end PagedMemory
