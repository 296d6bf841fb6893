import PagedMemory.Address
import PagedMemory.PageKind

/-! What may be chosen about an address space: the kind of its new pages, how many it may
hold, and how much it reports. -/

set_option autoImplicit false

namespace PagedMemory

structure Config where
  defaultKind : PageKind := .heap
  maxPages : UInt64 := 1048576
  /-- Emit events, and a line for each new page. -/
  verbose : Bool := false
  statsEnabled : Bool := true
  deriving DecidableEq, Repr, Inhabited

inductive ConfigError where
  | invalidMaxPages (reason : String)
  deriving DecidableEq, Repr

def ConfigError.message : ConfigError → String
  | .invalidMaxPages reason => s!"Invalid max pages: {reason}"

namespace Config

def Valid (c : Config) : Prop := 0 < c.maxPages.toNat ∧ c.maxPages.toNat ≤ PagedMemory.maxPages

instance (c : Config) : Decidable c.Valid := inferInstanceAs (Decidable (_ ∧ _))

def validate (c : Config) : Except ConfigError Unit :=
  if c.maxPages = 0 then .error (.invalidMaxPages "max_pages must be > 0")
  else if PagedMemory.maxPages < c.maxPages.toNat then
    .error (.invalidMaxPages s!"max_pages must be <= {PagedMemory.maxPages} (32-bit addresses with 4KB pages)")
  else .ok ()

theorem validate_eq_ok_iff (c : Config) : c.validate = .ok () ↔ c.Valid := by
  unfold validate Valid
  by_cases h0 : c.maxPages = 0
  · simp [h0]
  · have : 0 < c.maxPages.toNat := by
      rcases Nat.eq_zero_or_pos c.maxPages.toNat with h | h
      · exact absurd (UInt64.toNat_inj.mp (by simpa using h)) h0
      · exact h
    by_cases h1 : PagedMemory.maxPages < c.maxPages.toNat
    · simp [h0, h1]
    · simp [h0, h1, this]; omega

/-- One past the last address that the pages can hold; the low 64 bits of it. -/
def addressLimit (c : Config) : UInt64 := c.maxPages <<< 12

end Config

end PagedMemory
