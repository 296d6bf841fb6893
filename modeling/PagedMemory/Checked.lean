/-! Products of 64-bit words that have to fit in one. -/

set_option autoImplicit false

namespace PagedMemory

def checkedMul (a b : UInt64) : Option UInt64 :=
  if a.toNat * b.toNat < UInt64.size then some (a * b) else none

variable {a b c : UInt64}

theorem checkedMul_eq_none_iff : checkedMul a b = none ↔ UInt64.size ≤ a.toNat * b.toNat := by
  unfold checkedMul
  split <;> simp <;> omega

theorem toNat_of_checkedMul (h : checkedMul a b = some c) : c.toNat = a.toNat * b.toNat := by
  unfold checkedMul at h
  split at h
  · rename_i hlt
    cases h
    rw [UInt64.toNat_mul, Nat.mod_eq_of_lt hlt]
  · contradiction

end PagedMemory
