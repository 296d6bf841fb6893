import PagedMemory.Proofs.Call
import PagedMemory.Proofs.Session.Ledger

/-! Sweeps of a call site: a fill stores what the ledger says it wrote, up to the element
where it stopped, and a scan answers what the cells hold. -/

set_option autoImplicit false

namespace PagedMemory.CallSite

variable {m : Memory} {s : SpaceId}

theorem contents_of_leaves {a : Address} {v : Int32} {m' : Memory}
    (h : @Leaves .getElement s a m m' (.ok v)) :
    v = m.contents (Address.cell s a) ∧ m'.storage = m.storage := by
  obtain ⟨p, hp, hv, hs⟩ := h
  refine ⟨?_, hs⟩
  rw [Memory.contents_of_page (c := Address.cell s a) hp]
  exact hv

def filled (s : SpaceId) (stride : UInt32) (increment : Int32) (n i : Nat) (a : Address)
    (v : Int32) : Except (Nat × MemoryError) Unit → List (Cell × Int32)
  | .ok () => Ledger.fillWrites s stride increment n a v
  | .error (place, _) => Ledger.fillWrites s stride increment (place - i) a v

theorem fill_spec (s : SpaceId) (stride : UInt32) (increment : Int32) (n i : Nat) (a : Address)
    (v : Int32) (site : CallSite .setElement) (hm : m.Sound) (hb : site.Bound m.Past) :
    Follows s m site (site.fill s stride increment n i a v m).2.1 ∧
      Memory.Evolves m
        (filled s stride increment n i a v (site.fill s stride increment n i a v m).1)
        (site.fill s stride increment n i a v m).2.2 ∧
      ∀ place e, (site.fill s stride increment n i a v m).1 = .error (place, e) → i ≤ place := by
  induction n generalizing i a v site m with
  | zero => exact ⟨.refl s m site, .refl, fun _ _ h => by contradiction⟩
  | succ n ih =>
    have hcall := call_spec s (a, v) hm hb
    unfold fill
    generalize site.call m s (a, v) = r at hcall
    obtain ⟨answer, site₁, m₁⟩ := r
    obtain ⟨hf, hl⟩ := hcall
    cases answer with
    | error e =>
      have he : Memory.Evolves m [] m₁ := hl.evolves
      refine ⟨hf, ?_, ?_⟩
      · simpa [filled, Ledger.fillWrites] using he
      · intro place e' h
        cases h
        exact Nat.le_refl i
    | ok u =>
      have he : Memory.Evolves m [(Address.cell s a, v)] m₁ := hl.evolves
      obtain ⟨hf₂, he₂, hplace⟩ := ih (i + 1) (a + stride) (v + increment) site₁
        (he.sound hm) (hf.past hm hb he)
      have hall := he.trans he₂
      dsimp only
      generalize fill s stride increment n (i + 1) (a + stride) (v + increment) site₁ m₁ = r
        at hf₂ hall hplace
      obtain ⟨answer₂, site₂, m₂⟩ := r
      refine ⟨hf.trans hl.sameTables hf₂, ?_, ?_⟩
      · cases answer₂ with
        | ok u => exact hall
        | error e =>
          obtain ⟨place, e⟩ := e
          have hle := hplace place e rfl
          have hsucc : place - i = (place - (i + 1)) + 1 := by omega
          simpa [filled, hsucc, Ledger.fillWrites] using hall
      · intro place e h
        have hle := hplace place e h
        omega

theorem scan_spec (s : SpaceId) (stride : UInt32) (n i : Nat) (a : Address)
    (site : CallSite .getElement) (hm : m.Sound) (hb : site.Bound m.Past) :
    Follows s m site (site.scan s stride n i a m).2.1 ∧
      (site.scan s stride n i a m).2.2.storage = m.storage ∧
      ∀ vs, (site.scan s stride n i a m).1 = .ok vs → ∀ l : Ledger,
        (∀ c, m.contents c = l.value c) → vs = l.scanned s stride n a := by
  induction n generalizing i a site m with
  | zero =>
    refine ⟨.refl s m site, rfl, ?_⟩
    intro vs h l _
    cases h
    rfl
  | succ n ih =>
    have hcall := call_spec s a hm hb
    unfold scan
    generalize site.call m s a = r at hcall
    obtain ⟨answer, site₁, m₁⟩ := r
    obtain ⟨hf, hl⟩ := hcall
    cases answer with
    | error e => exact ⟨hf, hl, fun _ h => by contradiction⟩
    | ok v =>
      obtain ⟨hv, hs⟩ := contents_of_leaves hl
      have htables := Memory.sameTables_of_storage_eq hs
      have hb₁ : site₁.Bound m₁.Past := hf.past hm hb (Memory.evolves_of_storage_eq hs)
      obtain ⟨hf₂, hs₂, hvs⟩ := ih (i + 1) (a + stride) site₁ (hm.of_sameTables htables) hb₁
      dsimp only
      generalize scan s stride n (i + 1) (a + stride) site₁ m₁ = r at hf₂ hs₂ hvs
      obtain ⟨answer₂, site₂, m₂⟩ := r
      cases answer₂ with
      | error e => exact ⟨hf.trans htables hf₂, hs₂.trans hs, fun _ h => by contradiction⟩
      | ok vs =>
        refine ⟨hf.trans htables hf₂, hs₂.trans hs, ?_⟩
        intro ws h l hc
        cases h
        have hrest := hvs vs rfl l fun c => (Memory.contents_of_storage_eq hs c).trans (hc c)
        simp only [Ledger.scanned]
        rw [← hrest, hv, hc]

end PagedMemory.CallSite
