import PagedMemory.Proofs.Session.Runs

/-! Call sites against the plain path. Whatever a site has cached by the time of a call,
the call answers and stores what a plain access does, and leaves the site linked for the
page that it accessed, or unlinked if there was none. -/

set_option autoImplicit false

namespace PagedMemory

namespace CallSite

variable {sh : Shape} {site : CallSite sh} {m : Memory} {s : SpaceId} {args : sh.Args}

def LinkedAfter (m : Memory) (s : SpaceId) (args : sh.Args) (site : CallSite sh) :
    Except MemoryError sh.Output → Prop
  | .ok _ => ∃ p, (m.table s).page? (sh.page args) = some p ∧
      site.linked = some ⟨s, m.table s, p.kind⟩
  | .error _ => site.linked = none

theorem call_of_mapped (hm : m.Sound) (hb : site.Bound m.Past) (hop : site.operation.Serves sh)
    {p : Page} (hp : (m.table s).page? (sh.page args) = some p) :
    (site.call m s args).1 = (m.plain s sh args).1 ∧
      (site.call m s args).2.2.storage = (m.plain s sh args).2.storage ∧
      LinkedAfter (site.call m s args).2.2 s args (site.call m s args).2.1
        (site.call m s args).1 := by
  obtain ⟨n, m', hcall, hs⟩ := call_of_page hm hb hop hp
  have htable : m'.table s = m.table s := by
    rw [Memory.table_congr hs]
    exact (Memory.sameTables_perform p sh args).table s
  rw [hcall, Memory.plain_of_page hp]
  refine ⟨rfl, hs, p, ?_, ?_⟩
  · rw [htable, hp]
  · rw [htable]

theorem call_of_unmapped (hm : m.Sound) (hb : site.Bound m.Past)
    (hop : site.operation.Serves sh) (hp : (m.table s).page? (sh.page args) = none) :
    (site.call m s args).1 = (m.plain s sh args).1 ∧
      (site.call m s args).2.2.storage = (m.plain s sh args).2.storage ∧
      LinkedAfter (site.call m s args).2.2 s args (site.call m s args).2.1
        (site.call m s args).1 := by
  obtain ⟨n, m', hcall, hs⟩ := call_of_none hm hb hop hp
  rw [hcall, Memory.plain_of_none hp]
  exact ⟨rfl, hs, rfl⟩

end CallSite

namespace Session

/-- A call through any site of a session, for any space, is a plain access. -/
theorem call_eq_plain {x : Session} (hx : x.Reachable) {i : Nat} {sh : Shape}
    {site : CallSite sh} (hk : x.sites[i]? = some ⟨sh, site⟩) {op : Operation}
    (hname : Operation.parse site.name = .ok op) (hop : op.Serves sh) (s : SpaceId)
    (args : sh.Args) :
    (site.call x.memory s args).1 = (x.memory.plain s sh args).1 ∧
      (site.call x.memory s args).2.2.storage = (x.memory.plain s sh args).2.storage ∧
      CallSite.LinkedAfter (site.call x.memory s args).2.2 s args
        (site.call x.memory s args).2.1 (site.call x.memory s args).1 := by
  obtain ⟨l, hf⟩ := hx.fits
  have hmem := Array.mem_of_getElem? hk
  have hb : site.Bound x.memory.Past := hf.past.sites _ hmem
  have hserves : site.operation.Serves sh := by
    have hparse := hf.past.named _ hmem
    rw [hname] at hparse
    exact Except.ok.inj hparse ▸ hop
  cases hp : (x.memory.table s).page? (sh.page args) with
  | some p => exact CallSite.call_of_mapped hf.sound hb hserves hp
  | none => exact CallSite.call_of_unmapped hf.sound hb hserves hp

/-- A getter that was linked for a heap page of a table since superseded reads a direct
page of the current one. -/
theorem call_eq_plain_superseded :
    let sts : List Step := [.openDefault, .allocate 0 (some .heap),
      .newSite .getElement "GET:ELEMENT:memory", .call 0 0 [.address 0],
      .allocate 0 (some .direct), .write 0 4096 9]
    let x := ((start 1 {}).run sts).2
    ∃ site : CallSite .getElement, x.sites[0]? = some ⟨.getElement, site⟩ ∧
      site.isLinked = true ∧ (site.call x.memory 0 4096).1 = .ok 9 := by
  intro sts x
  refine ⟨_, rfl, rfl, ?_⟩
  have hname : Operation.parse "GET:ELEMENT:memory" =
      .ok ⟨.get, [.element], some "memory"⟩ := by rfl
  have hop : Operation.Serves ⟨.get, [.element], some "memory"⟩ .getElement :=
    ⟨rfl, by simp, rfl⟩
  have h := call_eq_plain (x := x) ⟨1, {}, _, sts, rfl⟩ (i := 0) rfl hname hop 0 (4096 : Address)
  rw [h.1]
  rfl

end Session

end PagedMemory
