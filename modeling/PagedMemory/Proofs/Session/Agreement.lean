import PagedMemory.Proofs.Call.Agreement
import PagedMemory.Proofs.Session.Work

/-! The same session on memories that agree at a space. A step about that space, or about none,
goes the same way on both, whatever the session keeps of other spaces. -/

set_option autoImplicit false

namespace PagedMemory

namespace Step

/-- The space that a step is about: the one given, or the one that a kept table or page is
from. -/
def subject? (l : Ledger) : Step → Option SpaceId
  | .snapshotState i | .snapshotRead i _ | .snapshotWrite i _ _ | .snapshotKind i _
  | .exposePage i _ | .pageGet i _ _ | .pageSet i _ _ _ | .inspect (.snapshot i) => l.owners[i]?
  | .handleState i | .handleGet i _ | .handleSet i _ _ | .handleDump i
  | .inspect (.handle i) => l.origins[i]?.map Prod.fst
  | st => st.space?

theorem subject?_of_space? {st : Step} {s : SpaceId} (l : Ledger) (h : st.space? = some s) :
    st.subject? l = some s := by
  cases st with
  | inspect subject =>
    cases subject with
    | space s => exact h
    | _ => contradiction
  | _ => first | exact h | contradiction

end Step

namespace Session

variable {K : SpaceId → PageTable → Prop} {x : Session} {l : Ledger} {s : SpaceId} {m' : Memory}
  {st : Step}

def withMemory (x : Session) (m : Memory) : Session := { x with memory := m }

inductive Alike (s : SpaceId) : Outcome × Session → Outcome × Session → Prop where
  | intro (o : Outcome) (y : Session) {n' : Memory} (h : y.memory.AgreesAt s n') :
    Alike s (o, y) (o, y.withMemory n')

theorem alike_leave {α : Type} {r r' : α × Memory} (hr : Memory.Alike s r r') (f : α → Outcome) :
    Alike s (x.leave (f r.1, r.2)) ((x.withMemory m').leave (f r'.1, r'.2)) := by
  cases hr with
  | @intro answer n n' hagree => exact .intro _ { x with memory := n } hagree

theorem alike_accessed {sh : Shape} {r r' : Access sh.Output × Memory}
    (hr : Memory.Alike s r r') :
    Alike s ({ x with memory := r.2 }.accessed sh r.1)
      ({ x.withMemory m' with memory := r'.2 }.accessed sh r'.1) := by
  cases hr with
  | @intro access n n' hagree =>
  cases access with
  | relink => cases sh <;> exact .intro _ { x with memory := n } hagree
  | value v =>
    cases sh with
    | getElement => exact .intro _ { x with memory := n } hagree
    | setElement => exact .intro _ { x with memory := n } hagree
    | lookupPage => exact .intro _ ({ x with memory := n }.keepPage v).2 hagree

theorem alike_keepLinked {r r' : Except MemoryError (Option Linked) × Memory}
    (hr : Memory.Alike s r r') : Alike s (x.keepLinked r) ((x.withMemory m').keepLinked r') := by
  cases hr with
  | @intro answer n n' hagree =>
  unfold keepLinked
  dsimp only
  cases answer with
  | error e => exact .intro _ { x with memory := n } hagree
  | ok kept =>
    cases kept with
    | none => exact .intro _ { x with memory := n } hagree
    | some a =>
      have hstate : guardState n' a.guard = guardState n a.guard := by
        rw [guardState, guardState, hagree.number, hagree.isValid]
      dsimp only
      rw [hstate]
      exact .intro _ { x with memory := n, accessors := x.accessors.push a } hagree

section Alike
variable (ha : x.memory.AgreesAt s m')
include ha

theorem alike_onSpace {s' : SpaceId} {f f' : Memory → Outcome × Session}
    (hf : (x.memory.space s').isOpen = true → Alike s (f x.memory) (f' m')) :
    Alike s (x.onSpace s' f) ((x.withMemory m').onSpace s' f') := by
  have hopen : ((x.withMemory m').memory.space s').isOpen = (x.memory.space s').isOpen :=
    ha.isOpen s'
  unfold onSpace
  rw [hopen]
  split
  · rename_i h
    exact hf h
  · exact .intro _ x ha

theorem alike_onKept {α : Type} {kept : Option α} {f f' : α → Outcome × Session}
    (hf : ∀ v, kept = some v → Alike s (f v) (f' v)) :
    Alike s (x.onKept kept f) ((x.withMemory m').onKept kept f') := by
  unfold onKept
  split
  · rename_i v
    exact hf v rfl
  · exact .intro _ x ha

theorem eventLog_withMemory : (x.withMemory m').eventLog = x.eventLog := by
  simp only [eventLog, withMemory, Memory.events, ha.journal]

theorem inspect_withMemory (subject : Subject) :
    (x.withMemory m').inspect subject = x.inspect subject := by
  have hguard : ∀ g : Guard, Inspect.guard m' g = Inspect.guard x.memory g := by
    intro g
    simp only [Inspect.guard, Inspect.spaceId, ha.number]
  have haccessor : ∀ sh g, Inspect.accessor m' sh g = Inspect.accessor x.memory sh g := by
    intro sh g
    simp only [Inspect.accessor, hguard]
  cases subject with
  | space s' =>
    simp only [inspect, withMemory, Inspect.space, Inspect.spaceId, Inspect.table, ha.isOpen,
      ha.number, ha.table, ha.isValid, ha.config]
  | snapshot i =>
    have htable : Inspect.table m' = Inspect.table x.memory := by
      funext t
      simp only [Inspect.table, ha.isValid]
    simp only [inspect, withMemory, htable]
  | site i =>
    have haccessors : Inspect.accessor m' = Inspect.accessor x.memory := by
      funext sh g
      exact haccessor sh g
    simp only [inspect, withMemory, Inspect.callSite, haccessors]
  | accessor i =>
    have hlinked : Inspect.linked m' = Inspect.linked x.memory := by
      funext a
      simp only [Inspect.linked, haccessor]
    simp only [inspect, withMemory, hlinked]
  | handle i => rfl
  | allocator i => rfl

end Alike

theorem alike_link (ha : x.memory.AgreesAt s m') (name : String) (sig : Signature) (vs : List Value)
    (parsed : Bool) :
    Alike s (x.linkStep s name sig vs parsed)
      ((x.withMemory m').linkStep s name sig vs parsed) := by
  refine alike_onSpace ha fun _ => ?_
  cases parsed with
  | false => exact alike_keepLinked (ha.linkNamed name sig vs)
  | true =>
    simp only [if_true]
    split
    · exact alike_keepLinked (ha.link _ sig vs)
    · exact .intro _ x ha

section Tools
variable (h : x.Fits K l) (ha : x.memory.AgreesAt s m')
include h ha

theorem Fits.alike_call (i : Nat) (vs : List Value) :
    Alike s (x.callStep i s vs) ((x.withMemory m').callStep i s vs) := by
  refine alike_onSpace ha fun _ => alike_onKept ha fun kept hk => ?_
  obtain ⟨sh, site⟩ := kept
  refine alike_onKept ha fun args _ => ?_
  have hcall := ha.call h.sound (h.past.sites _ (Array.mem_of_getElem? hk)) args
  dsimp only
  generalize site.call x.memory s args = r at hcall
  generalize site.call m' s args = r' at hcall
  cases hcall with
  | @intro answer site' n n' hagree =>
  let y : Session := { x with memory := n, sites := x.sites.setIfInBounds i ⟨sh, site'⟩ }
  cases answer with
  | error e => exact .intro _ y hagree
  | ok v =>
    cases sh with
    | getElement => exact .intro _ y hagree
    | setElement => exact .intro _ y hagree
    | lookupPage => exact .intro _ (y.keepPage v).2 hagree

theorem Fits.alike_fill (i : Nat) (a : Address) (stride : UInt32) (count : Nat)
    (v increment : Int32) :
    Alike s (x.fillStep i s a stride count v increment)
      ((x.withMemory m').fillStep i s a stride count v increment) := by
  refine alike_onSpace ha fun _ => alike_onKept ha fun kept hk => ?_
  obtain ⟨sh, site⟩ := kept
  cases sh with
  | getElement => exact .intro _ x ha
  | lookupPage => exact .intro _ x ha
  | setElement =>
    have hfill := ha.fill h.sound (h.past.sites _ (Array.mem_of_getElem? hk)) stride increment
      count 0 a v
    dsimp only
    generalize site.fill s stride increment count 0 a v x.memory = r at hfill
    generalize site.fill s stride increment count 0 a v m' = r' at hfill
    cases hfill with
    | @intro answer site' n n' hagree =>
    let y : Session :=
      { x with memory := n, sites := x.sites.setIfInBounds i ⟨.setElement, site'⟩ }
    cases answer with
    | ok u => exact .intro _ y hagree
    | error e => exact .intro _ y hagree

theorem Fits.alike_scan (i : Nat) (a : Address) (stride : UInt32) (count : Nat) :
    Alike s (x.scanStep i s a stride count) ((x.withMemory m').scanStep i s a stride count) := by
  refine alike_onSpace ha fun _ => alike_onKept ha fun kept hk => ?_
  obtain ⟨sh, site⟩ := kept
  cases sh with
  | setElement => exact .intro _ x ha
  | lookupPage => exact .intro _ x ha
  | getElement =>
    have hscan := ha.scan h.sound (h.past.sites _ (Array.mem_of_getElem? hk)) stride count 0 a
    dsimp only
    generalize site.scan s stride count 0 a x.memory = r at hscan
    generalize site.scan s stride count 0 a m' = r' at hscan
    cases hscan with
    | @intro answer site' n n' hagree =>
    let y : Session :=
      { x with memory := n, sites := x.sites.setIfInBounds i ⟨.getElement, site'⟩ }
    cases answer with
    | ok vs => exact .intro _ y hagree
    | error e => exact .intro _ y hagree

theorem Fits.alike_invoke (i : Nat) (vs : List Value) :
    Alike s (x.invokeStep i s vs) ((x.withMemory m').invokeStep i s vs) := by
  refine alike_onSpace ha fun _ => alike_onKept ha fun a hk => alike_onKept ha fun args _ => ?_
  have hg := h.past.accessors _ (Array.mem_of_getElem? hk)
  exact alike_accessed (ha.invoke h.sound hg a.shape args)

theorem Fits.alike_malloc (i : Nat) (size : Nat) :
    Alike s (x.mallocStep i s size) ((x.withMemory m').mallocStep i s size) := by
  refine alike_onSpace ha fun _ => alike_onKept ha fun a _ => ?_
  have hmalloc := ha.malloc h.sound a size
  dsimp only
  generalize a.malloc x.memory s size = r at hmalloc
  generalize a.malloc m' s size = r' at hmalloc
  cases hmalloc with
  | @intro answer a' n n' hagree =>
  exact .intro _ { x with memory := n, allocators := x.allocators.setIfInBounds i a' } hagree

end Tools

theorem Fits.handle_cells (h : x.Fits K l) {i : Nat}
    (hst : ∀ s', l.origins[i]?.map Prod.fst = some s' → s' = s) {p : Page}
    (hp : x.handles[i]? = some p) : ∃ q, ∀ e, x.memory.pageOf? ⟨s, q, e⟩ = some p := by
  obtain ⟨s', q, t, ho, hpast, hq⟩ := h.past.handle hp
  obtain rfl := hst s' (by rw [ho, Option.map_some])
  exact ⟨q, fun e => hpast.page? hq⟩

section Kept
variable (h : x.Fits K l) (ha : x.memory.AgreesAt s m')
include h ha

section Snapshot
variable {i : Nat} (hst : ∀ s', l.owners[i]? = some s' → s' = s)
include hst

theorem Fits.alike_snapshotRead (a : Address) :
    Alike s (x.step (.snapshotRead i a)) ((x.withMemory m').step (.snapshotRead i a)) := by
  refine alike_onKept ha fun t ht => ?_
  obtain ⟨s', ho, hpast⟩ := h.past.snapshot ht
  obtain rfl := hst s' ho
  have hread : (x.withMemory m').memory.readThrough? t a = x.memory.readThrough? t a :=
    ha.readThrough? hpast a
  rw [hread]
  exact .intro _ x ha

theorem Fits.alike_snapshotWrite (a : Address) (v : Int32) :
    Alike s (x.step (.snapshotWrite i a v)) ((x.withMemory m').step (.snapshotWrite i a v)) := by
  refine alike_onKept ha fun t ht => ?_
  obtain ⟨s', ho, hpast⟩ := h.past.snapshot ht
  obtain rfl := hst s' ho
  have hwrite := ha.writeThrough? h.sound hpast a v
  dsimp only [withMemory]
  generalize x.memory.writeThrough? t a v = r at hwrite
  generalize m'.writeThrough? t a v = r' at hwrite
  cases hwrite with
  | none => exact .intro _ x ha
  | @some n n' hagree => exact .intro _ { x with memory := n } hagree

theorem Fits.alike_pageGet (q : PageId) (n : Nat) :
    Alike s (x.step (.pageGet i q n)) ((x.withMemory m').step (.pageGet i q n)) := by
  refine alike_onKept ha fun t ht => ?_
  cases hp : t.page? q with
  | none => exact .intro _ x ha
  | some p =>
    obtain ⟨s', ho, _, hcells⟩ := h.pageOf? ht hp
    obtain rfl := hst s' ho
    have hload : (x.withMemory m').memory.load? p n = x.memory.load? p n := ha.load? hcells n
    dsimp only
    rw [hload]
    split
    · exact .intro _ x ha
    · exact .intro _ x ha

theorem Fits.alike_pageSet (q : PageId) (n : Nat) (v : Int32) :
    Alike s (x.step (.pageSet i q n v)) ((x.withMemory m').step (.pageSet i q n v)) := by
  refine alike_onKept ha fun t ht => ?_
  cases hp : t.page? q with
  | none => exact .intro _ x ha
  | some p =>
    obtain ⟨s', ho, _, hcells⟩ := h.pageOf? ht hp
    obtain rfl := hst s' ho
    have hstore := ha.store? h.sound hcells n v
    dsimp only [withMemory]
    generalize x.memory.store? p n v = r at hstore
    generalize m'.store? p n v = r' at hstore
    cases hstore with
    | none => exact .intro _ x ha
    | @some m₁ m₁' hagree => exact .intro _ { x with memory := m₁ } hagree

end Snapshot

section Handle
variable {i : Nat} (hst : ∀ s', l.origins[i]?.map Prod.fst = some s' → s' = s)
include hst

theorem Fits.alike_handleGet (n : Nat) :
    Alike s (x.step (.handleGet i n)) ((x.withMemory m').step (.handleGet i n)) := by
  refine alike_onKept ha fun p hp => ?_
  obtain ⟨q, hcells⟩ := h.handle_cells hst hp
  have hload : (x.withMemory m').memory.load? p n = x.memory.load? p n := ha.load? hcells n
  rw [hload]
  exact .intro _ x ha

theorem Fits.alike_handleSet (n : Nat) (v : Int32) :
    Alike s (x.step (.handleSet i n v)) ((x.withMemory m').step (.handleSet i n v)) := by
  refine alike_onKept ha fun p hp => ?_
  obtain ⟨q, hcells⟩ := h.handle_cells hst hp
  have hstore := ha.store? h.sound hcells n v
  have hchecked : Memory.Alike s (x.memory.storeChecked p n v) (m'.storeChecked p n v) := by
    unfold Memory.storeChecked
    generalize x.memory.store? p n v = r at hstore
    generalize m'.store? p n v = r' at hstore
    cases hstore with
    | none => exact .intro _ ha
    | some hagree => exact .intro _ hagree
  exact alike_leave hchecked (Outcome.ofExcept fun _ => .done)

theorem Fits.alike_handleDump :
    Alike s (x.step (.handleDump i)) ((x.withMemory m').step (.handleDump i)) := by
  refine alike_onKept ha fun p hp => ?_
  obtain ⟨q, hcells⟩ := h.handle_cells hst hp
  have helements : (x.withMemory m').memory.elements p = x.memory.elements p :=
    ha.elements hcells
  rw [helements]
  exact .intro _ x ha

end Handle

end Kept

theorem alike_openValid (ha : x.memory.AgreesAt s m') (config : Config) :
    Memory.Alike s (x.memory.openValid config) (m'.openValid config) := by
  have hadd := ha.addSpace config
  unfold Memory.openValid
  dsimp only
  rw [ha.tables.spaces, ha.number]
  exact .intro _ (hadd.say _)

/-- A step about one space, or about none, goes the same way on memories that agree there. -/
theorem Fits.alike_step (h : x.Fits K l) (ha : x.memory.AgreesAt s m')
    (hst : ∀ s', st.subject? l = some s' → s' = s) :
    Alike s (x.step st) ((x.withMemory m').step st) := by
  cases st with
  | snapshotRead i a => exact h.alike_snapshotRead ha hst a
  | snapshotWrite i a v => exact h.alike_snapshotWrite ha hst a v
  | pageGet i p index => exact h.alike_pageGet ha hst p index
  | pageSet i p index v => exact h.alike_pageSet ha hst p index v
  | handleGet i index => exact h.alike_handleGet ha hst index
  | handleSet i index v => exact h.alike_handleSet ha hst index v
  | handleDump i => exact h.alike_handleDump ha hst
  | openSpace config =>
    have hopen := alike_openValid ha config
    have hanswer : Memory.Alike s (x.memory.openSpace config) (m'.openSpace config) := by
      simp only [Memory.openSpace]
      cases config.validate with
      | error e => exact .intro _ ha
      | ok u =>
        generalize x.memory.openValid config = r at hopen
        generalize m'.openValid config = r' at hopen
        cases hopen with
        | intro answer hagree => exact .intro _ hagree
    exact alike_leave hanswer (Outcome.ofExcept .spaceOpened)
  | openDefault => exact alike_leave (alike_openValid ha {}) Outcome.spaceOpened
  | closeSpace s' =>
    simp only [Session.step]
    refine alike_onSpace ha fun _ => ?_
    exact .intro _ { x with memory := x.memory.close s' } (ha.close s')
  | resetCounters s' =>
    simp only [Session.step]
    refine alike_onSpace ha fun _ => ?_
    exact .intro _ { x with memory := x.memory.resetStatistics s' } (ha.resetStatistics s')
  | allocate s' kind =>
    obtain rfl := hst _ rfl
    simp only [Session.step]
    refine alike_onSpace ha fun _ => ?_
    exact alike_leave (ha.allocatePage h.sound kind) (Outcome.ofExcept .address)
  | allocateMany s' kinds count =>
    obtain rfl := hst _ rfl
    simp only [Session.step]
    refine alike_onSpace ha fun _ => ?_
    exact alike_leave (ha.allocateMany h.sound kinds.toArray count 0 none)
      (Outcome.ofExcept (.ofOption .address))
  | allocateByThreads s' threads each kind =>
    obtain rfl := hst _ rfl
    simp only [Session.step]
    refine alike_onSpace ha fun _ => ?_
    exact alike_leave (ha.allocateAll h.sound kind (threads * each)) threadsOutcome
  | reserve s' size kind =>
    obtain rfl := hst _ rfl
    simp only [Session.step]
    refine alike_onSpace ha fun _ => ?_
    exact alike_leave (ha.reserve h.sound size kind) (Outcome.ofExcept .address)
  | read s' a =>
    obtain rfl := hst _ rfl
    simp only [Session.step]
    refine alike_onSpace ha fun hopen => ?_
    rw [ha.read (Memory.lt_size_of_isOpen hopen) h.sound]
    exact .intro _ x ha
  | write s' a v =>
    obtain rfl := hst _ rfl
    simp only [Session.step]
    refine alike_onSpace ha fun hopen => ?_
    exact alike_leave (ha.write (Memory.lt_size_of_isOpen hopen) h.sound a v)
      (Outcome.ofExcept fun _ => .done)
  | pageCount s' =>
    simp only [Session.step]
    refine alike_onSpace ha fun _ => ?_
    rw [ha.table]
    exact .intro _ x ha
  | tableState s' =>
    simp only [Session.step]
    refine alike_onSpace ha fun _ => ?_
    simp only [tableState, ha.table, ha.isValid]
    exact .intro _ x ha
  | config s' =>
    simp only [Session.step]
    refine alike_onSpace ha fun _ => ?_
    rw [ha.config]
    exact .intro _ x ha
  | counters s' =>
    obtain rfl := hst _ rfl
    simp only [Session.step]
    refine alike_onSpace ha fun _ => ?_
    rw [ha.space]
    exact .intro _ x ha
  | exposition s' =>
    obtain rfl := hst _ rfl
    simp only [Session.step]
    refine alike_onSpace ha fun _ => ?_
    rw [ha.space]
    exact .intro _ x ha
  | keepSnapshot s' =>
    simp only [Session.step]
    refine alike_onSpace ha fun _ => ?_
    rw [ha.table]
    exact .intro _ { x with snapshots := x.snapshots.push (x.memory.table s') } ha
  | call i s' vs =>
    obtain rfl := hst _ rfl
    exact h.alike_call ha i vs
  | fill i s' a stride count v increment =>
    obtain rfl := hst _ rfl
    exact h.alike_fill ha i a stride count v increment
  | scan i s' a stride count =>
    obtain rfl := hst _ rfl
    exact h.alike_scan ha i a stride count
  | link s' name sig vs parsed =>
    obtain rfl := hst _ rfl
    exact alike_link ha name sig vs parsed
  | invoke i s' vs =>
    obtain rfl := hst _ rfl
    exact h.alike_invoke ha i vs
  | malloc i s' size =>
    obtain rfl := hst _ rfl
    exact h.alike_malloc ha i size
  | guardState i s' =>
    simp only [Session.step]
    refine alike_onSpace ha fun _ => ?_
    refine alike_onKept ha fun a _ => ?_
    simp only [guardState, ha.number, ha.isValid, ha.holds]
    exact .intro _ x ha
  | snapshotState i =>
    refine alike_onKept ha fun t _ => ?_
    have hstate : tableState (x.withMemory m').memory t = tableState x.memory t := by
      simp only [tableState, withMemory, ha.isValid]
    rw [hstate]
    exact .intro _ x ha
  | inspect subject =>
    simp only [Session.step]
    rw [inspect_withMemory ha]
    exact alike_onKept ha fun t _ => .intro _ x ha
  | recordedEvents =>
    simp only [Session.step, eventLog_withMemory ha]
    exact .intro _ x ha
  | recordedCount =>
    simp only [Session.step, eventLog_withMemory ha]
    exact .intro _ x ha
  -- The others do not look at the memory.
  | snapshotKind i p => exact alike_onKept ha fun t _ => .intro _ x ha
  | siteState i => exact alike_onKept ha fun site _ => .intro _ x ha
  | unlink i =>
    refine alike_onKept ha fun site _ => ?_
    exact .intro _ { x with sites := x.sites.setIfInBounds i ⟨site.1, site.2.unlink⟩ } ha
  | usableAs i => exact alike_onKept ha fun a _ => .intro _ x ha
  | cloneAccessor i =>
    refine alike_onKept ha fun a _ => ?_
    exact .intro _ { x with accessors := x.accessors.push a } ha
  | handleState i => exact alike_onKept ha fun p _ => .intro _ x ha
  | handleIs i j p =>
    exact alike_onKept ha fun page _ => alike_onKept ha fun t _ => .intro _ x ha
  | exposePage i p =>
    refine alike_onKept ha fun t _ => ?_
    cases t.page? p with
    | none => exact .intro _ x ha
    | some page => exact .intro _ (x.keepPage page).2 ha
  | samePage i p j q =>
    refine alike_onKept ha fun t _ => alike_onKept ha fun u _ => ?_
    cases t.page? p <;> cases u.page? q <;> exact .intro _ x ha
  | newSite sh name =>
    simp only [Session.step]
    cases CallSite.ofName sh name with
    | error e => exact .intro _ x ha
    | ok site => exact .intro _ { x with sites := x.sites.push ⟨sh, site⟩ } ha
  | newAllocator policy =>
    exact .intro _ { x with allocators := x.allocators.push ⟨policy, none, 0, #[]⟩ } ha

end Session

end PagedMemory
