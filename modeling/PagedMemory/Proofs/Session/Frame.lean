import PagedMemory.Proofs.Session.Kept

/-! What a step leaves alone. Only a few steps change a call site, and only two of them an
allocator. -/

set_option autoImplicit false

namespace PagedMemory

namespace Step

def site? : Step → Option Nat
  | .unlink i | .call i _ _ | .fill i _ _ _ _ _ _ | .scan i _ _ _ _ => some i
  | _ => none

def allocator? : Step → Option Nat
  | .malloc i _ _ => some i
  | _ => none

def makesSite : Step → Bool
  | .newSite _ _ => true
  | _ => false

def makesAllocator : Step → Bool
  | .newAllocator _ => true
  | _ => false

end Step

namespace Session

/-- What a client works with besides what it only holds. -/
def tools (x : Session) : Array (Sigma CallSite) × Array BumpAllocator := (x.sites, x.allocators)

variable {x : Session}

section Views
variable {α : Type} (view : Session → α)

theorem view_onSpace {s : SpaceId} {f : Memory → Outcome × Session}
    (h : view (f x.memory).2 = view x) : view (x.onSpace s f).2 = view x :=
  onSpace_induction (P := fun r => view r.2 = view x) rfl fun _ => h

theorem view_onKept {β : Type} {kept : Option β} {f : β → Outcome × Session}
    (h : ∀ v, view (f v).2 = view x) : view (x.onKept kept f).2 = view x :=
  onKept_induction (P := fun r => view r.2 = view x) rfl fun v _ => h v

end Views

theorem tools_keepLinked (x : Session) (answer : Except MemoryError (Option Linked) × Memory) :
    (x.keepLinked answer).2.tools = x.tools := by
  obtain ⟨result, m⟩ := answer
  cases result with
  | error e => rfl
  | ok kept =>
    cases kept with
    | none => rfl
    | some l => rfl

theorem tools_linkStep (x : Session) (s : SpaceId) (name : String) (sig : Signature)
    (vs : List Value) (parsed : Bool) : (x.linkStep s name sig vs parsed).2.tools = x.tools := by
  refine view_onSpace tools ?_
  cases parsed with
  | false => exact tools_keepLinked x _
  | true =>
    cases Operation.parse name with
    | error e => rfl
    | ok op => exact tools_keepLinked x _

theorem tools_accessed (x : Session) (sh : Shape) (access : Access sh.Output) :
    (x.accessed sh access).2.tools = x.tools := by
  cases sh <;> cases access <;> rfl

theorem tools_invokeStep (x : Session) (i : Nat) (s : SpaceId) (vs : List Value) :
    (x.invokeStep i s vs).2.tools = x.tools :=
  view_onSpace tools (view_onKept tools fun l => view_onKept tools fun _ =>
    tools_accessed { x with memory := _ } l.shape _)

theorem tools_step (x : Session) {st : Step} (hs : st.site? = none) (hn : st.makesSite = false)
    (ha : st.allocator? = none) (hm : st.makesAllocator = false) :
    (x.step st).2.tools = x.tools := by
  unfold step
  cases st with
  | unlink i | call i s args | fill i s a stride count v increment | scan i s a stride count
  | newSite sh name | malloc i s size | newAllocator policy => contradiction
  | openSpace c | openDefault | recordedEvents | recordedCount => rfl
  | closeSpace s | allocate s kind | allocateMany s kinds count
  | allocateByThreads s threads each kind | reserve s size kind | read s a | write s a v
  | pageCount s | tableState s | config s | counters s | resetCounters s | exposition s
  | keepSnapshot s => exact view_onSpace tools rfl
  | snapshotState i | snapshotRead i a | snapshotKind i p | siteState i | usableAs i
  | cloneAccessor i | handleState i | handleGet i index | handleSet i index v | handleDump i
  | inspect subject => exact view_onKept tools fun _ => rfl
  | handleIs i j p => exact view_onKept tools fun _ => view_onKept tools fun _ => rfl
  | guardState i s => exact view_onSpace tools (view_onKept tools fun _ => rfl)
  | link s name sig vs parsed => exact tools_linkStep x s name sig vs parsed
  | invoke i s vs => exact tools_invokeStep x i s vs
  | snapshotWrite i a v =>
    refine view_onKept tools fun t => ?_
    cases x.memory.writeThrough? t a v with
    | none => rfl
    | some m => rfl
  | exposePage i p =>
    refine view_onKept tools fun t => ?_
    cases t.page? p with
    | none => rfl
    | some page => rfl
  | pageGet i p index =>
    refine view_onKept tools fun t => ?_
    cases t.page? p with
    | none => rfl
    | some page =>
      dsimp only
      cases x.memory.load? page index with
      | none => rfl
      | some v => rfl
  | pageSet i p index v =>
    refine view_onKept tools fun t => ?_
    cases t.page? p with
    | none => rfl
    | some page =>
      dsimp only
      cases x.memory.store? page index v with
      | none => rfl
      | some m => rfl
  | samePage i p j q =>
    refine view_onKept tools fun t => view_onKept tools fun u => ?_
    split
    · rfl
    · rfl

theorem allocators_callStep (x : Session) (i : Nat) (s : SpaceId) (vs : List Value) :
    (x.callStep i s vs).2.allocators = x.allocators := by
  refine view_onSpace allocators (view_onKept allocators fun ⟨sh, site⟩ =>
    view_onKept allocators fun args => ?_)
  dsimp only
  cases (site.call x.memory s args).1 with
  | error e => rfl
  | ok v => cases sh <;> rfl

theorem allocators_fillStep (x : Session) (i : Nat) (s : SpaceId) (a : Address)
    (stride : UInt32) (count : Nat) (v increment : Int32) :
    (x.fillStep i s a stride count v increment).2.allocators = x.allocators := by
  refine view_onSpace allocators (view_onKept allocators fun ⟨sh, site⟩ => ?_)
  cases sh with
  | getElement => rfl
  | lookupPage => rfl
  | setElement =>
    dsimp only
    split
    · rfl
    · rfl

theorem allocators_scanStep (x : Session) (i : Nat) (s : SpaceId) (a : Address)
    (stride : UInt32) (count : Nat) :
    (x.scanStep i s a stride count).2.allocators = x.allocators := by
  refine view_onSpace allocators (view_onKept allocators fun ⟨sh, site⟩ => ?_)
  cases sh with
  | setElement => rfl
  | lookupPage => rfl
  | getElement =>
    dsimp only
    split
    · rfl
    · rfl

theorem sites_step (x : Session) {st : Step} (hs : st.site? = none) (hn : st.makesSite = false) :
    (x.step st).2.sites = x.sites := by
  cases st with
  | newAllocator policy => rfl
  | malloc i s size => exact view_onSpace sites (view_onKept sites fun _ => rfl)
  | _ => exact congrArg Prod.fst (tools_step x hs hn rfl rfl)

theorem allocators_step (x : Session) {st : Step} (ha : st.allocator? = none)
    (hm : st.makesAllocator = false) : (x.step st).2.allocators = x.allocators := by
  cases st with
  | call i s vs => exact allocators_callStep x i s vs
  | fill i s a stride count v increment =>
    exact allocators_fillStep x i s a stride count v increment
  | scan i s a stride count => exact allocators_scanStep x i s a stride count
  | unlink i => exact view_onKept allocators fun _ => rfl
  | newSite sh name =>
    simp only [step]
    cases CallSite.ofName sh name with
    | error e => rfl
    | ok site => rfl
  | _ => exact congrArg Prod.snd (tools_step x rfl rfl ha hm)

end Session

end PagedMemory
