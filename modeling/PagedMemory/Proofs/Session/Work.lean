import Mathlib.Algebra.GroupWithZero.Nat
import PagedMemory.Proofs.Call.Speculation
import PagedMemory.Proofs.Session.Frame
import PagedMemory.Proofs.Session.Runs

/-! What a step comes down to. Spaces are opened, closed and have their counters reset; every
other step is work on the one space that it is about, and call sites count every relink that
is counted for the space. -/

set_option autoImplicit false

namespace PagedMemory

namespace Step

def space? : Step → Option SpaceId
  | .closeSpace s | .allocate s _ | .allocateMany s _ _ | .allocateByThreads s _ _ _
  | .reserve s _ _ | .read s _ | .write s _ _ | .pageCount s | .tableState s | .config s
  | .counters s | .resetCounters s | .exposition s | .keepSnapshot s | .call _ s _
  | .fill _ s _ _ _ _ _ | .scan _ s _ _ _ | .link s _ _ _ _ | .invoke _ s _ | .guardState _ s
  | .malloc _ s _ | .inspect (.space s) => some s
  | _ => none

def manages : Step → Bool
  | .openSpace _ | .openDefault | .closeSpace _ | .resetCounters _ => true
  | _ => false

end Step

namespace CallSite

variable {m : Memory} {s : SpaceId}

theorem work_relinks_call {sh : Shape} {site : CallSite sh} (hm : m.Sound)
    (hb : site.Bound m.Past) (s : SpaceId) (args : sh.Args) :
    ∃ counted, m.Work s counted (site.call m s args).2.2 ∧
      (site.call m s args).2.1.relinks = site.relinks + counted.count .relink := by
  refine ⟨_, work_call hm hb s args, ?_⟩
  have hshadow := congrArg Shadow.relinks (shadow_call hm hb s args)
  rw [count_relink_counted]
  exact hshadow

theorem work_fill (s : SpaceId) (stride : UInt32) (increment : Int32) (n i : Nat) (a : Address)
    (v : Int32) (site : CallSite .setElement) (hm : m.Sound) (hb : site.Bound m.Past) :
    ∃ counted, m.Work s counted (site.fill s stride increment n i a v m).2.2 ∧
      (site.fill s stride increment n i a v m).2.1.relinks =
        site.relinks + counted.count .relink := by
  induction n generalizing i a v site m with
  | zero => exact ⟨[], .refl, rfl⟩
  | succ n ih =>
    obtain ⟨counted, hw, hr⟩ := work_relinks_call hm hb s (a, v)
    have hcall := call_spec s (a, v) hm hb
    unfold fill
    generalize site.call m s (a, v) = r at hw hr hcall
    obtain ⟨answer, site₁, m₁⟩ := r
    obtain ⟨hf, hl⟩ := hcall
    cases answer with
    | error e => exact ⟨counted, hw, hr⟩
    | ok u =>
      obtain ⟨counted', hw', hr'⟩ := ih (i + 1) (a + stride) (v + increment) site₁
        (hl.evolves.sound hm) (hf.past hm hb hl.evolves)
      refine ⟨_, hw.trans hw', ?_⟩
      rw [List.count_append, ← Nat.add_assoc]
      exact hr'.trans (congrArg (· + _) hr)

theorem work_scan (s : SpaceId) (stride : UInt32) (n i : Nat) (a : Address)
    (site : CallSite .getElement) (hm : m.Sound) (hb : site.Bound m.Past) :
    ∃ counted, m.Work s counted (site.scan s stride n i a m).2.2 ∧
      (site.scan s stride n i a m).2.1.relinks = site.relinks + counted.count .relink := by
  induction n generalizing i a site m with
  | zero => exact ⟨[], .refl, rfl⟩
  | succ n ih =>
    obtain ⟨counted, hw, hr⟩ := work_relinks_call hm hb s a
    have hcall := call_spec s a hm hb
    unfold scan
    generalize site.call m s a = r at hw hr hcall
    obtain ⟨answer, site₁, m₁⟩ := r
    obtain ⟨hf, hl⟩ := hcall
    cases answer with
    | error e => exact ⟨counted, hw, hr⟩
    | ok v =>
      obtain ⟨counted', hw', hr'⟩ := ih (i + 1) (a + stride) site₁ (hl.evolves.sound hm)
        (hf.past hm hb hl.evolves)
      have hsum : (scan s stride n (i + 1) (a + stride) site₁ m₁).2.1.relinks =
          site.relinks + (counted ++ counted').count .relink := by
        rw [List.count_append, ← Nat.add_assoc]
        exact hr'.trans (congrArg (· + _) hr)
      dsimp only
      generalize scan s stride n (i + 1) (a + stride) site₁ m₁ = r at hw' hsum
      obtain ⟨answer₂, site₂, m₂⟩ := r
      cases answer₂ with
      | ok vs => exact ⟨_, hw.trans hw', hsum⟩
      | error e => exact ⟨_, hw.trans hw', hsum⟩

end CallSite

theorem sum_map_set {α : Type} (f : α → Nat) (as : List α) {i : Nat} {a : α} (b : α)
    (h : as[i]? = some a) : ((as.set i b).map f).sum + f a = (as.map f).sum + f b := by
  induction as generalizing i with
  | nil => simp at h
  | cons c as ih =>
    cases i with
    | zero =>
      simp only [List.getElem?_cons_zero, Option.some.injEq] at h
      simp only [List.set_cons_zero, List.map_cons, List.sum_cons, h]
      omega
    | succ i =>
      have hrest := ih (by simpa using h)
      simp only [List.set_cons_succ, List.map_cons, List.sum_cons]
      omega

namespace Session

variable {K : SpaceId → PageTable → Prop} {x y : Session} {l : Ledger} {s : SpaceId}
  {counted : List Countable}

def siteRelinks (x : Session) : Nat := (x.sites.toList.map fun site => site.2.relinks).sum

/-- A step with this result has worked on this space, if on any, and its sites have counted
what was counted for the space. -/
structure Worked (x : Session) (s : SpaceId) (counted : List Countable) (y : Session) : Prop where
  work : x.memory.Work s counted y.memory
  known : counted = [] ∨ s < x.memory.spaces.size
  relinks : y.siteRelinks = x.siteRelinks + counted.count .relink

theorem Worked.of_eq (hm : y.memory = x.memory) (hs : y.sites = x.sites) (s : SpaceId) :
    x.Worked s [] y :=
  ⟨hm ▸ .refl, .inl rfl, by simp [siteRelinks, hs]⟩

theorem Worked.of_work (hw : x.memory.Work s counted y.memory) (hs : y.sites = x.sites)
    (hopen : (x.memory.space s).isOpen = true) (hr : counted.count .relink = 0) :
    x.Worked s counted y :=
  ⟨hw, .inr (Memory.lt_size_of_isOpen hopen), by simp [siteRelinks, hs, hr]⟩

theorem Worked.of_set {sh : Shape} {site site' : CallSite sh} {i : Nat}
    (hk : x.sites[i]? = some ⟨sh, site⟩) (hw : x.memory.Work s counted y.memory)
    (hy : y.sites = x.sites.setIfInBounds i ⟨sh, site'⟩)
    (hopen : (x.memory.space s).isOpen = true)
    (hr : site'.relinks = site.relinks + counted.count .relink) : x.Worked s counted y := by
  refine ⟨hw, .inr (Memory.lt_size_of_isOpen hopen), ?_⟩
  have hsum := sum_map_set (fun site : Sigma CallSite => site.2.relinks) x.sites.toList
    ⟨sh, site'⟩ (i := i) (a := ⟨sh, site⟩) (by simpa using hk)
  simp only [siteRelinks, hy, Array.toList_setIfInBounds]
  dsimp only at hsum
  omega

theorem Fits.worked_call (h : x.Fits K l) (i : Nat) (s : SpaceId) (vs : List Value) :
    ∃ counted, x.Worked s counted (x.callStep i s vs).2 := by
  let P := fun r : Outcome × Session => ∃ counted, x.Worked s counted r.2
  have misuse : P (.misuse, x) := ⟨[], .of_eq rfl rfl s⟩
  refine onSpace_induction misuse fun hopen => onKept_induction misuse ?_
  rintro ⟨sh, site⟩ hk
  refine onKept_induction misuse fun args _ => ?_
  obtain ⟨counted, hw, hr⟩ := CallSite.work_relinks_call h.sound
    (h.past.sites _ (Array.mem_of_getElem? hk)) s args
  dsimp only
  generalize site.call x.memory s args = r at hw hr
  obtain ⟨answer, site', m'⟩ := r
  cases answer with
  | error e => exact ⟨counted, .of_set hk hw rfl hopen hr⟩
  | ok v =>
    cases sh with
    | getElement => exact ⟨counted, .of_set hk hw rfl hopen hr⟩
    | setElement => exact ⟨counted, .of_set hk hw rfl hopen hr⟩
    | lookupPage => exact ⟨counted, .of_set hk hw rfl hopen hr⟩

theorem Fits.worked_fill (h : x.Fits K l) (i : Nat) (s : SpaceId) (a : Address)
    (stride : UInt32) (count : Nat) (v increment : Int32) :
    ∃ counted, x.Worked s counted (x.fillStep i s a stride count v increment).2 := by
  let P := fun r : Outcome × Session => ∃ counted, x.Worked s counted r.2
  have misuse : P (.misuse, x) := ⟨[], .of_eq rfl rfl s⟩
  refine onSpace_induction misuse fun hopen => onKept_induction misuse ?_
  rintro ⟨sh, site⟩ hk
  cases sh with
  | getElement => exact misuse
  | lookupPage => exact misuse
  | setElement =>
    obtain ⟨counted, hw, hr⟩ := CallSite.work_fill s stride increment count 0 a v site h.sound
      (h.past.sites _ (Array.mem_of_getElem? hk))
    dsimp only
    generalize site.fill s stride increment count 0 a v x.memory = r at hw hr
    obtain ⟨answer, site', m'⟩ := r
    cases answer with
    | ok u => exact ⟨counted, .of_set hk hw rfl hopen hr⟩
    | error e => exact ⟨counted, .of_set hk hw rfl hopen hr⟩

theorem Fits.worked_scan (h : x.Fits K l) (i : Nat) (s : SpaceId) (a : Address)
    (stride : UInt32) (count : Nat) :
    ∃ counted, x.Worked s counted (x.scanStep i s a stride count).2 := by
  let P := fun r : Outcome × Session => ∃ counted, x.Worked s counted r.2
  have misuse : P (.misuse, x) := ⟨[], .of_eq rfl rfl s⟩
  refine onSpace_induction misuse fun hopen => onKept_induction misuse ?_
  rintro ⟨sh, site⟩ hk
  cases sh with
  | setElement => exact misuse
  | lookupPage => exact misuse
  | getElement =>
    obtain ⟨counted, hw, hr⟩ := CallSite.work_scan s stride count 0 a site h.sound
      (h.past.sites _ (Array.mem_of_getElem? hk))
    dsimp only
    generalize site.scan s stride count 0 a x.memory = r at hw hr
    obtain ⟨answer, site', m'⟩ := r
    cases answer with
    | ok vs => exact ⟨counted, .of_set hk hw rfl hopen hr⟩
    | error e => exact ⟨counted, .of_set hk hw rfl hopen hr⟩

theorem worked_unlink (x : Session) (i : Nat) (s : SpaceId) :
    x.Worked s [] (x.step (.unlink i)).2 := by
  let P := fun r : Outcome × Session => x.Worked s [] r.2
  refine onKept_induction (P := P) (.of_eq rfl rfl s) ?_
  rintro ⟨sh, site⟩ hk
  have hsum := sum_map_set (fun site : Sigma CallSite => site.2.relinks) x.sites.toList
    ⟨sh, site.unlink⟩ (i := i) (a := ⟨sh, site⟩) (by simpa using hk)
  refine ⟨.refl, .inl rfl, ?_⟩
  simp only [siteRelinks, Array.toList_setIfInBounds, List.count_nil]
  have hsame : site.unlink.relinks = site.relinks := rfl
  dsimp only at hsum
  omega

theorem worked_newSite (x : Session) (sh : Shape) (name : String) (s : SpaceId) :
    x.Worked s [] (x.step (.newSite sh name)).2 := by
  simp only [step]
  cases hsite : CallSite.ofName sh name with
  | error e => exact .of_eq rfl rfl s
  | ok site =>
    have hfresh : site.relinks = 0 := congrArg Shadow.relinks (CallSite.shadow_ofName hsite)
    exact ⟨.refl, .inl rfl, by simp [siteRelinks, hfresh]⟩

theorem worked_store (p : Page) (i : Fin elementsPerPage) (v : Int32) (s : SpaceId) :
    x.Worked s [] { x with memory := x.memory.store p i v } :=
  ⟨Memory.Work.refl.store p i v, .inl rfl, rfl⟩

theorem worked_writeThrough {t : PageTable} {a : Address} {v : Int32} {m' : Memory}
    (h : x.memory.writeThrough? t a v = some m') (s : SpaceId) :
    x.Worked s [] { x with memory := m' } := by
  obtain ⟨p, _, rfl⟩ := Option.map_eq_some_iff.mp h
  exact worked_store p _ v s

theorem worked_store? {p : Page} {n : Nat} {v : Int32} {m' : Memory}
    (h : x.memory.store? p n v = some m') (s : SpaceId) :
    x.Worked s [] { x with memory := m' } := by
  by_cases hn : n < elementsPerPage
  · rw [Memory.store?_of_lt p hn] at h
    cases h
    exact worked_store p _ v s
  · rw [Memory.store?_of_not_lt p hn] at h
    contradiction

theorem memory_keepLinked (x : Session) (answer : Except MemoryError (Option Linked) × Memory) :
    (x.keepLinked answer).2.memory = answer.2 := by
  obtain ⟨result, m⟩ := answer
  cases result with
  | error e => rfl
  | ok kept =>
    cases kept with
    | none => rfl
    | some l => rfl

theorem sites_keepLinked (x : Session) (answer : Except MemoryError (Option Linked) × Memory) :
    (x.keepLinked answer).2.sites = x.sites := congrArg Prod.fst (tools_keepLinked x answer)

theorem worked_link (x : Session) (s : SpaceId) (name : String) (sig : Signature)
    (vs : List Value) (parsed : Bool) :
    ∃ counted, x.Worked s counted (x.linkStep s name sig vs parsed).2 := by
  let P := fun r : Outcome × Session => ∃ counted, x.Worked s counted r.2
  refine onSpace_induction (P := P) ⟨[], .of_eq rfl rfl s⟩ fun hopen => ?_
  have hkeep : ∀ answer : Except MemoryError (Option Linked) × Memory,
      x.memory.Work s (Memory.resolved answer.1) answer.2 → P (x.keepLinked answer) := by
    intro answer hw
    rw [← memory_keepLinked x answer] at hw
    refine ⟨_, .of_work hw (sites_keepLinked x answer) hopen ?_⟩
    unfold Memory.resolved
    split <;> rfl
  cases parsed with
  | false => exact hkeep _ (Memory.work_linkNamed _ s name sig vs)
  | true =>
    cases Operation.parse name with
    | error e => exact ⟨[], .of_eq rfl rfl s⟩
    | ok op => exact hkeep _ (Memory.work_link _ s op sig vs)

theorem worked_invoke (x : Session) (i : Nat) (s : SpaceId) (vs : List Value) :
    x.Worked s [] (x.invokeStep i s vs).2 := by
  let P := fun r : Outcome × Session => x.Worked s [] r.2
  have misuse : P (.misuse, x) := .of_eq rfl rfl s
  refine onSpace_induction misuse fun _ => onKept_induction misuse fun a _ =>
    onKept_induction misuse fun args _ => ?_
  have hw := Memory.work_invoke x.memory s a.guard a.shape args
  dsimp only
  generalize x.memory.invoke s a.guard a.shape args = r at hw
  obtain ⟨access, m'⟩ := r
  have hsites := congrArg Prod.fst (tools_accessed { x with memory := m' } a.shape access)
  have hmemory : ({ x with memory := m' }.accessed a.shape access).2.memory = m' := by
    obtain ⟨sh, g⟩ := a
    cases sh <;> cases access <;> rfl
  refine ⟨?_, .inl rfl, ?_⟩
  · rw [hmemory]
    exact hw
  · exact congrArg (fun sites : Array (Sigma CallSite) =>
      (sites.toList.map fun site => site.2.relinks).sum) hsites

/-- Every step that does not manage spaces is work on the space that it is given. -/
theorem Fits.worked_step (h : x.Fits K l) {st : Step} (hst : st.manages = false)
    (hs : ∀ s', st.space? = some s' → s' = s) :
    ∃ counted, x.Worked s counted (x.step st).2 := by
  let P := fun r : Outcome × Session => ∃ counted, x.Worked s counted r.2
  have alike : ∀ r : Outcome × Session, r.2.memory = x.memory → r.2.sites = x.sites → P r :=
    fun _ hm hs => ⟨[], .of_eq hm hs _⟩
  have misuse : P (.misuse, x) := alike _ rfl rfl
  cases st with
  | openSpace c | openDefault | closeSpace s | resetCounters s => contradiction
  | allocate s kind =>
    obtain rfl := hs _ rfl
    exact onSpace_induction misuse fun hopen =>
      ⟨_, .of_work (Memory.work_allocatePage _ s kind) rfl hopen
        (Memory.count_relink_allocated _ _)⟩
  | allocateMany s kinds count =>
    obtain rfl := hs _ rfl
    refine onSpace_induction misuse fun hopen => ?_
    obtain ⟨counted, hw, hr⟩ := Memory.work_allocateMany s kinds.toArray count 0 none x.memory
    exact ⟨counted, .of_work hw rfl hopen hr⟩
  | allocateByThreads s threads each kind =>
    obtain rfl := hs _ rfl
    refine onSpace_induction misuse fun hopen => ?_
    obtain ⟨counted, hw, hr⟩ := Memory.work_allocateAll s kind (threads * each) x.memory
    exact ⟨counted, .of_work hw rfl hopen hr⟩
  | reserve s size kind =>
    obtain rfl := hs _ rfl
    exact onSpace_induction misuse fun hopen =>
      ⟨_, .of_work (Memory.work_reserve _ s size kind) rfl hopen
        (Memory.count_relink_allocated _ _)⟩
  | malloc i s size =>
    obtain rfl := hs _ rfl
    refine onSpace_induction misuse fun hopen => onKept_induction misuse fun a _ => ?_
    obtain ⟨counted, hw, hr, _⟩ := a.work_malloc x.memory s size
    exact ⟨counted, .of_work hw rfl hopen hr⟩
  | write s a v =>
    refine onSpace_induction misuse fun _ => ?_
    unfold Memory.write
    cases hw : x.memory.writeThrough? (x.memory.table s) a v with
    | none => exact alike _ rfl rfl
    | some m' => exact ⟨[], worked_writeThrough hw _⟩
  | snapshotWrite i a v =>
    refine onKept_induction misuse fun t _ => ?_
    cases hw : x.memory.writeThrough? t a v with
    | none => exact alike _ rfl rfl
    | some m' => exact ⟨[], worked_writeThrough hw _⟩
  | pageSet i p index v =>
    refine onKept_induction misuse fun t _ => ?_
    cases t.page? p with
    | none => exact alike _ rfl rfl
    | some page =>
      dsimp only
      cases hw : x.memory.store? page index v with
      | none => exact alike _ rfl rfl
      | some m' => exact ⟨[], worked_store? hw _⟩
  | handleSet i index v =>
    refine onKept_induction misuse fun p _ => ?_
    unfold Memory.storeChecked
    cases hw : x.memory.store? p index v with
    | none => exact alike _ rfl rfl
    | some m' => exact ⟨[], worked_store? hw _⟩
  | newSite sh name => exact ⟨[], worked_newSite x sh name _⟩
  | unlink i => exact ⟨[], worked_unlink x i _⟩
  | call i s vs =>
    obtain rfl := hs _ rfl
    exact h.worked_call i s vs
  | fill i s a stride count v increment =>
    obtain rfl := hs _ rfl
    exact h.worked_fill i s a stride count v increment
  | scan i s a stride count =>
    obtain rfl := hs _ rfl
    exact h.worked_scan i s a stride count
  | link s name sig vs parsed =>
    obtain rfl := hs _ rfl
    exact worked_link x s name sig vs parsed
  | invoke i s vs =>
    obtain rfl := hs _ rfl
    exact ⟨[], worked_invoke x i s vs⟩
  -- The others leave the memory and the sites as they are.
  | read s a | pageCount s | tableState s | config s | counters s | exposition s
  | keepSnapshot s =>
    exact onSpace_induction misuse fun _ => alike _ rfl rfl
  | snapshotState i | snapshotRead i a | snapshotKind i p | siteState i | usableAs i
  | cloneAccessor i | handleState i | handleGet i index | handleDump i | inspect subject =>
    exact onKept_induction misuse fun _ _ => alike _ rfl rfl
  | handleIs i j p =>
    exact onKept_induction misuse fun _ _ => onKept_induction misuse fun _ _ =>
      alike _ rfl rfl
  | guardState i s =>
    exact onSpace_induction misuse fun _ => onKept_induction misuse fun _ _ =>
      alike _ rfl rfl
  | exposePage i p =>
    refine onKept_induction misuse fun t _ => ?_
    cases t.page? p with
    | none => exact alike _ rfl rfl
    | some page => exact alike _ rfl rfl
  | pageGet i p index =>
    refine onKept_induction misuse fun t _ => ?_
    cases t.page? p with
    | none => exact alike _ rfl rfl
    | some page =>
      dsimp only
      cases x.memory.load? page index with
      | none => exact alike _ rfl rfl
      | some v => exact alike _ rfl rfl
  | samePage i p j q =>
    refine onKept_induction misuse fun t _ => onKept_induction misuse fun u _ => ?_
    split
    · exact alike _ rfl rfl
    · exact alike _ rfl rfl
  | newAllocator policy => exact alike _ rfl rfl
  | recordedEvents | recordedCount => exact alike _ rfl rfl

theorem Fits.worked_somewhere (h : x.Fits K l) {st : Step} (hst : st.manages = false) :
    ∃ s counted, x.Worked s counted (x.step st).2 := by
  -- A step that is given no space works on none, so that any will do.
  obtain ⟨counted, hworked⟩ := h.worked_step (s := st.space?.getD 0) hst fun s' hs => by simp [hs]
  exact ⟨_, counted, hworked⟩

inductive Managed (m : Memory) : Step → Memory → Prop where
  | same {st : Step} : Managed m st m
  | opened {st : Step} {config : Config} (hc : config.Valid) (d : Diagnostic) :
      Managed m st ((m.addSpace config).say d)
  | closed (s : SpaceId) : Managed m (.closeSpace s) (m.close s)
  | reset {s : SpaceId} (hs : s < m.spaces.size) :
      Managed m (.resetCounters s) (m.resetStatistics s)

theorem managed_step (x : Session) {st : Step} (hst : st.manages = true) :
    Managed x.memory st (x.step st).2.memory := by
  let P := fun r : Outcome × Session => Managed x.memory st r.2.memory
  cases st <;> try contradiction
  case openSpace config =>
    simp only [step, Memory.openSpace]
    cases hv : config.validate with
    | error e => exact .same
    | ok u => exact .opened ((Config.validate_eq_ok_iff config).mp hv) _
  case openDefault => exact .opened (by decide) _
  case closeSpace s => exact onSpace_induction (P := P) .same fun _ => .closed s
  case resetCounters s =>
    exact onSpace_induction (P := P) .same fun hopen => .reset (Memory.lt_size_of_isOpen hopen)

end Session

end PagedMemory
