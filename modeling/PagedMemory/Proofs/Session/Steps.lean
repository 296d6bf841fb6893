import PagedMemory.Proofs.Session.Kept

/-! Every step of a session does what the ledger has for it. -/

set_option autoImplicit false

namespace PagedMemory.Session

variable {K : SpaceId → PageTable → Prop} {x : Session} {l : Ledger}

theorem Fits.follows (h : x.Fits K l) {i : Nat} {sh : Shape} {site site' : CallSite sh}
    (hk : x.sites[i]? = some ⟨sh, site⟩) {s : SpaceId}
    (hf : CallSite.Follows s x.memory site site') :
    site'.Bound K ∧ Operation.parse site'.name = .ok site'.operation := by
  have hmem := Array.mem_of_getElem? hk
  refine ⟨hf.bound (h.known.sites _ hmem) (h.current s), ?_⟩
  rw [hf.name, hf.operation]
  exact h.known.named _ hmem

theorem Fits.callStep (h : x.Fits K l) (i : Nat) (s : SpaceId) (vs : List Value) :
    Taken K x l (.call i s vs) (x.callStep i s vs) := by
  refine onSpace_induction (h.misuse _) fun _ => onKept_induction (h.misuse _) ?_
  rintro ⟨sh, site⟩ hk
  refine onKept_induction (h.misuse _) ?_
  intro args hargs
  obtain rfl := Shape.args?_eq_some hargs
  have hcall := CallSite.call_spec s args h.sound (h.past.sites _ (Array.mem_of_getElem? hk))
  dsimp only
  generalize site.call x.memory s args = r at hcall
  obtain ⟨answer, site', m'⟩ := r
  obtain ⟨hf, hl⟩ := hcall
  obtain ⟨hb, hn⟩ := h.follows hk hf
  have he := hl.evolves
  cases answer with
  | error e => exact h.site he rfl rfl rfl i hb hn
  | ok v =>
    cases sh with
    | getElement => exact h.site he rfl rfl rfl i hb hn
    | setElement => exact h.site he rfl rfl rfl i hb hn
    | lookupPage =>
      obtain ⟨p, hp, rfl, _⟩ := hl
      have hsite : Taken K x l (.call i s [.pageId args]) (.nothing, { x with
          memory := m', sites := x.sites.setIfInBounds i ⟨.lookupPage, site'⟩ }) :=
        h.site he rfl rfl rfl i hb hn
      exact hsite.keepPage rfl rfl rfl rfl (h.current s (Memory.lt_size_of_page hp)) hp

theorem Fits.fillStep (h : x.Fits K l) (i : Nat) (s : SpaceId) (a : Address) (stride : UInt32)
    (count : Nat) (v increment : Int32) :
    Taken K x l (.fill i s a stride count v increment)
      (x.fillStep i s a stride count v increment) := by
  refine onSpace_induction (h.misuse _) fun _ => onKept_induction (h.misuse _) ?_
  rintro ⟨sh, site⟩ hk
  cases sh with
  | getElement => exact h.misuse _
  | lookupPage => exact h.misuse _
  | setElement =>
    have hfill := CallSite.fill_spec s stride increment count 0 a v site h.sound
      (h.past.sites _ (Array.mem_of_getElem? hk))
    dsimp only
    generalize site.fill s stride increment count 0 a v x.memory = r at hfill
    obtain ⟨answer, site', m'⟩ := r
    obtain ⟨hf, he, _⟩ := hfill
    obtain ⟨hb, hn⟩ := h.follows hk hf
    cases answer with
    | ok u => exact h.site he rfl rfl rfl i hb hn
    | error e => exact h.site he rfl rfl rfl i hb hn

theorem Fits.scanStep (h : x.Fits K l) (i : Nat) (s : SpaceId) (a : Address) (stride : UInt32)
    (count : Nat) :
    Taken K x l (.scan i s a stride count) (x.scanStep i s a stride count) := by
  refine onSpace_induction (h.misuse _) fun _ => onKept_induction (h.misuse _) ?_
  rintro ⟨sh, site⟩ hk
  cases sh with
  | setElement => exact h.misuse _
  | lookupPage => exact h.misuse _
  | getElement =>
    have hscan := CallSite.scan_spec s stride count 0 a site h.sound
      (h.past.sites _ (Array.mem_of_getElem? hk))
    dsimp only
    generalize site.scan s stride count 0 a x.memory = r at hscan
    obtain ⟨answer, site', m'⟩ := r
    obtain ⟨hf, hs, _⟩ := hscan
    obtain ⟨hb, hn⟩ := h.follows hk hf
    have he := Memory.evolves_of_storage_eq hs
    cases answer with
    | ok vs => exact h.site he rfl rfl rfl i hb hn
    | error e => exact h.site he rfl rfl rfl i hb hn

theorem Fits.keepLinked (h : x.Fits K l) {s : SpaceId} {name : String} {sig : Signature}
    {vs : List Value} {parsed : Bool} {answer : Except MemoryError (Option Linked) × Memory}
    (hs : answer.2.storage = x.memory.storage)
    (hl : ∀ a, answer.1 = .ok (some a) →
      s < x.memory.spaces.size ∧ ∃ kind, a.guard = ⟨s, x.memory.table s, kind⟩) :
    Taken K x l (.link s name sig vs parsed) (x.keepLinked answer) := by
  obtain ⟨result, m'⟩ := answer
  have he := Memory.evolves_of_storage_eq hs
  unfold Session.keepLinked
  cases result with
  | error e => exact h.memory he rfl rfl rfl
  | ok kept =>
    cases kept with
    | none => exact h.memory he rfl rfl rfl
    | some a =>
      obtain ⟨hlt, kind, hg⟩ := hl a rfl
      have ha : K a.guard.owner a.guard.table := by
        rw [hg]
        exact h.current s hlt
      exact h.accessor he rfl rfl rfl ha

theorem Fits.linkStep (h : x.Fits K l) (s : SpaceId) (name : String) (sig : Signature)
    (vs : List Value) (parsed : Bool) :
    Taken K x l (.link s name sig vs parsed) (x.linkStep s name sig vs parsed) := by
  refine onSpace_induction (h.misuse _) fun _ => ?_
  have hnamed : ∀ a, (x.memory.linkNamed s name sig vs).1 = .ok (some a) →
      s < x.memory.spaces.size ∧ ∃ kind, a.guard = ⟨s, x.memory.table s, kind⟩ := by
    unfold Memory.linkNamed
    intro a ha
    split at ha
    · exact Memory.guard_of_link ha
    · simp at ha
  cases parsed with
  | true =>
    cases Operation.parse name with
    | error e => exact h.same rfl rfl rfl
    | ok op =>
      exact h.keepLinked (Memory.storage_link _ s op sig vs) fun _ => Memory.guard_of_link
  | false => exact h.keepLinked (Memory.storage_linkNamed _ s name sig vs) hnamed

theorem Fits.invokeStep (h : x.Fits K l) (i : Nat) (s : SpaceId) (vs : List Value) :
    Taken K x l (.invoke i s vs) (x.invokeStep i s vs) := by
  refine onSpace_induction (h.misuse _) fun _ => onKept_induction (h.misuse _) ?_
  intro a ha
  refine onKept_induction (h.misuse _) ?_
  intro args hargs
  obtain rfl := Shape.args?_eq_some hargs
  obtain ⟨sh, g⟩ := a
  have hg : x.memory.Past g.owner g.table := h.past.accessors _ (Array.mem_of_getElem? ha)
  dsimp only
  cases hserved : g.served? x.memory s (sh.page args) with
  | none =>
    rw [Memory.invoke_of_not_served hserved]
    cases sh with
    | getElement => exact h.same rfl rfl rfl
    | setElement => exact h.same rfl rfl rfl
    | lookupPage => exact h.same rfl rfl rfl
  | some p =>
    obtain ⟨_, _, hp, _⟩ := (Guard.served?_eq_some_iff h.sound hg).mp hserved
    have he := Memory.evolves_perform hp
    rw [Memory.invoke_of_served hserved]
    cases sh with
    | getElement => exact h.memory he rfl rfl rfl
    | setElement => exact h.memory he rfl rfl rfl
    | lookupPage =>
      have hsame : Taken K x l (.invoke i s [.pageId args]) (.nothing, x) := h.same rfl rfl rfl
      exact hsame.keepPage rfl rfl rfl rfl (h.current s (Memory.lt_size_of_page hp)) hp

theorem Fits.snapshotWrite (h : x.Fits K l) (i : Nat) (a : Address) (v : Int32) :
    Taken K x l (.snapshotWrite i a v) (x.step (.snapshotWrite i a v)) := by
  refine onKept_induction (h.misuse _) ?_
  intro t ht
  obtain ⟨s, ho, hp⟩ := h.past.snapshot ht
  cases hw : x.memory.writeThrough? t a v with
  | none => exact h.same rfl rfl rfl
  | some m' =>
    refine h.memory (hp.writeThrough? hw) ?_ rfl rfl
    simp [Ledger.written, Outcome.isTrue, ho]

theorem Fits.pageOf? (h : x.Fits K l) {i : Nat} {t : PageTable} (ht : x.snapshots[i]? = some t)
    {q : PageId} {p : Page} (hp : t.page? q = some p) :
    ∃ s, l.owners[i]? = some s ∧ K s t ∧
      ∀ e, x.memory.pageOf? ⟨s, q, e⟩ = some p := by
  obtain ⟨s, ho, hpast⟩ := h.past.snapshot ht
  obtain ⟨s', ho', hknown⟩ := h.known.snapshot ht
  obtain rfl := Option.some.inj (ho.symm.trans ho')
  exact ⟨s, ho, hknown, fun e => hpast.page? hp⟩

theorem Fits.pageSet (h : x.Fits K l) (i : Nat) (q : PageId) (n : Nat) (v : Int32) :
    Taken K x l (.pageSet i q n v) (x.step (.pageSet i q n v)) := by
  refine onKept_induction (h.misuse _) ?_
  intro t ht
  cases hp : t.page? q with
  | none => exact h.same rfl rfl rfl
  | some p =>
    obtain ⟨s, ho, _, hcells⟩ := h.pageOf? ht hp
    dsimp only
    by_cases hn : n < elementsPerPage
    · rw [Memory.store?_of_lt p hn]
      refine h.memory (Memory.evolves_store (hcells ⟨n, hn⟩) v) ?_ rfl rfl
      simp [Ledger.written, Outcome.isDone, ho, Cell.numbered?, hn]
    · rw [Memory.store?_of_not_lt p hn]
      exact h.same rfl rfl rfl

theorem Fits.handleSet (h : x.Fits K l) (i n : Nat) (v : Int32) :
    Taken K x l (.handleSet i n v) (x.step (.handleSet i n v)) := by
  refine onKept_induction (h.misuse _) ?_
  intro p hp
  obtain ⟨s, q, t, ho, hpast, hq⟩ := h.past.handle hp
  unfold Memory.storeChecked
  by_cases hn : n < elementsPerPage
  · rw [Memory.store?_of_lt p hn]
    have hcell : x.memory.pageOf? ⟨s, q, ⟨n, hn⟩⟩ = some p := hpast.page? hq
    refine h.memory (Memory.evolves_store hcell v) ?_ rfl rfl
    simp [Ledger.written, Outcome.isDone, Outcome.ofExcept, ho, Cell.numbered?, hn]
  · rw [Memory.store?_of_not_lt p hn]
    exact h.same rfl rfl rfl

theorem Fits.exposePage (h : x.Fits K l) (i : Nat) (q : PageId) :
    Taken K x l (.exposePage i q) (x.step (.exposePage i q)) := by
  refine onKept_induction (h.misuse _) ?_
  intro t ht
  cases hp : t.page? q with
  | none => exact h.same rfl rfl rfl
  | some p =>
    obtain ⟨s, ho, hknown, _⟩ := h.pageOf? ht hp
    have hsame : Taken K x l (.exposePage i q) (.nothing, x) := h.same rfl rfl rfl
    refine hsame.keepPage rfl rfl rfl ?_ hknown hp
    simp [Ledger.keptOrigin, Session.keepPage, Outcome.keepsPage, ho]

theorem Fits.keepSnapshot (h : x.Fits K l) (s : SpaceId) :
    Taken K x l (.keepSnapshot s) (x.step (.keepSnapshot s)) := by
  unfold Session.step
  refine onSpace_induction (h.misuse _) ?_
  intro hopen
  have hk := h.known
  refine ⟨.refl, ⟨by simp, List.prefix_rfl, List.prefix_rfl⟩, ?_, ?_, hk.accessors, hk.sites,
    hk.named⟩
  · have hs : K s (x.memory.table s) := h.current s (Memory.lt_size_of_isOpen hopen)
    have happend := List.rel_append hk.snapshots (.cons hs .nil)
    simpa [Ledger.after, Ledger.keptOwner, Outcome.keepsTable] using happend
  · simpa [Ledger.after, Ledger.keptOrigin] using hk.handles

theorem Fits.newSite (h : x.Fits K l) (sh : Shape) (name : String) :
    Taken K x l (.newSite sh name) (x.step (.newSite sh name)) := by
  simp only [Session.step]
  cases hsite : CallSite.ofName sh name with
  | error e => exact h.same rfl rfl rfl
  | ok site =>
    have hk : x.Keeps K (l.after (.newSite sh name) (.siteMade x.sites.size)) :=
      h.known.after rfl rfl
    refine ⟨.refl, ⟨List.prefix_rfl, List.prefix_rfl, List.prefix_rfl⟩, hk.snapshots, hk.handles,
      hk.accessors, ?_, ?_⟩
    · intro kept hmem
      rcases Array.mem_push.mp hmem with hmem | rfl
      · exact hk.sites kept hmem
      · exact CallSite.bound_ofName hsite
    · intro kept hmem
      rcases Array.mem_push.mp hmem with hmem | rfl
      · exact hk.named kept hmem
      · exact CallSite.parse_ofName hsite

theorem Fits.unlink (h : x.Fits K l) (i : Nat) :
    Taken K x l (.unlink i) (x.step (.unlink i)) := by
  refine onKept_induction (h.misuse _) ?_
  rintro ⟨sh, site⟩ hk
  have hn := h.known.named _ (Array.mem_of_getElem? hk)
  refine h.site .refl rfl rfl rfl i ?_ hn
  intro g hg
  simp [CallSite.unlink] at hg

/-- Every step does what the ledger has for it. -/
theorem Fits.step (h : x.Fits K l) (st : Step) : Taken K x l st (x.step st) := by
  unfold Session.step
  cases st with
  | openSpace c => exact h.memory (Memory.advance_openSpace x.memory c).evolves rfl rfl rfl
  | openDefault =>
    have hc : Config.Valid {} := by decide
    exact h.memory (Memory.advance_openValid x.memory hc).evolves rfl rfl rfl
  | closeSpace s =>
    exact onSpace_induction (h.misuse _) fun _ =>
      h.memory (Memory.advance_close x.memory s).evolves rfl rfl rfl
  | allocate s kind =>
    exact onSpace_induction (h.misuse _) fun _ =>
      h.memory (Memory.advance_allocatePage x.memory s kind).evolves rfl rfl rfl
  | allocateMany s kinds count =>
    exact onSpace_induction (h.misuse _) fun _ =>
      h.memory (Memory.evolves_allocateMany s kinds.toArray count 0 none x.memory) rfl rfl rfl
  | allocateByThreads s threads each kind =>
    exact onSpace_induction (h.misuse _) fun _ =>
      h.memory (Memory.evolves_allocateAll s kind (threads * each) x.memory) rfl rfl rfl
  | reserve s size kind =>
    exact onSpace_induction (h.misuse _) fun _ =>
      h.memory (Memory.advance_reserve x.memory s size kind).evolves rfl rfl rfl
  | write s a v =>
    refine onSpace_induction (h.misuse _) ?_
    intro hopen
    have hpast := h.sound.past_table (Memory.lt_size_of_isOpen hopen)
    unfold Memory.write
    cases hw : x.memory.writeThrough? (x.memory.table s) a v with
    | none => exact h.same rfl rfl rfl
    | some m' => exact h.memory (hpast.writeThrough? hw) rfl rfl rfl
  | resetCounters s =>
    exact onSpace_induction (h.misuse _) fun _ =>
      h.memory (Memory.evolves_of_storage_eq (Memory.storage_resetStatistics _ s)) rfl rfl rfl
  | malloc i s size =>
    refine onSpace_induction (h.misuse _) fun _ => onKept_induction (h.misuse _) fun a _ => ?_
    have ht : Taken K x l (.malloc i s size) (.nothing, _) :=
      h.memory (BumpAllocator.advance_malloc a x.memory s size).evolves rfl rfl rfl
    have hk := ht.keeps
    have hg := ht.grows
    exact ⟨ht.evolves, ⟨hg.snapshots, hg.handles, hg.accessors⟩, hk.snapshots, hk.handles,
      hk.accessors, hk.sites, hk.named⟩
  | newAllocator policy =>
    have ht : Taken K x l (.newAllocator policy) (.nothing, x) := h.same rfl rfl rfl
    have hk := ht.keeps
    have hg := ht.grows
    exact ⟨ht.evolves, ⟨hg.snapshots, hg.handles, hg.accessors⟩, hk.snapshots, hk.handles,
      hk.accessors, hk.sites, hk.named⟩
  | keepSnapshot s => exact h.keepSnapshot s
  | snapshotWrite i a v => exact h.snapshotWrite i a v
  | exposePage i p => exact h.exposePage i p
  | pageSet i p index v => exact h.pageSet i p index v
  | newSite sh name => exact h.newSite sh name
  | unlink i => exact h.unlink i
  | call i s vs => exact h.callStep i s vs
  | fill i s a stride count v increment => exact h.fillStep i s a stride count v increment
  | scan i s a stride count => exact h.scanStep i s a stride count
  | link s name sig vs parsed => exact h.linkStep s name sig vs parsed
  | cloneAccessor i =>
    refine onKept_induction (h.misuse _) ?_
    intro a ha
    exact h.accessor .refl rfl rfl rfl (h.known.accessors a (Array.mem_of_getElem? ha))
  | invoke i s vs => exact h.invokeStep i s vs
  | handleSet i index v => exact h.handleSet i index v
  -- The others look and leave the session as it is.
  | read s a => exact onSpace_induction (h.misuse _) fun _ => h.same rfl rfl rfl
  | pageCount s => exact onSpace_induction (h.misuse _) fun _ => h.same rfl rfl rfl
  | tableState s => exact onSpace_induction (h.misuse _) fun _ => h.same rfl rfl rfl
  | config s => exact onSpace_induction (h.misuse _) fun _ => h.same rfl rfl rfl
  | counters s => exact onSpace_induction (h.misuse _) fun _ => h.same rfl rfl rfl
  | exposition s => exact onSpace_induction (h.misuse _) fun _ => h.same rfl rfl rfl
  | snapshotState i => exact onKept_induction (h.misuse _) fun _ _ => h.same rfl rfl rfl
  | snapshotRead i a => exact onKept_induction (h.misuse _) fun _ _ => h.same rfl rfl rfl
  | snapshotKind i p => exact onKept_induction (h.misuse _) fun _ _ => h.same rfl rfl rfl
  | pageGet i p index =>
    refine onKept_induction (h.misuse _) fun t _ => ?_
    cases t.page? p with
    | none => exact h.same rfl rfl rfl
    | some page =>
      dsimp only
      cases x.memory.load? page index with
      | none => exact h.same rfl rfl rfl
      | some v => exact h.same rfl rfl rfl
  | samePage i p j q =>
    refine onKept_induction (h.misuse _) fun t _ => onKept_induction (h.misuse _) fun u _ => ?_
    split
    · exact h.same rfl rfl rfl
    · exact h.same rfl rfl rfl
  | siteState i => exact onKept_induction (h.misuse _) fun _ _ => h.same rfl rfl rfl
  | guardState i s =>
    exact onSpace_induction (h.misuse _) fun _ => onKept_induction (h.misuse _) fun _ _ =>
      h.same rfl rfl rfl
  | usableAs i => exact onKept_induction (h.misuse _) fun _ _ => h.same rfl rfl rfl
  | handleState i => exact onKept_induction (h.misuse _) fun _ _ => h.same rfl rfl rfl
  | handleGet i index => exact onKept_induction (h.misuse _) fun _ _ => h.same rfl rfl rfl
  | handleDump i => exact onKept_induction (h.misuse _) fun _ _ => h.same rfl rfl rfl
  | handleIs i j p =>
    exact onKept_induction (h.misuse _) fun _ _ => onKept_induction (h.misuse _) fun _ _ =>
      h.same rfl rfl rfl
  | inspect subject => exact onKept_induction (h.misuse _) fun _ _ => h.same rfl rfl rfl
  | recordedEvents => exact h.same rfl rfl rfl
  | recordedCount => exact h.same rfl rfl rfl

end PagedMemory.Session
