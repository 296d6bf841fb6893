import PagedMemory.Proofs.Call.Support
import PagedMemory.Proofs.Session.Frame

/-! Support over whole runs. Whatever a session does, a call site stays at its place with its
name, and what the name decided when the site was made holds ever after. -/

set_option autoImplicit false

namespace PagedMemory

namespace CallSite

variable {m : Memory}

theorem support_fill (s : SpaceId) (stride : UInt32) (increment : Int32) (n i : Nat) (a : Address)
    (v : Int32) (site : CallSite .setElement) (hm : m.Sound) (hb : site.Bound m.Past) :
    Heir site (site.fill s stride increment n i a v m).2.1 ∧
      ∀ place e, (site.fill s stride increment n i a v m).1 = .error (place, e) →
        ∃ args, site.FailsWith args e := by
  induction n generalizing i a v site m with
  | zero => exact ⟨.refl site, fun _ _ h => by contradiction⟩
  | succ n ih =>
    have hspec := call_spec s (a, v) hm hb
    have hheir := heir_call hm site s (a, v)
    have hfails := @failsWith_call _ site m s (a, v) hm
    unfold fill
    generalize site.call m s (a, v) = r at hspec hheir hfails
    obtain ⟨answer, site₁, m₁⟩ := r
    obtain ⟨hf, hl⟩ := hspec
    cases answer with
    | error e =>
      refine ⟨hheir, ?_⟩
      intro place e' h
      cases h
      exact ⟨(a, v), hfails rfl⟩
    | ok u =>
      obtain ⟨hrest, hrestfails⟩ := ih (i + 1) (a + stride) (v + increment) site₁
        (hl.evolves.sound hm) (hf.past hm hb hl.evolves)
      refine ⟨hheir.trans hrest, ?_⟩
      intro place e h
      obtain ⟨args, he⟩ := hrestfails place e h
      exact ⟨args, hheir.failsWith.mp he⟩

theorem support_scan (s : SpaceId) (stride : UInt32) (n i : Nat) (a : Address)
    (site : CallSite .getElement) (hm : m.Sound) (hb : site.Bound m.Past) :
    Heir site (site.scan s stride n i a m).2.1 ∧
      ∀ place e, (site.scan s stride n i a m).1 = .error (place, e) →
        ∃ args, site.FailsWith args e := by
  induction n generalizing i a site m with
  | zero => exact ⟨.refl site, fun _ _ h => by contradiction⟩
  | succ n ih =>
    have hspec := call_spec s a hm hb
    have hheir := heir_call hm site s a
    have hfails := @failsWith_call _ site m s a hm
    unfold scan
    generalize site.call m s a = r at hspec hheir hfails
    obtain ⟨answer, site₁, m₁⟩ := r
    obtain ⟨hf, hl⟩ := hspec
    cases answer with
    | error e =>
      refine ⟨hheir, ?_⟩
      intro place e' h
      cases h
      exact ⟨a, hfails rfl⟩
    | ok u =>
      have hrest := ih (i + 1) (a + stride) site₁ (hl.evolves.sound hm)
        (hf.past hm hb hl.evolves)
      dsimp only
      generalize scan s stride n (i + 1) (a + stride) site₁ m₁ = r at hrest
      obtain ⟨answer₂, site₂, m₂⟩ := r
      obtain ⟨hrest, hrestfails⟩ := hrest
      cases answer₂ with
      | ok vs => exact ⟨hheir.trans hrest, fun _ _ h => by contradiction⟩
      | error e₂ =>
        refine ⟨hheir.trans hrest, ?_⟩
        intro place e h
        cases h
        obtain ⟨args, he⟩ := hrestfails place e rfl
        exact ⟨args, hheir.failsWith.mp he⟩

end CallSite

namespace Outcome

def callError? : Outcome → Option MemoryError
  | .failed e | .stopped _ e => some e
  | _ => none

end Outcome

namespace Session

variable {K : SpaceId → PageTable → Prop} {x y z : Session} {l : Ledger}

/-- The sites of one session are there in the other, at their places and as calls may have
left them. -/
def Inherits (x y : Session) : Prop :=
  ∀ (i : Nat) (sh : Shape) (site : CallSite sh), x.sites[i]? = some ⟨sh, site⟩ →
    ∃ site' : CallSite sh, y.sites[i]? = some ⟨sh, site'⟩ ∧ CallSite.Heir site site'

theorem Inherits.trans (h : x.Inherits y) (h' : y.Inherits z) : x.Inherits z := by
  intro i sh site hk
  obtain ⟨site', hk', hheir⟩ := h i sh site hk
  obtain ⟨site'', hk'', hheir'⟩ := h' i sh site' hk'
  exact ⟨site'', hk'', hheir.trans hheir'⟩

theorem Inherits.of_sites_eq (h : y.sites = x.sites) : x.Inherits y :=
  fun _ _ site hk => ⟨site, h ▸ hk, .refl site⟩

theorem Inherits.of_push {site : Sigma CallSite} (h : y.sites = x.sites.push site) :
    x.Inherits y := by
  intro i sh site' hk
  obtain ⟨hi, hget⟩ := Array.getElem?_eq_some_iff.mp hk
  refine ⟨site', ?_, .refl site'⟩
  rw [h, Array.getElem?_push_lt hi, hget]

theorem Inherits.of_set {sh : Shape} {site site' : CallSite sh} {i : Nat}
    (hk : x.sites[i]? = some ⟨sh, site⟩) (hy : y.sites = x.sites.setIfInBounds i ⟨sh, site'⟩)
    (hheir : CallSite.Heir site site') : x.Inherits y := by
  intro j sh' other hj
  by_cases hij : i = j
  · subst hij
    have hi : i < x.sites.size := (Array.getElem?_eq_some_iff.mp hk).1
    cases hk.symm.trans hj
    exact ⟨site', by simp [hy, hi], hheir⟩
  · refine ⟨other, ?_, .refl other⟩
    rw [hy, Array.getElem?_setIfInBounds_ne hij, hj]

/-- A use of the site at a place, with this result: no site is lost, and an error is one that
the site may fail with. -/
structure Uses (x : Session) (i : Nat) (r : Outcome × Session) : Prop where
  inherits : x.Inherits r.2
  failsWith : ∀ e, r.1.callError? = some e → ∃ (sh : Shape) (site : CallSite sh) (args : sh.Args),
    x.sites[i]? = some ⟨sh, site⟩ ∧ site.FailsWith args e

theorem Uses.of_none {o : Outcome} {i : Nat} (ho : o.callError? = none) (h : x.Inherits y) :
    x.Uses i (o, y) :=
  ⟨h, fun e he => by simp [ho] at he⟩

theorem uses_misuse (x : Session) (i : Nat) : x.Uses i (.misuse, x) :=
  .of_none rfl (.of_sites_eq rfl)

theorem Fits.uses_call (h : x.Fits K l) (i : Nat) (s : SpaceId) (vs : List Value) :
    x.Uses i (x.callStep i s vs) := by
  refine onSpace_induction (x.uses_misuse i) fun _ => onKept_induction (x.uses_misuse i) ?_
  rintro ⟨sh, site⟩ hk
  refine onKept_induction (x.uses_misuse i) ?_
  intro args _
  have hheir := CallSite.heir_call h.sound site s args
  have hfails := @CallSite.failsWith_call _ site x.memory s args h.sound
  dsimp only
  generalize site.call x.memory s args = r at hheir hfails
  obtain ⟨answer, site', m'⟩ := r
  cases answer with
  | error e =>
    refine ⟨.of_set hk rfl hheir, ?_⟩
    intro e' he
    cases he
    exact ⟨sh, site, args, hk, hfails rfl⟩
  | ok v => cases sh <;> exact .of_none rfl (.of_set hk rfl hheir)

theorem Fits.uses_fill (h : x.Fits K l) (i : Nat) (s : SpaceId) (a : Address) (stride : UInt32)
    (count : Nat) (v increment : Int32) :
    x.Uses i (x.fillStep i s a stride count v increment) := by
  refine onSpace_induction (x.uses_misuse i) fun _ => onKept_induction (x.uses_misuse i) ?_
  rintro ⟨sh, site⟩ hk
  cases sh with
  | getElement => exact x.uses_misuse i
  | lookupPage => exact x.uses_misuse i
  | setElement =>
    have hfill := CallSite.support_fill s stride increment count 0 a v site h.sound
      (h.past.sites _ (Array.mem_of_getElem? hk))
    dsimp only
    generalize site.fill s stride increment count 0 a v x.memory = r at hfill
    obtain ⟨answer, site', m'⟩ := r
    obtain ⟨hheir, hfails⟩ := hfill
    cases answer with
    | ok u => exact .of_none rfl (.of_set hk rfl hheir)
    | error e =>
      refine ⟨.of_set hk rfl hheir, ?_⟩
      intro e' he
      cases he
      obtain ⟨args, he⟩ := hfails _ _ rfl
      exact ⟨_, site, args, hk, he⟩

theorem Fits.uses_scan (h : x.Fits K l) (i : Nat) (s : SpaceId) (a : Address) (stride : UInt32)
    (count : Nat) : x.Uses i (x.scanStep i s a stride count) := by
  refine onSpace_induction (x.uses_misuse i) fun _ => onKept_induction (x.uses_misuse i) ?_
  rintro ⟨sh, site⟩ hk
  cases sh with
  | setElement => exact x.uses_misuse i
  | lookupPage => exact x.uses_misuse i
  | getElement =>
    have hscan := CallSite.support_scan s stride count 0 a site h.sound
      (h.past.sites _ (Array.mem_of_getElem? hk))
    dsimp only
    generalize site.scan s stride count 0 a x.memory = r at hscan
    obtain ⟨answer, site', m'⟩ := r
    obtain ⟨hheir, hfails⟩ := hscan
    cases answer with
    | ok vs => exact .of_none rfl (.of_set hk rfl hheir)
    | error e =>
      refine ⟨.of_set hk rfl hheir, ?_⟩
      intro e' he
      cases he
      obtain ⟨args, he⟩ := hfails _ _ rfl
      exact ⟨_, site, args, hk, he⟩

theorem uses_unlink (x : Session) (i : Nat) : x.Uses i (x.step (.unlink i)) := by
  refine onKept_induction (x.uses_misuse i) ?_
  rintro ⟨sh, site⟩ hk
  exact .of_none rfl (.of_set hk rfl (CallSite.heir_unlink site))

theorem Fits.uses_step (h : x.Fits K l) {st : Step} {i : Nat} (hs : st.site? = some i) :
    x.Uses i (x.step st) := by
  cases st <;> cases hs
  · exact x.uses_unlink i
  · exact h.uses_call i _ _
  · exact h.uses_fill i _ _ _ _ _ _
  · exact h.uses_scan i _ _ _ _

theorem inherits_newSite (x : Session) (sh : Shape) (name : String) :
    x.Inherits (x.step (.newSite sh name)).2 := by
  simp only [step]
  cases CallSite.ofName sh name with
  | error e => exact .of_sites_eq rfl
  | ok site => exact .of_push rfl

theorem Fits.inherits_step (h : x.Fits K l) (st : Step) : x.Inherits (x.step st).2 := by
  cases hs : st.site? with
  | some i => exact (h.uses_step hs).inherits
  | none =>
    cases hn : st.makesSite with
    | false => exact .of_sites_eq (sites_step x hs hn)
    | true =>
      cases st <;> try contradiction
      exact x.inherits_newSite _ _

theorem Fits.inherits_run (h : x.Fits K l) (sts : List Step) : x.Inherits (x.run sts).2 := by
  induction sts generalizing x l K with
  | nil => exact .of_sites_eq rfl
  | cons st sts ih => exact (h.inherits_step st).trans (ih (h.nextPast st))

/-- The errors that calls through the site at a place may end with: a call with nothing in
between, one that others grow the space during, and the steps that call. -/
inductive CallFails (x : Session) (i : Nat) {sh : Shape} (site : CallSite sh) : MemoryError → Prop
  | whole {e : MemoryError} (s : SpaceId) (args : sh.Args)
      (h : (site.call x.memory s args).1 = .error e) : CallFails x i site e
  | underway {e : MemoryError} (s : SpaceId) (args : sh.Args) (mvs : List CallSite.Move)
      (h : ((CallSite.Underway.start site x.memory).run s args mvs).stage = .done (.error e)) :
      CallFails x i site e
  | step {e : MemoryError} (st : Step) (hs : st.site? = some i)
      (h : (x.step st).1.callError? = some e) : CallFails x i site e

theorem Fits.failsWith_of_callFails (h : x.Fits K l) {i : Nat} {sh : Shape} {site : CallSite sh}
    {e : MemoryError} (hk : x.sites[i]? = some ⟨sh, site⟩) (he : x.CallFails i site e) :
    ∃ args, site.FailsWith args e := by
  cases he with
  | whole s args ha => exact ⟨args, CallSite.failsWith_call h.sound ha⟩
  | underway s args mvs hstage =>
    exact ⟨args, ((CallSite.Underway.justified_start site x.memory args).run s mvs).failed e hstage⟩
  | step st hs ho =>
    obtain ⟨sh', site', args, hk', hfails⟩ := (h.uses_step hs).failsWith e ho
    cases hk.symm.trans hk'
    exact ⟨args, hfails⟩

theorem Fits.made (h : x.Fits K l) (sh : Shape) {name : String} {op : Operation}
    (hname : Operation.parse name = .ok op) (sts : List Step) :
    (x.step (.newSite sh name)).1 = .siteMade x.sites.size ∧ ∃ site : CallSite sh,
      ((x.step (.newSite sh name)).2.run sts).2.sites[x.sites.size]? = some ⟨sh, site⟩ ∧
        CallSite.Heir { name := name, operation := op } site := by
  have hmade : x.step (.newSite sh name) = (.siteMade x.sites.size,
      { x with sites := x.sites.push ⟨sh, { name := name, operation := op }⟩ }) := by
    simp only [Session.step, CallSite.ofName, hname]
  have hruns := (h.nextPast (.newSite sh name)).inherits_run sts
  rw [hmade] at hruns ⊢
  exact ⟨rfl, hruns _ sh _ Array.getElem?_push_size⟩

/-- Whether a site is supported is decided by its name, for good. If the name has the form for
the site's access and lists the element namespace, no call through the site is ever answered
that it is not supported. Otherwise every call is, and the site is never linked, not even in
the middle of a call. No call at all finds an accessor of the wrong kind. -/
theorem support_is_decided_by_name {x : Session} (hx : x.Reachable) (sh : Shape) {name : String}
    {op : Operation} (hname : Operation.parse name = .ok op) (sts : List Step) :
    let i := x.sites.size
    let made := x.step (.newSite sh name)
    let y := (made.2.run sts).2
    made.1 = .siteMade i ∧ ∃ site : CallSite sh, y.sites[i]? = some ⟨sh, site⟩ ∧
      site.name = name ∧
      (∀ e, y.CallFails i site e → (∀ cause, e ≠ .internal cause) ∧
        ((∃ operation reason, e = .unsupportedOperation operation reason) ↔ ¬ sh.Named name)) ∧
      (¬ sh.Named name → site.isLinked = false ∧ site.relinks = 0 ∧
        (∀ s args, (site.call y.memory s args).1 = .error (.unsupportedOperation name
          s!"no implementation for {sh.signature.text}")) ∧
        ∀ s args mvs, ((CallSite.Underway.start site y.memory).run s args mvs).site = site) := by
  intro i made y
  obtain ⟨l, hf⟩ := hx.fits
  obtain ⟨hmade, site, hk, hheir⟩ := hf.made sh hname sts
  have hmadefits : made.2.Fits (fun _ _ => True) _ :=
    (hf.nextPast (.newSite sh name)).mono fun _ _ _ => trivial
  have hy := (hmadefits.run sts fun _ _ _ _ => trivial).1
  have hnamed : sh.Named name ↔ site.operation.Serves sh :=
    (Shape.named_iff_serves hname).trans hheir.serves.symm
  refine ⟨hmade, site, hk, hheir.name, ?_, ?_⟩
  · intro e he
    obtain ⟨args, hfails⟩ := hy.failsWith_of_callFails hk he
    exact ⟨hfails.ne_internal, hfails.unsupported_iff.trans (not_congr hnamed.symm)⟩
  · intro hnot
    have hop : ¬ site.operation.Serves sh := mt hnamed.mpr hnot
    obtain rfl := hheir.idle (mt hheir.serves.mpr hop) rfl
    refine ⟨rfl, rfl, ?_, ?_⟩
    · exact fun s args => CallSite.call_of_not_serves hy.sound hop rfl s args
    · intro s args mvs
      exact ((CallSite.Underway.justified_start _ y.memory args).run s mvs).heir.idle hop rfl

/-- A getter for properties and elements may fail, but never for being unsupported. With one
colon more its name has another target, and nothing links it. -/
theorem support_is_decided_by_name_two_getters :
    let x := ((start 1 {}).run [.openDefault, .allocate 0 none]).2
    let sts : List Step := [.call 0 0 [.address 8]]
    let supported := ((x.step (.newSite .getElement "GET:PROPERTY|ELEMENT:memory")).2.run sts).2
    let unsupported := ((x.step (.newSite .getElement "GET:PROPERTY|ELEMENT:memory:")).2.run sts).2
    (supported.step (.call 0 0 [.address 4096])).1.callError? = some (.unmappedAddress 4096) ∧
      (∀ st operation reason, st.site? = some 0 →
        (supported.step st).1.callError? ≠ some (.unsupportedOperation operation reason)) ∧
      ∃ site : CallSite .getElement, unsupported.sites[0]? = some ⟨.getElement, site⟩ ∧
        site.isLinked = false ∧ ∀ s a, (site.call unsupported.memory s a).1 =
          .error (.unsupportedOperation "GET:PROPERTY|ELEMENT:memory:"
            "no implementation for (Address) -> Int") := by
  intro x sts supported unsupported
  have hx : x.Reachable := ⟨1, {}, _, _, rfl⟩
  have hread : Operation.parse "GET:PROPERTY|ELEMENT:memory" =
      .ok ⟨.get, [.property, .element], some "memory"⟩ := by rfl
  have hother : Operation.parse "GET:PROPERTY|ELEMENT:memory:" =
      .ok ⟨.get, [.property, .element], some "memory:"⟩ := by rfl
  have hnamed : Shape.getElement.Named "GET:PROPERTY|ELEMENT:memory" :=
    (Shape.named_iff_serves hread).mpr ⟨rfl, by simp, rfl⟩
  have hnot : ¬ Shape.getElement.Named "GET:PROPERTY|ELEMENT:memory:" := by
    intro h
    have htarget := ((Shape.named_iff_serves hother).mp h).target
    contradiction
  have hfault : (supported.step (.call 0 0 [.address 4096])).1.callError? =
      some (.unmappedAddress 4096) := by decide +kernel
  refine ⟨hfault, ?_, ?_⟩
  · intro st operation reason hs ho
    obtain ⟨_, site, _, _, hfails, _⟩ := support_is_decided_by_name hx .getElement hread sts
    exact (hfails _ (.step st hs ho)).2.mp ⟨operation, reason, rfl⟩ hnamed
  · obtain ⟨_, site, hk, _, _, hrefused⟩ := support_is_decided_by_name hx .getElement hother sts
    obtain ⟨hlinked, _, hcall, _⟩ := hrefused hnot
    exact ⟨site, hk, hlinked, hcall⟩

end Session

end PagedMemory
