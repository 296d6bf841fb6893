import PagedMemory.Proofs.Call.Interference
import PagedMemory.Proofs.Operation.Grammar

/-! What a call site supports. Its name alone decides that: the name has the form of the
site's access and lists the element namespace, or no call through the site is ever served.
However a call is interrupted, it fails for no other reason than that, or that its page is
not mapped. -/

set_option autoImplicit false

namespace PagedMemory

namespace Shape

def form : Shape → String → String
  | .getElement, n => "GET:" ++ n ++ ":memory"
  | .setElement, n => "SET:" ++ n ++ ":memory"
  | .lookupPage, n => "GET:" ++ n ++ ":pages"

/-- The name has the form for this access, and the element namespace among the pieces of its
middle part. -/
def Named (sh : Shape) (name : String) : Prop :=
  ∃ n ps, name = sh.form n ∧ ':' ∉ n.toList ∧ BarPieces n ps ∧ "ELEMENT" ∈ ps

theorem form_eq (sh : Shape) (n : String) :
    sh.form n = sh.verb.text ++ ":" ++ n ++ ":" ++ sh.target := by
  rw [← String.toList_inj]
  cases sh <;> simp [form, verb, target, memoryTarget, pagesTarget, Verb.text, Verb.wire]

theorem divided_form (sh : Shape) {n : String} (hn : ':' ∉ n.toList) :
    Operation.Divided (sh.form n) sh.verb.text (some n) (some sh.target) := by
  rw [form_eq]
  exact .target (by cases sh <;> decide) hn

theorem named_iff_serves {sh : Shape} {name : String} {op : Operation}
    (h : Operation.parse name = .ok op) : sh.Named name ↔ op.Serves sh := by
  constructor
  · rintro ⟨n, ps, rfl, hn, hp, hmem⟩
    have helement : Namespace.element ∈ ps.filterMap Namespace.parse? :=
      List.mem_filterMap.mpr ⟨"ELEMENT", hmem, rfl⟩
    have hlists : Operation.Lists (some n) (ps.filterMap Namespace.parse?) :=
      .known (hp.ne_empty hmem (by decide)) hp (Namespace.map_text_filterMap ps)
        (List.ne_nil_of_mem helement)
    have hread : Operation.parse (sh.form n) =
        .ok ⟨sh.verb, ps.filterMap Namespace.parse?, some sh.target⟩ :=
      Operation.parse_eq_ok_iff.mpr ⟨some n, sh.divided_form hn, hlists⟩
    rw [hread] at h
    cases h
    exact ⟨rfl, helement, rfl⟩
  · rintro ⟨hverb, helement, htarget⟩
    obtain ⟨middle, hs, hlists⟩ := Operation.parse_eq_ok_iff.mp h
    rw [hverb, htarget] at hs
    cases hs with
    | @target _ n _ hv hn =>
      obtain ⟨ps, hp, hmem⟩ := hlists.exists_piece helement
      exact ⟨n, ps, (sh.form_eq n).symm, hn, hp, hmem⟩

end Shape

namespace CallSite

variable {sh : Shape} {site site' site'' : CallSite sh} {m : Memory} {s : SpaceId}
  {args : sh.Args}

theorem FailsWith.ne_internal {e : MemoryError} (h : site.FailsWith args e) (cause : String) :
    e ≠ .internal cause := by
  rcases h with ⟨_, rfl⟩ | ⟨_, rfl⟩
  · cases sh <;> exact fun h => by contradiction
  · exact fun h => by contradiction

theorem FailsWith.unsupported_iff {e : MemoryError} (h : site.FailsWith args e) :
    (∃ operation reason, e = .unsupportedOperation operation reason) ↔
      ¬ site.operation.Serves sh := by
  rcases h with ⟨hop, rfl⟩ | ⟨hop, rfl⟩
  · refine iff_of_false ?_ (not_not_intro hop)
    rintro ⟨_, _, he⟩
    cases sh <;> contradiction
  · exact iff_of_true ⟨_, _, rfl⟩ hop

/-- What calls may make of a site. It keeps its name and its operation, and one that is not
supported is never linked. -/
structure Heir (site site' : CallSite sh) : Prop where
  name : site'.name = site.name
  operation : site'.operation = site.operation
  idle : ¬ site.operation.Serves sh → site.linked = none → site' = site

theorem Heir.refl (site : CallSite sh) : Heir site site := ⟨rfl, rfl, fun _ _ => rfl⟩

theorem Heir.trans (h : Heir site site') (h' : Heir site' site'') : Heir site site'' where
  name := h'.name.trans h.name
  operation := h'.operation.trans h.operation
  idle := by
    intro hop hl
    obtain rfl := h.idle hop hl
    exact h'.idle hop hl

theorem Heir.serves (h : Heir site site') :
    site'.operation.Serves sh ↔ site.operation.Serves sh := by
  rw [h.operation]

theorem Heir.failsWith (h : Heir site site') {e : MemoryError} :
    site'.FailsWith args e ↔ site.FailsWith args e := by
  rw [FailsWith, FailsWith, h.serves, unsupported, unsupported, h.name]

theorem heir_unlink (site : CallSite sh) : Heir site site.unlink where
  name := rfl
  operation := rfl
  idle := by
    intro _ hl
    rw [unlink, ← hl]

namespace Underway

variable {c : Underway sh}

/-- What holds of a call through a site at any moment: if it has failed, then for a reason of
the site, and if the site is not supported, it has not succeeded. -/
structure Justified (site : CallSite sh) (args : sh.Args) (c : Underway sh) : Prop where
  heir : Heir site c.site
  failed : ∀ e, c.stage = .done (.error e) → site.FailsWith args e
  refused : ¬ site.operation.Serves sh → site.linked = none → ∀ v, c.stage ≠ .done (.ok v)

theorem justified_start (site : CallSite sh) (m : Memory) (args : sh.Args) :
    Justified site args (start site m) :=
  ⟨.refl site, fun _ h => by contradiction, fun _ _ _ h => by contradiction⟩

theorem Justified.step (h : Justified site args c) (s : SpaceId) :
    Justified site args (c.move s args .step) := by
  by_cases hdone : ∃ answer, c.stage = .done answer
  · obtain ⟨answer, hdone⟩ := hdone
    rw [move_step_of_done hdone]
    exact h
  have hheir := h.heir
  obtain ⟨stage, site₁, m, n⟩ := c
  have hstep := takes_step s args site₁ m stage fun answer h => hdone ⟨answer, h⟩
  rw [move_step_eq]
  dsimp only at hheir ⊢
  generalize CallSite.step s args stage site₁ m = r at hstep
  cases hstep with
  | unlinked hl => exact ⟨hheir, fun _ h => by contradiction, fun _ _ _ h => by contradiction⟩
  | served hl hp =>
    refine ⟨hheir, fun _ h => by simp at h, ?_⟩
    intro hop hnone
    rw [hheir.idle hop hnone, hnone] at hl
    contradiction
  | stale hl hp =>
    refine ⟨hheir.trans ⟨rfl, rfl, ?_⟩, fun _ h => by contradiction,
      fun _ _ _ h => by contradiction⟩
    intro _ hnone
    rw [hnone] at hl
    contradiction
  | linked hk hr =>
    have hserves := (eq_of_relink (congrArg Prod.fst hr)).1
    exact ⟨hheir.trans ⟨rfl, rfl, fun hop _ => absurd hserves hop⟩, fun _ h => by contradiction,
      fun _ _ _ h => by contradiction⟩
  | failed hr =>
    refine ⟨hheir, ?_, fun _ _ _ h => by simp at h⟩
    intro e he
    cases he
    exact hheir.failsWith.mp (failsWith_relink (congrArg Prod.fst hr))

theorem Justified.run (h : Justified site args c) (s : SpaceId) (mvs : List Move) :
    Justified site args (c.run s args mvs) := by
  induction mvs generalizing c with
  | nil => exact h
  | cons mv mvs ih =>
    cases mv with
    | step => exact ih (h.step s)
    -- A growth touches neither the stage nor the site.
    | grow kind => exact ih ⟨h.heir, h.failed, h.refused⟩

end Underway

theorem heir_call (hm : m.Sound) (site : CallSite sh) (s : SpaceId) (args : sh.Args) :
    Heir site (site.call m s args).2.1 := by
  obtain ⟨_, hsite, _⟩ := Underway.run_eq_call hm site s args
  rw [← hsite]
  exact ((Underway.justified_start site m args).run s _).heir

theorem failsWith_call (hm : m.Sound) {e : MemoryError}
    (h : (site.call m s args).1 = .error e) : site.FailsWith args e := by
  obtain ⟨hstage, _, _⟩ := Underway.run_eq_call hm site s args
  rw [h] at hstage
  exact ((Underway.justified_start site m args).run s _).failed e hstage

theorem call_of_not_serves (hm : m.Sound) (hop : ¬ site.operation.Serves sh)
    (hl : site.linked = none) (s : SpaceId) (args : sh.Args) :
    (site.call m s args).1 = .error site.unsupported := by
  obtain ⟨hstage, _, _⟩ := Underway.run_eq_call hm site s args
  cases hanswer : (site.call m s args).1 with
  | ok v =>
    rw [hanswer] at hstage
    exact absurd hstage (((Underway.justified_start site m args).run s _).refused hop hl v)
  | error e =>
    rcases failsWith_call hm hanswer with ⟨hserves, _⟩ | ⟨_, rfl⟩
    · exact absurd hserves hop
    · rfl

end CallSite

end PagedMemory
