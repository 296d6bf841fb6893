import PagedMemory.Proofs.Call
import PagedMemory.Proofs.Memory.Agreement

/-! Calls on memories that agree at a space. A call for that space goes the same way in both,
whatever its site has cached, for this space or for another. -/

set_option autoImplicit false

namespace PagedMemory.Memory.AgreesAt

variable {m m' : Memory} {s : SpaceId} (h : AgreesAt s m m')
include h

section Call
variable {sh : Shape}

theorem discard (site : CallSite sh) : Alike s (site.discard m s) (site.discard m' s) := by
  unfold CallSite.discard
  dsimp only
  have hcount := h.count .relink
  rw [hcount.number]
  have hsay := hcount.say (.relinking site.name ((m.count s .relink).number s) (site.relinks + 1))
  rw [hsay.number]
  exact .intro _ (hsay.emit s _)

theorem relink (site : CallSite sh) (args : sh.Args) :
    Alike s (site.relink m s args) (site.relink m' s args) := by
  have hlink := h.link site.operation sh.signature (sh.values args)
  unfold CallSite.relink
  generalize m.link s site.operation sh.signature (sh.values args) = r at hlink
  generalize m'.link s site.operation sh.signature (sh.values args) = r' at hlink
  cases hlink with
  | intro answer hagree =>
  cases answer with
  | error e => exact .intro _ hagree
  | ok kept =>
    cases kept with
    | none => exact .intro _ hagree
    | some l =>
      dsimp only
      split
      · exact .intro _ hagree
      · exact .intro _ hagree

theorem callStep (hm : m.Sound) {site : CallSite sh} (hb : site.Bound m.Past) (args : sh.Args)
    (stage : CallSite.Stage sh.Output) :
    AlikeWith s (CallSite.step s args stage site m) (CallSite.step s args stage site m') := by
  cases stage with
  | done answer => exact .intro _ _ h
  | invoke =>
    unfold CallSite.step
    cases hl : site.linked with
    | none => exact .intro _ _ h
    | some g =>
      have hinvoke := h.invoke hm (hb g hl) sh args
      dsimp only
      generalize m.invoke s g sh args = r at hinvoke
      generalize m'.invoke s g sh args = r' at hinvoke
      cases hinvoke with
      | intro access hagree =>
      cases access with
      | value v => exact .intro _ _ hagree
      | relink =>
        have hdiscard := hagree.discard site
        rename_i n n'
        dsimp only
        generalize site.discard n s = r at hdiscard
        generalize site.discard n' s = r' at hdiscard
        cases hdiscard with
        | intro site' hagree => exact .intro _ _ hagree
  | resolve =>
    have hrelink := h.relink site args
    unfold CallSite.step
    dsimp only
    generalize site.relink m s args = r at hrelink
    generalize site.relink m' s args = r' at hrelink
    cases hrelink with
    | intro answer hagree =>
    cases answer with
    | ok site' => exact .intro _ _ hagree
    | error e => exact .intro _ _ hagree

theorem callSteps (hm : m.Sound) {site : CallSite sh} (hb : site.Bound m.Past) (args : sh.Args)
    (n : Nat) (stage : CallSite.Stage sh.Output) :
    AlikeWith s (CallSite.steps s args n stage site m) (CallSite.steps s args n stage site m') := by
  induction n generalizing stage site m m' with
  | zero => exact .intro _ _ h
  | succ n ih =>
    by_cases hdone : ∃ answer, stage = .done answer
    · obtain ⟨answer, rfl⟩ := hdone
      exact .intro _ _ h
    have hstage : ∀ answer, stage ≠ .done answer := fun answer heq => hdone ⟨answer, heq⟩
    have hstep := h.callStep hm hb args stage
    obtain ⟨hf, hl⟩ := CallSite.step_spec s args hm hb stage hstage
    rw [CallSite.steps_succ n hstage, CallSite.steps_succ n hstage]
    generalize CallSite.step s args stage site m = r at hstep hf hl
    generalize CallSite.step s args stage site m' = r' at hstep
    cases hstep with
    | @intro stage₁ site₁ m₁ m₁' hagree =>
    have he : ∃ w, m.Evolves w m₁ := by
      cases stage₁ with
      | done answer => exact ⟨_, CallSite.Leaves.evolves hl⟩
      | invoke => exact ⟨[], evolves_of_storage_eq hl⟩
      | resolve => exact ⟨[], evolves_of_storage_eq hl⟩
    obtain ⟨w, he⟩ := he
    exact ih hagree (he.sound hm) (hf.past hm hb he) stage₁

theorem call (hm : m.Sound) {site : CallSite sh} (hb : site.Bound m.Past) (args : sh.Args) :
    AlikeWith s (site.call m s args) (site.call m' s args) := by
  have hsteps := h.callSteps hm hb args 3 .invoke
  unfold CallSite.call
  generalize CallSite.steps s args 3 .invoke site m = r at hsteps
  generalize CallSite.steps s args 3 .invoke site m' = r' at hsteps
  cases hsteps with
  | intro stage site' hagree =>
  cases stage with
  | done answer => exact .intro _ _ hagree
  | invoke => exact .intro _ _ hagree
  | resolve => exact .intro _ _ hagree

end Call

theorem fill (hm : m.Sound) {site : CallSite .setElement} (hb : site.Bound m.Past)
    (stride : UInt32) (increment : Int32) (n i : Nat) (a : Address) (v : Int32) :
    AlikeWith s (site.fill s stride increment n i a v m)
      (site.fill s stride increment n i a v m') := by
  induction n generalizing i a v site m m' with
  | zero => exact .intro _ _ h
  | succ n ih =>
    have hcall := h.call hm hb (a, v)
    obtain ⟨hf, hl⟩ := CallSite.call_spec s (a, v) hm hb
    unfold CallSite.fill
    generalize site.call m s (a, v) = r at hcall hf hl
    generalize site.call m' s (a, v) = r' at hcall
    cases hcall with
    | intro answer site₁ hagree =>
    cases answer with
    | error e => exact .intro _ _ hagree
    | ok u =>
      exact ih hagree (hl.evolves.sound hm) (hf.past hm hb hl.evolves) (i + 1) (a + stride)
        (v + increment)

theorem scan (hm : m.Sound) {site : CallSite .getElement} (hb : site.Bound m.Past)
    (stride : UInt32) (n i : Nat) (a : Address) :
    AlikeWith s (site.scan s stride n i a m) (site.scan s stride n i a m') := by
  induction n generalizing i a site m m' with
  | zero => exact .intro _ _ h
  | succ n ih =>
    have hcall := h.call hm hb a
    obtain ⟨hf, hl⟩ := CallSite.call_spec s a hm hb
    unfold CallSite.scan
    generalize site.call m s a = r at hcall hf hl
    generalize site.call m' s a = r' at hcall
    cases hcall with
    | @intro answer site₁ m₁ m₁' hagree =>
    cases answer with
    | error e => exact .intro _ _ hagree
    | ok v =>
      have hrest := ih hagree (hl.evolves.sound hm) (hf.past hm hb hl.evolves) (i + 1) (a + stride)
      dsimp only
      generalize CallSite.scan s stride n (i + 1) (a + stride) site₁ m₁ = r at hrest
      generalize CallSite.scan s stride n (i + 1) (a + stride) site₁ m₁' = r' at hrest
      cases hrest with
      | intro answer site₂ hagree =>
      cases answer with
      | error e => exact .intro _ _ hagree
      | ok vs => exact .intro _ _ hagree

end PagedMemory.Memory.AgreesAt
