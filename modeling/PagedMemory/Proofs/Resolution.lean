import PagedMemory.Proofs.Memory.Work
import PagedMemory.Proofs.Session.Runs

/-! Which requests are linked. An operation, a signature and arguments together ask for one of
three accesses or for none. A request for none is not applicable. Any other is linked if the
page that it names is mapped, and fails with what it named if not. -/

set_option autoImplicit false

namespace PagedMemory

/-- The requests that have an implementation, and the access that each asks for: reading an
element, writing one, and looking up a page. -/
inductive Asks (op : Operation) : Signature → List Value → (sh : Shape) → sh.Args → Prop where
  | getElement (a : Address) (verb : op.verb = .get) (element : .element ∈ op.namespaces)
      (target : op.target = some "memory") :
      Asks op ⟨[.address], .int⟩ [.address a] .getElement a
  | setElement (a : Address) (v : Int32) (verb : op.verb = .set)
      (element : .element ∈ op.namespaces) (target : op.target = some "memory") :
      Asks op ⟨[.address, .int], .void⟩ [.address a, .int v] .setElement (a, v)
  | lookupPage (p : PageId) (verb : op.verb = .get) (element : .element ∈ op.namespaces)
      (target : op.target = some "pages") :
      Asks op ⟨[.pageId], .page⟩ [.pageId p] .lookupPage p

section Requests
variable {op op' : Operation} {sig : Signature} {vs : List Value} {sh : Shape} {args : sh.Args}

theorem asks_iff : Asks op sig vs sh args ↔
    op.Serves sh ∧ sig = sh.signature ∧ vs = sh.values args := by
  constructor
  · intro h
    cases h with
    | getElement a verb element target => exact ⟨⟨verb, element, target⟩, rfl, rfl⟩
    | setElement a v verb element target => exact ⟨⟨verb, element, target⟩, rfl, rfl⟩
    | lookupPage p verb element target => exact ⟨⟨verb, element, target⟩, rfl, rfl⟩
  · rintro ⟨⟨verb, element, target⟩, rfl, rfl⟩
    cases sh with
    | getElement => exact .getElement args verb element target
    | setElement => exact .setElement args.1 args.2 verb element target
    | lookupPage => exact .lookupPage args verb element target

namespace Shape

theorem classify_eq_some_iff :
    classify op sig = some sh ↔ op.Serves sh ∧ sig = sh.signature := by
  constructor
  · intro h
    have hsig : sig = sh.signature := by
      unfold classify at h
      split at h
      · have hfound := List.find?_some h
        simp only [Bool.and_eq_true, beq_iff_eq] at hfound
        exact hfound.2
      · contradiction
    subst hsig
    exact ⟨serves_of_classify h, rfl⟩
  · rintro ⟨hop, rfl⟩
    exact classify_of_serves hop

theorem exists_values_of_accepts (h : sh.signature.accepts vs = true) :
    ∃ args, vs = sh.values args := by
  have htypes : vs.map Value.type = sh.signature.params := by
    simpa [Signature.accepts] using h
  cases sh with
  | getElement =>
    obtain ⟨v, rfl, hv⟩ := List.map_eq_singleton_iff.mp htypes
    cases v <;> cases hv
    exact ⟨_, rfl⟩
  | setElement =>
    obtain ⟨v, rest, rfl, hv, hrest⟩ := List.map_eq_cons_iff.mp htypes
    obtain ⟨w, rfl, hw⟩ := List.map_eq_singleton_iff.mp hrest
    cases v <;> cases hv
    cases w <;> cases hw
    exact ⟨(_, _), rfl⟩
  | lookupPage =>
    obtain ⟨v, rfl, hv⟩ := List.map_eq_singleton_iff.mp htypes
    cases v <;> cases hv
    exact ⟨_, rfl⟩

theorem values_injective {args' : sh.Args} (h : sh.values args = sh.values args') :
    args = args' := by
  cases sh with
  | getElement => simpa [values] using h
  | setElement => exact Prod.ext_iff.mpr (by simpa [values] using h)
  | lookupPage => simpa [values] using h

theorem request?_of_not_asks (h : ∀ sh args, ¬ Asks op sig vs sh args) :
    request? op sig vs = none := by
  unfold request?
  cases hc : classify op sig with
  | none => rfl
  | some sh =>
    obtain ⟨hop, rfl⟩ := classify_eq_some_iff.mp hc
    have haccepts : sh.signature.accepts vs ≠ true := by
      intro haccepts
      obtain ⟨args, rfl⟩ := exists_values_of_accepts haccepts
      exact h sh args (asks_iff.mpr ⟨hop, rfl, rfl⟩)
    simp [haccepts]

end Shape

theorem Asks.congr (hverb : op'.verb = op.verb) (htarget : op'.target = op.target)
    (helement : .element ∈ op'.namespaces ↔ .element ∈ op.namespaces) :
    Asks op' sig vs sh args ↔ Asks op sig vs sh args := by
  rw [asks_iff, asks_iff]
  have hserves : op'.Serves sh ↔ op.Serves sh := by
    constructor
    · rintro ⟨hv, he, ht⟩
      exact ⟨hverb ▸ hv, helement.mp he, htarget ▸ ht⟩
    · rintro ⟨hv, he, ht⟩
      exact ⟨hverb ▸ hv, helement.mpr he, htarget ▸ ht⟩
  rw [hserves]

end Requests

namespace Memory

variable {m : Memory} {s : SpaceId} {op op' : Operation} {sig : Signature} {vs : List Value}
  {sh : Shape} {args : sh.Args}

theorem link_of_asks (hm : m.Sound) (h : Asks op sig vs sh args) {p : Page}
    (hp : (m.table s).page? (sh.page args) = some p) :
    (m.link s op sig vs).1 = .ok (some ⟨sh, s, m.table s, p.kind⟩) := by
  obtain ⟨hop, rfl, rfl⟩ := asks_iff.mp h
  have hk : (m.table s).kindOf? (sh.page args) = some p.kind := by
    rw [(hm.aligned s).kindOf?, hp, Option.map_some]
  obtain ⟨m', hl, _⟩ := link_of_kind hop hk
  rw [hl]

theorem link_of_asks_unmapped (hm : m.Sound) (h : Asks op sig vs sh args)
    (hp : (m.table s).page? (sh.page args) = none) :
    (m.link s op sig vs).1 = .error (sh.fault args) := by
  obtain ⟨hop, rfl, rfl⟩ := asks_iff.mp h
  have hk : (m.table s).kindOf? (sh.page args) = none := by
    rw [(hm.aligned s).kindOf?, hp, Option.map_none]
  obtain ⟨m', hl, _⟩ := link_of_none hop hk
  rw [hl]

theorem link_of_not_asks (h : ∀ sh args, ¬ Asks op sig vs sh args) :
    (m.link s op sig vs).1 = .ok none := by
  rw [link, Shape.request?_of_not_asks h]

inductive Resolution (m : Memory) (s : SpaceId) (op : Operation) (sig : Signature)
    (vs : List Value) : Except MemoryError (Option Linked) → Prop where
  | linked {sh : Shape} {args : sh.Args} {p : Page} (h : Asks op sig vs sh args)
      (hp : (m.table s).page? (sh.page args) = some p) :
      Resolution m s op sig vs (.ok (some ⟨sh, s, m.table s, p.kind⟩))
  | unmapped {sh : Shape} {args : sh.Args} (h : Asks op sig vs sh args)
      (hp : (m.table s).page? (sh.page args) = none) :
      Resolution m s op sig vs (.error (sh.fault args))
  | notApplicable (h : ∀ sh args, ¬ Asks op sig vs sh args) : Resolution m s op sig vs (.ok none)

theorem resolution_link (hm : m.Sound) (s : SpaceId) (op : Operation) (sig : Signature)
    (vs : List Value) : Resolution m s op sig vs (m.link s op sig vs).1 := by
  by_cases h : ∃ sh args, Asks op sig vs sh args
  · obtain ⟨sh, args, h⟩ := h
    cases hp : (m.table s).page? (sh.page args) with
    | some p =>
      rw [link_of_asks hm h hp]
      exact .linked h hp
    | none =>
      rw [link_of_asks_unmapped hm h hp]
      exact .unmapped h hp
  · have hnone : ∀ sh args, ¬ Asks op sig vs sh args := fun sh args ha => h ⟨sh, args, ha⟩
    rw [link_of_not_asks hnone]
    exact .notApplicable hnone

theorem link_congr (hm : m.Sound)
    (h : ∀ sh (args : sh.Args), Asks op' sig vs sh args ↔ Asks op sig vs sh args) :
    (m.link s op' sig vs).1 = (m.link s op sig vs).1 := by
  have hr := resolution_link hm s op sig vs
  generalize (m.link s op sig vs).1 = answer at hr
  cases hr with
  | linked ha hp => exact link_of_asks hm ((h _ _).mpr ha) hp
  | unmapped ha hp => exact link_of_asks_unmapped hm ((h _ _).mpr ha) hp
  | notApplicable hnone => exact link_of_not_asks fun sh args ha => hnone sh args ((h _ _).mp ha)

theorem storage_link_eq (m : Memory) (s : SpaceId) (op op' : Operation) (sig : Signature)
    (vs : List Value) : (m.link s op' sig vs).2.storage = (m.link s op sig vs).2.storage :=
  (storage_link m s op' sig vs).trans (storage_link m s op sig vs).symm

theorem statistics_link_congr (h : (m.link s op' sig vs).1 = (m.link s op sig vs).1)
    (s' : SpaceId) :
    (m.link s op' sig vs).2.statistics s' = (m.link s op sig vs).2.statistics s' := by
  rw [(work_link m s op' sig vs).counts s', (work_link m s op sig vs).counts s', h]

/-- An accessor that was just linked serves the access that it was linked for. -/
theorem invoke_of_link (hm : m.Sound) {g : Guard}
    (h : (m.link s op sig (sh.values args)).1 = .ok (some ⟨sh, g⟩)) :
    let m' := (m.link s op sig (sh.values args)).2
    ∃ v m'', m'.invoke s g sh args = (.value v, m'') ∧ m'.plain s sh args = (.ok v, m'') := by
  intro m'
  have hr := resolution_link hm s op sig (sh.values args)
  rw [h] at hr
  cases hr with
  | @linked _ args' p ha hp =>
    obtain ⟨_, _, hvalues⟩ := asks_iff.mp ha
    obtain rfl := Shape.values_injective hvalues
    have htables : SameTables m m' := sameTables_of_storage_eq (storage_link m s op sig _)
    have hserved := Guard.fresh_served? hm htables hp
    rw [← htables.table s] at hp hserved ⊢
    exact ⟨_, _, invoke_of_served hserved, plain_of_page hp⟩

end Memory

namespace Session

/-- Exactly the three kinds of requests are linked, each as long as its page is mapped, to an
accessor that is bound to the current table and to that page's kind. One about a page that is
not mapped fails with the address or the page id as given, and any other request is not
applicable. What was linked serves the same arguments at once, like a plain access. And nothing
matters of an operation but its verb, its target and whether it is about elements. -/
theorem links_exactly_what_is_asked {x : Session} (hx : x.Reachable) (s : SpaceId)
    (op : Operation) (sig : Signature) (vs : List Value) :
    let m := x.memory
    let answer := (m.link s op sig vs).1
    let m' := (m.link s op sig vs).2
    (∀ sh g, answer = .ok (some ⟨sh, g⟩) ↔ ∃ args p, Asks op sig vs sh args ∧
      (m.table s).page? (sh.page args) = some p ∧ g = ⟨s, m.table s, p.kind⟩) ∧
    (∀ e, answer = .error e ↔ ∃ sh args, Asks op sig vs sh args ∧
      (m.table s).page? (sh.page args) = none ∧ e = sh.fault args) ∧
    (answer = .ok none ↔ ∀ sh args, ¬ Asks op sig vs sh args) ∧
    (∀ sh g args, answer = .ok (some ⟨sh, g⟩) → vs = sh.values args →
      ∃ v m'', m'.invoke s g sh args = (.value v, m'') ∧
        m'.plain s sh args = (.ok v, m'')) ∧
    ∀ op' : Operation, op'.verb = op.verb → op'.target = op.target →
      (.element ∈ op'.namespaces ↔ .element ∈ op.namespaces) →
      (m.link s op' sig vs).1 = answer ∧ (m.link s op' sig vs).2.storage = m'.storage ∧
        ∀ s', (m.link s op' sig vs).2.statistics s' = m'.statistics s' := by
  intro m answer m'
  obtain ⟨l, hf⟩ := hx.fits
  have hm : m.Sound := hf.sound
  have hr : Memory.Resolution m s op sig vs answer := Memory.resolution_link hm s op sig vs
  refine ⟨fun sh g => ⟨fun h => ?_, ?_⟩, fun e => ⟨fun h => ?_, ?_⟩, ⟨fun h => ?_, ?_⟩, ?_, ?_⟩
  · rw [h] at hr
    cases hr with
    | linked ha hp => exact ⟨_, _, ha, hp, rfl⟩
  · rintro ⟨args, p, ha, hp, rfl⟩
    exact Memory.link_of_asks hm ha hp
  · rw [h] at hr
    cases hr with
    | unmapped ha hp => exact ⟨_, _, ha, hp, rfl⟩
  · rintro ⟨sh, args, ha, hp, rfl⟩
    exact Memory.link_of_asks_unmapped hm ha hp
  · rw [h] at hr
    cases hr with
    | notApplicable hnone => exact hnone
  · exact Memory.link_of_not_asks
  · rintro sh g args h rfl
    exact Memory.invoke_of_link hm h
  · intro op' hverb htarget helement
    have hsame : (m.link s op' sig vs).1 = answer :=
      Memory.link_congr hm fun _ _ => Asks.congr hverb htarget helement
    exact ⟨hsame, Memory.storage_link_eq m s op op' sig vs, Memory.statistics_link_congr hsame⟩

/-- A getter asked for among other namespaces is bound to the kind of the page that the
address lies in; beyond the last page the address is reported, and without the element
namespace nothing is linked. -/
theorem links_exactly_what_is_asked_two_pages :
    let x := ((start 1 {}).run [.openDefault, .allocate 0 (some .heap),
      .allocate 0 (some .direct)]).2
    let get : List Namespace → Operation := fun ns => ⟨.get, ns, some "memory"⟩
    let link := fun ns a => (x.memory.link 0 (get ns) .elementGet [.address a]).1
    link [.property, .element] 4100 = .ok (some ⟨.getElement, 0, x.memory.table 0, .direct⟩) ∧
      link [.property, .element] 8192 = .error (.unmappedAddress 8192) ∧
      link [.property] 4100 = .ok none := by
  intro x get link
  have hx : x.Reachable := ⟨1, {}, _, _, rfl⟩
  have hget : ∀ a, Asks (get [.property, .element]) .elementGet [.address a] .getElement a :=
    fun a => .getElement a rfl (by simp [get]) rfl
  refine ⟨?_, ?_, ?_⟩
  · exact ((links_exactly_what_is_asked hx 0 _ _ _).1 _ _).mpr
      ⟨4100, ⟨.direct, 1⟩, hget 4100, rfl, rfl⟩
  · exact ((links_exactly_what_is_asked hx 0 _ _ _).2.1 _).mpr
      ⟨.getElement, 8192, hget 8192, rfl, rfl⟩
  · refine (links_exactly_what_is_asked hx 0 _ _ _).2.2.1.mpr fun sh args ha => ?_
    have helement := (asks_iff.mp ha).1.element
    simp [get] at helement

end Session

end PagedMemory
