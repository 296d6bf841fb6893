import PagedMemory.Proofs.BumpAllocator.Pages
import PagedMemory.Proofs.MatrixTest.Refinement
import PagedMemory.Proofs.MatrixTest.Switches

/-! What relinking the matrix test costs. Its call sites relink when a product takes up a matrix
in a page of another kind, and never from one element to the next, so that the number reported
depends on the rounds alone once the matrices do not share a page. -/

set_option autoImplicit false

namespace PagedMemory

namespace CallSite

variable {sh : Shape} {m : Memory}

theorem Serving.sameTables_call {site : CallSite sh} (h : site.Serving m) (hm : m.Sound)
    (s : SpaceId) (args : sh.Args) : m.SameTables (site.call m s args).2.2 ∧
      (site.call m s args).2.1.Serving (site.call m s args).2.2 := by
  obtain ⟨hf, hl⟩ := call_spec s args hm h.bound
  exact ⟨hl.sameTables, hf.past hm h.bound hl.evolves, hf.operation ▸ h.serves⟩

theorem Serving.sameTables_writeRun {site : CallSite .setElement} (h : site.Serving m)
    (hm : m.Sound) (s : SpaceId) (base : Address) (vs : List Int32) (i : Nat) :
    m.SameTables (CallSite.writeRun s base vs i site m).2.2 := by
  induction vs generalizing i site m with
  | nil => exact .refl m
  | cons v vs ih =>
    obtain ⟨ht, hserving⟩ := h.sameTables_call hm s (base.plusElements i, v)
    unfold CallSite.writeRun
    generalize site.call m s (base.plusElements i, v) = r at ht hserving
    obtain ⟨answer, site₁, m₁⟩ := r
    cases answer with
    | error e => exact ht
    | ok u => exact ht.trans (ih hserving (hm.of_sameTables ht) (i + 1))

theorem Serving.sameTables_readRun {site : CallSite .getElement} (h : site.Serving m)
    (hm : m.Sound) (s : SpaceId) (base : Address) (n i : Nat) :
    m.SameTables (CallSite.readRun s base n i site m).2.2 := by
  induction n generalizing i site m with
  | zero => exact .refl m
  | succ n ih =>
    obtain ⟨ht, hserving⟩ := h.sameTables_call hm s (base.plusElements i)
    unfold CallSite.readRun
    generalize site.call m s (base.plusElements i) = r at ht hserving
    obtain ⟨answer, site₁, m₁⟩ := r
    cases answer with
    | error e => exact ht
    | ok v =>
      have hrest := ih hserving (hm.of_sameTables ht) (i + 1)
      dsimp only
      generalize CallSite.readRun s base n (i + 1) site₁ m₁ = r at hrest
      obtain ⟨answer, site₂, m₂⟩ := r
      cases answer with
      | error e => exact ht.trans hrest
      | ok vs => exact ht.trans hrest

end CallSite

namespace MatrixTest

open BumpAllocator (pagesFor perPage regionStart)

variable {m m' : Memory} {s : SpaceId} {n k : Nat} {a b c base : Address} {o : Options}
  {report : Report}

/-- The kind of the page after `i` others. -/
def Options.kindAt (o : Options) (i : Nat) : PageKind :=
  if o.mixed = true ∧ i % 2 = 1 then o.config.defaultKind.other else o.config.defaultKind

theorem place_eq_ok {policy : PagePolicy} {size : Nat} {starts : Address × Address × Address}
    (h : place m s policy size = (.ok starts, m')) :
    ∃ alloc₁ m₁ alloc₂ m₂ alloc₃,
      BumpAllocator.malloc { policy := policy } m s size = (.ok starts.1, alloc₁, m₁) ∧
      alloc₁.malloc m₁ s size = (.ok starts.2.1, alloc₂, m₂) ∧
      alloc₂.malloc m₂ s size = (.ok starts.2.2, alloc₃, m') := by
  unfold place at h
  split at h
  · cases h
  · rename_i a alloc₁ m₁ ha
    split at h
    · cases h
    · rename_i b alloc₂ m₂ hb
      split at h
      · cases h
      · rename_i c alloc₃ m₃ hc
        cases h
        exact ⟨alloc₁, m₁, alloc₂, m₂, alloc₃, ha, hb, hc⟩

theorem kinds_place (hm : m.Sound) (hempty : (m.table s).size = 0) {policy : PagePolicy}
    {size : Nat} {starts : Address × Address × Address}
    (h : place m s policy size = (.ok starts, m')) {q : PageId}
    (hq : q.toNat < (m'.table s).size) :
    (m'.table s).kindOf? q =
      some ((policy.kind q.toNat).getD (m'.space s).config.defaultKind) := by
  obtain ⟨alloc₁, m₁, alloc₂, m₂, alloc₃, ha, hb, hc⟩ := place_eq_ok h
  have hsole := BumpAllocator.sole_new policy hempty
  obtain ⟨hsole₁, hpolicy₁, hm₁⟩ := hsole.next hm ha
  obtain ⟨hsole₂, hpolicy₂, hm₂⟩ := hsole₁.next hm₁ hb
  obtain ⟨hsole₃, hpolicy₃, _⟩ := hsole₂.next hm₂ hc
  have hkind := hsole₃.kindOf? hq
  rw [hpolicy₃, hpolicy₂, hpolicy₁] at hkind
  exact hkind

theorem targets_of_kinds (hm : m.Sound) (hpos : 0 < n) (fits : n * n * 4 ≤ pageSize)
    (hmapped : m.Mapped s base (n * n)) (hbase : base.toNat = regionStart (n * n * 4) k)
    {f : Nat → PageKind}
    (hkinds : ∀ q : PageId, q.toNat < (m.table s).size →
      (m.table s).kindOf? q = some (f q.toNat)) :
    Targets m s n base ⟨s, (m.table s).generation, f (k / perPage (n * n * 4))⟩ := by
  intro i hi j hj
  have hplace := index_lt hi hj
  have hbytes : 0 < n * n * 4 := Nat.mul_pos (Nat.mul_pos hpos hpos) (by decide)
  have hpp := BumpAllocator.perPage_pos hbytes fits
  have hfull := BumpAllocator.perPage_mul_le (n * n * 4)
  have hrow : (k % perPage (n * n * 4) + 1) * (n * n * 4) ≤ perPage (n * n * 4) * (n * n * 4) :=
    Nat.mul_le_mul_right _ (Nat.mod_lt k hpp)
  rw [Nat.succ_mul] at hrow
  have hnumber : (Address.page (base.plusElements (i * n + j))).toNat =
      k / perPage (n * n * 4) := by
    rw [Address.toNat_page, hmapped.toNat_plusElements hm hplace, hbase, regionStart]
    simp only [pageSize] at hfull ⊢
    omega
  obtain ⟨page, hpage⟩ := hmapped.page? hm hplace
  have hkind := hkinds _ (Array.getElem?_eq_some_iff.mp hpage).1
  rw [(hm.aligned s).kindOf?, hpage, Option.map_some, hnumber] at hkind
  obtain hkind := Option.some.inj hkind
  rw [← hkind]
  exact Memory.target?_of_page hpage

/-- The kind is another one twice on the way around, or never. -/
theorem changes_of_kinds (s : SpaceId) (generation : Nat) (ka kb kc : PageKind) :
    Sites.changes ⟨s, generation, ka⟩ ⟨s, generation, kb⟩ ⟨s, generation, kc⟩ =
      if ka = kb ∧ kb = kc then 0 else 2 := by
  cases ka <;> cases kb <;> cases kc <;> simp [Sites.changes, Shadow.switch]

theorem Options.getD_kind (o : Options) (i : Nat) :
    ((if o.mixed then PagePolicy.alternate o.config.defaultKind else .default).kind i).getD
      o.config.defaultKind = o.kindAt i := by
  cases hmixed : o.mixed with
  | false => simp [PagePolicy.kind, kindAt, hmixed]
  | true =>
    rcases Nat.mod_two_eq_zero_or_one i with h | h <;> simp [PagePolicy.kind, kindAt, hmixed, h]

/-- Three matrices have pages of one kind if all pages are of one kind, or if they share one. -/
theorem Options.kindAt_eq_iff (o : Options) {p : Nat} (hp : 0 < p) :
    (o.kindAt (0 / p) = o.kindAt (1 / p) ∧ o.kindAt (1 / p) = o.kindAt (2 / p)) ↔
      o.mixed = false ∨ 3 ≤ p := by
  have hother : ∀ k : PageKind, k ≠ k.other := by
    intro k
    cases k <;> decide
  cases hmixed : o.mixed with
  | false => simp [kindAt, hmixed]
  | true =>
    rcases Nat.lt_or_ge p 3 with hlt | hge
    · obtain rfl | rfl : p = 1 ∨ p = 2 := by omega
      · simp [kindAt, hmixed, hother]
      · simp [kindAt, hmixed, hother]
    · have hone : 1 / p = 0 := Nat.div_eq_of_lt (by omega)
      have htwo : 2 / p = 0 := Nat.div_eq_of_lt (by omega)
      simp [hone, htwo, hge]

theorem sameTables_fill (hm : m.Sound) (s : SpaceId) (a b : Matrix) (xs ys : List Int32) :
    m.SameTables (fill s a b xs ys m).2 := by
  have ht := (CallSite.serving_setSite m).sameTables_writeRun hm s a.base xs 0
  unfold fill
  generalize CallSite.writeRun s a.base xs 0 setSite m = r at ht
  obtain ⟨answer, site₁, m₁⟩ := r
  cases answer with
  | error e => exact ht
  | ok u =>
    have hrest := (CallSite.serving_setSite m₁).sameTables_writeRun (hm.of_sameTables ht) s b.base
      ys 0
    dsimp only
    generalize CallSite.writeRun s b.base ys 0 setSite m₁ = r at hrest
    obtain ⟨answer, site₂, m₂⟩ := r
    cases answer with
    | error e => exact ht.trans hrest
    | ok u => exact ht.trans hrest

theorem sameTables_verify (hm : m.Sound) (s : SpaceId) (name : String) (x : Matrix)
    (expected : Array Int32) : m.SameTables (verify s name x expected m).2 := by
  have ht := (CallSite.serving_getSite m).sameTables_readRun hm s x.base (x.size * x.size) 0
  unfold verify
  generalize CallSite.readRun s x.base (x.size * x.size) 0 getSite m = r at ht
  obtain ⟨answer, site₁, m₁⟩ := r
  cases answer with
  | error e => exact ht
  | ok actual =>
    dsimp only
    cases firstDifference 0 actual expected.toList with
    | none => exact ht
    | some place => exact ht

theorem sameTables_verifyAll (hm : m.Sound) (s : SpaceId)
    (all : List (String × Matrix × Array Int32)) : m.SameTables (verifyAll s all m).2 := by
  induction all generalizing m with
  | nil => exact .refl m
  | cons first rest ih =>
    obtain ⟨name, x, expected⟩ := first
    have ht := sameTables_verify hm s name x expected
    unfold verifyAll
    generalize verify s name x expected m = r at ht
    obtain ⟨answer, m₁⟩ := r
    cases answer with
    | error e => exact ht
    | ok u => exact ht.trans (ih (hm.of_sameTables ht))

theorem exercise_eq_ok {a b c : Matrix} {xs ys : List Int32}
    (h : (exercise m s o a b c xs ys).1 = .ok report) :
    ∃ m₁ sites m₂ all m₃, fill s a b xs ys m = (.ok (), m₁) ∧
      Sites.rounds s a b c o.iterations.toNat {} m₁ = (.ok (), sites, m₂) ∧
      verifyAll s all m₂ = (.ok (), m₃) ∧ report.relinks = sites.relinks ∧
      report.pages = (m₃.table s).kinds.size := by
  unfold exercise at h
  dsimp only at h
  split at h
  · cases h
  · rename_i m₁ hfill
    split at h
    · cases h
    · rename_i sites m₂ hrounds
      split at h
      · cases h
      · rename_i m₃ hverify
        cases h
        exact ⟨m₁, sites, m₂, _, m₃, hfill, hrounds, hverify, rfl, rfl⟩

theorem relinks_exercise (hm : m.Sound) (hpos : 0 < n) {ta tb tc : Bet}
    (ha : Targets m s n a ta) (hb : Targets m s n b tb) (hc : Targets m s n c tc)
    {xs ys : List Int32}
    (h : (exercise m s o ⟨a, n⟩ ⟨b, n⟩ ⟨c, n⟩ xs ys).1 = .ok report) :
    report.relinks = (3 * o.iterations.toNat - 1) * Sites.changes ta tb tc ∧
      report.pages = (m.table s).size := by
  obtain ⟨m₁, sites, m₂, all, m₃, hfill, hrounds, hverify, hrelinks, hpages⟩ := exercise_eq_ok h
  have ht₁ := sameTables_fill hm s ⟨a, n⟩ ⟨b, n⟩ xs ys
  rw [hfill] at ht₁
  have hm₁ := hm.of_sameTables ht₁
  have ha₁ := ha.of_sameTables ht₁
  have hb₁ := hb.of_sameTables ht₁
  have hc₁ := hc.of_sameTables ht₁
  have ht₂ := (Sites.does_rounds hm₁ (Sites.ready m₁) hpos ha₁ hb₁ hc₁ hrounds).tables
  have ht₃ := sameTables_verifyAll (hm₁.of_sameTables ht₂) s all
  rw [hverify] at ht₃
  refine ⟨hrelinks.trans (Sites.relinks_rounds hm₁ hpos ha₁ hb₁ hc₁ hrounds), ?_⟩
  rw [hpages, ((ht₁.trans ht₂).trans ht₃).table, (hm.aligned s).kinds, Array.size_map,
    PageTable.size]

theorem bytes_eq_ok {size : UInt64} {k : Nat} (h : bytes size = .ok k) :
    k = size.toNat * size.toNat * 4 ∧ size.toNat * size.toNat * 4 ≤ pageSize := by
  rw [bytes_eq] at h
  split at h
  · rename_i fits
    cases h
    exact ⟨rfl, fits⟩
  · cases h

theorem valid_of_openSpace {c : Config} {s : SpaceId} (h : m.openSpace c = (.ok s, m')) :
    c.Valid := by
  unfold Memory.openSpace at h
  split at h
  · cases h
  · rename_i hok
    exact (Config.validate_eq_ok_iff c).mp hok

/-- A run that reports has opened a space, laid out three matrices and worked on them. -/
theorem runWith_eq_ok {draw : Nat → List Int32} (hn : o.size.toNat = n)
    (h : (runWith draw m o).1 = .ok report) :
    0 < n ∧ n * n * 4 ≤ pageSize ∧ ∃ s m₀ starts m₁ xs ys,
      m.openSpace o.config = (.ok s, m₀) ∧
      place m₀ s (if o.mixed then .alternate o.config.defaultKind else .default) (n * n * 4) =
        (.ok starts, m₁) ∧
      (exercise (m₁.note (.progress (.matricesPlaced starts.1 starts.2.1 starts.2.2))) s o
        ⟨starts.1, n⟩ ⟨starts.2.1, n⟩ ⟨starts.2.2, n⟩ xs ys).1 = .ok report := by
  obtain rfl := hn
  unfold runWith at h
  dsimp only at h
  split at h
  · cases h
  · rename_i hne
    split at h
    · cases h
    · rename_i size hbytes
      obtain ⟨rfl, fits⟩ := bytes_eq_ok hbytes
      split at h
      · cases h
      · rename_i s m₀ hopen
        split at h
        · cases h
        · rename_i a b c m₁ hplace
          exact ⟨Nat.pos_of_ne_zero hne, fits, s, m₀, (a, b, c), m₁, _, _, hopen, hplace, h⟩

/-- The pages of the space that a run opens have the kinds that its options say, one after
another, and each matrix lies in one of them. -/
theorem targets_place (hm : m.Sound) (hpos : 0 < n) (fits : n * n * 4 ≤ pageSize)
    {m₀ m₁ : Memory} {starts : Address × Address × Address}
    (hopen : m.openSpace o.config = (.ok s, m₀))
    (hplace : place m₀ s (if o.mixed then .alternate o.config.defaultKind else .default)
      (n * n * 4) = (.ok starts, m₁)) :
    let t := fun k => Bet.mk s (m₁.table s).generation (o.kindAt (k / perPage (n * n * 4)))
    m₁.Sound ∧ (m₁.table s).size = pagesFor (n * n * 4) 3 ∧ Targets m₁ s n starts.1 (t 0) ∧
      Targets m₁ s n starts.2.1 (t 1) ∧ Targets m₁ s n starts.2.2 (t 2) := by
  have hbytes : 0 < n * n * 4 := Nat.mul_pos (Nat.mul_pos hpos hpos) (by decide)
  obtain ⟨_, hopen', hopened⟩ := opened_openSpace hm (valid_of_openSpace hopen)
  cases hopen'.symm.trans hopen
  have hplaces := places_place hopened.sound hopened.known hopened.empty hbytes fits
    (Nat.mul_mod_left _ 4) (if o.mixed then .alternate o.config.defaultKind else .default)
  rw [hplace] at hplaces
  cases hplaces with
  | placed room ha hb hc pages he =>
    have hm₁ := he.sound hopened.sound
    have hregions := regions_of_starts hm₁ hpos fits ha hb hc pages
    have hkinds : ∀ q : PageId, q.toNat < (m₁.table m.spaces.size).size →
        (m₁.table m.spaces.size).kindOf? q = some (o.kindAt q.toNat) := by
      intro q hq
      rw [kinds_place hopened.sound hopened.empty hplace hq,
        he.config hopened.sound hopened.known, hopened.config, Options.getD_kind]
    exact ⟨hm₁, pages, targets_of_kinds hm₁ hpos fits hregions.first ha hkinds,
      targets_of_kinds hm₁ hpos fits hregions.second hb hkinds,
      targets_of_kinds hm₁ hpos fits hregions.third hc hkinds⟩

theorem relinks_runWith {draw : Nat → List Int32} (hm : m.Sound) (hn : o.size.toNat = n)
    (h : (runWith draw m o).1 = .ok report) :
    0 < n ∧ n * n * 4 ≤ pageSize ∧
      report.relinks = (3 * o.iterations.toNat - 1) *
        (if o.mixed = false ∨ 3 ≤ perPage (n * n * 4) then 0 else 2) ∧
      report.pages = pagesFor (n * n * 4) 3 := by
  obtain ⟨hpos, fits, s, m₀, starts, m₁, xs, ys, hopen, hplace, hexercise⟩ := runWith_eq_ok hn h
  obtain ⟨hm₁, pages, ha, hb, hc⟩ := targets_place hm hpos fits hopen hplace
  have ht : m₁.SameTables (m₁.note (.progress (.matricesPlaced starts.1 starts.2.1 starts.2.2))) :=
    Memory.sameTables_of_storage_eq (Memory.storage_note _ _)
  obtain ⟨hrelinks, hpages⟩ := relinks_exercise (hm₁.of_sameTables ht) hpos
    (ha.of_sameTables ht) (hb.of_sameTables ht) (hc.of_sameTables ht) hexercise
  have hpp := BumpAllocator.perPage_pos (Nat.mul_pos (Nat.mul_pos hpos hpos) (by decide)) fits
  refine ⟨hpos, fits, ?_, ?_⟩
  · rw [hrelinks, changes_of_kinds, if_congr (o.kindAt_eq_iff hpp) rfl rfl]
  · rw [hpages, ht.table, pages]

/-- What a run reports as relinked, whatever the numbers are. Nothing is relinked while all pages
are of one kind, and nothing if the matrices share a page. Otherwise, be it in two pages or in
three, each round has six relinks, and the first one two less. A 64-bit counter can hold that
for up to `2 ^ 64 / 6` rounds. -/
theorem relinks_per_switch {x : Session} (hx : x.Reachable) {draw : Nat → List Int32}
    (h : (runWith draw x.memory o).1 = .ok report) :
    let n := o.size.toNat
    let rounds := o.iterations.toNat
    (o.mixed = false ∨ rounds = 0 ∨ 12 * n * n ≤ pageSize → report.relinks = 0) ∧
    (o.mixed = true → 1 ≤ rounds → pageSize < 12 * n * n →
      report.relinks = 6 * rounds - 2) ∧
    (1 < report.pages ↔ pageSize < 12 * n * n) ∧
    (rounds ≤ UInt64.size / 6 → report.relinks < UInt64.size) := by
  intro n rounds
  obtain ⟨_, hf⟩ := hx.fits
  obtain ⟨hpos, fits, hrelinks, hpages⟩ := relinks_runWith hf.sound (n := n) rfl h
  have hbytes : 0 < n * n * 4 := Nat.mul_pos (Nat.mul_pos hpos hpos) (by decide)
  have hpp := BumpAllocator.perPage_pos hbytes fits
  have hshare : 3 ≤ perPage (n * n * 4) ↔ 12 * n * n ≤ pageSize := by
    rw [perPage, Nat.le_div_iff_mul_le hbytes, Nat.mul_assoc 12 n n]
    omega
  refine ⟨fun hnone => ?_, fun hmixed hrounds hapart => ?_, ?_, fun hheld => ?_⟩
  · rw [hrelinks]
    rcases hnone with hplain | hzero | hfit
    · rw [if_pos (.inl hplain), Nat.mul_zero]
    · have hrounds : o.iterations.toNat = 0 := hzero
      rw [hrounds, Nat.zero_mul]
    · rw [if_pos (.inr (hshare.mpr hfit)), Nat.mul_zero]
  · have hnot : ¬ (o.mixed = false ∨ 3 ≤ perPage (n * n * 4)) := by
      rw [hmixed, hshare]
      simp [hapart]
    rw [hrelinks, if_neg hnot]
    omega
  · have hlarge : pageSize < 12 * n * n ↔ perPage (n * n * 4) ≤ 2 := by
      rw [← Nat.not_le, ← hshare]
      omega
    have hsecond : 0 < 2 / perPage (n * n * 4) ↔ perPage (n * n * 4) ≤ 2 :=
      Nat.div_pos_iff.trans (and_iff_right hpp)
    rw [hpages, BumpAllocator.pagesFor_succ hbytes fits, hlarge, ← hsecond]
    omega
  · have hheld : o.iterations.toNat ≤ UInt64.size / 6 := hheld
    simp only [UInt64.size] at hheld ⊢
    rw [hrelinks]
    split <;> omega

/-- Two rounds of thirty by thirty matrices in pages of both kinds. -/
theorem relinks_per_switch_thirty :
    let draw : Nat → List Int32 := fun k => (List.range k).map fun i => Int32.ofNat i
    let o : Options := { size := 30, iterations := 2, mixed := true }
    let x := Session.start 1 {}
    x.Reachable ∧ ∃ report, (runWith draw x.memory o).1 = .ok report ∧
      report.relinks = 10 ∧ 1 < report.pages := by
  intro draw o x
  have hx : x.Reachable := ⟨1, {}, _, [], rfl⟩
  obtain ⟨_, hf⟩ := hx.fits
  have hdraw : ∀ k, (draw k).length = k := fun k => by simp [draw]
  have hsize : o.size.toNat = 30 := by decide
  have hvalid : o.config.Valid := by decide
  obtain ⟨_, _, _, report, hanswer, _⟩ :=
    (runWith_of_fits hf.sound (Supply.grants_unlimited _) hsize (by decide) (by decide) hvalid
      hdraw).2 (by decide)
  obtain ⟨_, hrelinks, hpages, _⟩ := relinks_per_switch hx hanswer
  exact ⟨hx, report, hanswer, hrelinks rfl (by decide) (by decide), hpages.mpr (by decide)⟩

end MatrixTest

end PagedMemory
