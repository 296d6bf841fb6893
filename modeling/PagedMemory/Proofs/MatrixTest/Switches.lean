import PagedMemory.Proofs.Call.Speculation
import PagedMemory.Proofs.MatrixTest.Products

/-! What the call sites of a product go through. All elements of a matrix lie in one page, so
that to a call site a product is one deed, however many elements it has, and a round is three.
Each site then relinks as often as the kind changes from one of its matrices to the next. -/

set_option autoImplicit false

namespace PagedMemory

abbrev Deed.hit (b : Bet) : Deed := .called (some b) true

namespace Shadow

/-- The relinks of a site that goes over from one target to another. -/
def switch (b b' : Bet) : Nat := if b = b' then 0 else 1

theorem after_hit (b b' : Bet) (n : Nat) :
    (Shadow.mk (some b) n).after (.hit b') = ⟨some b', n + switch b b'⟩ := by
  by_cases h : b = b'
  · simp [after, loses, switch, h]
  · simp [after, loses, switch, h]

theorem after_hit_unlinked (b : Bet) : ({} : Shadow).after (.hit b) = ⟨some b, 0⟩ := rfl

theorem run_replicate (w : Shadow) (d : Deed) {n : Nat} (hn : 0 < n) :
    w.run (.replicate n d) = w.run [d] := by
  induction n generalizing w with
  | zero => contradiction
  | succ n ih =>
    rcases Nat.eq_zero_or_pos n with rfl | hpos
    · rfl
    · have hrest : w.run (.replicate (n + 1) d) = (w.after d).run (.replicate n d) := rfl
      have hone : (w.after d).run [d] = (w.after d).after d := rfl
      rw [hrest, ih (w.after d) hpos, hone, after_after]
      rfl

def cycle (b₁ b₂ b₃ : Bet) (n : Nat) : List Deed :=
  (List.replicate n [Deed.hit b₁, .hit b₂, .hit b₃]).flatten

theorem cycle_succ (b₁ b₂ b₃ : Bet) (n : Nat) :
    cycle b₁ b₂ b₃ (n + 1) = [.hit b₁, .hit b₂, .hit b₃] ++ cycle b₁ b₂ b₃ n := by
  rw [cycle, List.replicate_succ, List.flatten_cons, cycle]

theorem run_cycle (b₁ b₂ b₃ : Bet) (r n : Nat) :
    (Shadow.mk (some b₃) r).run (cycle b₁ b₂ b₃ n) =
      ⟨some b₃, r + n * (switch b₃ b₁ + switch b₁ b₂ + switch b₂ b₃)⟩ := by
  induction n generalizing r with
  | zero => simp [cycle, run]
  | succ n ih =>
    have hround : (Shadow.mk (some b₃) r).run [.hit b₁, .hit b₂, .hit b₃] =
        ⟨some b₃, r + switch b₃ b₁ + switch b₁ b₂ + switch b₂ b₃⟩ := by
      simp only [run, List.foldl_cons, List.foldl_nil, after_hit]
    rw [cycle_succ, run_append, hround, ih, Nat.succ_mul]
    simp only [Shadow.mk.injEq, true_and]
    omega

/-- The first round of a site that is not linked yet has one call that risks nothing. -/
theorem relinks_cycle (b₁ b₂ b₃ : Bet) (n : Nat) :
    (({} : Shadow).run (cycle b₁ b₂ b₃ (n + 1))).relinks = switch b₁ b₂ + switch b₂ b₃ +
      n * (switch b₃ b₁ + switch b₁ b₂ + switch b₂ b₃) := by
  have hround : ({} : Shadow).run [.hit b₁, .hit b₂, .hit b₃] =
      ⟨some b₃, 0 + switch b₁ b₂ + switch b₂ b₃⟩ := by
    simp only [run, List.foldl_cons, List.foldl_nil, after_hit_unlinked, after_hit]
  rw [cycle_succ, run_append, hround, run_cycle, Nat.zero_add]

end Shadow

namespace CallSite

variable {sh : Shape} {site site' : CallSite sh} {m m' : Memory} {s : SpaceId} {args : sh.Args}

theorem Serving.of_sameTables (h : site.Serving m) (ht : m.SameTables m') : site.Serving m' :=
  ⟨fun g hg => (h.bound g hg).of_sameTables ht, h.serves⟩

theorem Serving.after_call (h : site.Serving m) (hm : m.Sound) {v : sh.Output}
    (hcall : site.call m s args = (.ok v, site', m')) {t : Bet}
    (ht : m.target? s (sh.page args) = some t) :
    site'.Serving m' ∧ m.SameTables m' ∧ site'.shadow = site.shadow.run [.hit t] := by
  obtain ⟨hf, hl⟩ := call_spec s args hm h.bound
  have hshadow := shadow_call hm h.bound s args
  rw [hcall] at hf hl hshadow
  rw [ht] at hshadow
  exact ⟨⟨hf.past hm h.bound hl.evolves, hf.operation ▸ h.serves⟩, hl.sameTables, hshadow⟩

end CallSite

namespace MatrixTest

variable {m m' m'' : Memory} {s : SpaceId} {n : Nat} {a b c x y out : Address}
  {sites sites' sites'' : Sites} {ta tb tc tx ty tout : Bet}

def Targets (m : Memory) (s : SpaceId) (n : Nat) (base : Address) (t : Bet) : Prop :=
  ∀ i < n, ∀ j < n, m.target? s (Matrix.entry ⟨base, n⟩ i j).page = some t

theorem Targets.of_sameTables (h : Targets m s n a ta) (ht : m.SameTables m') :
    Targets m' s n a ta := by
  intro i hi j hj
  rw [ht.target?]
  exact h i hi j hj

theorem Sites.Ready.of_sameTables (h : sites.Ready m) (ht : m.SameTables m') : sites.Ready m' :=
  ⟨h.left.of_sameTables ht, h.right.of_sameTables ht, h.store.of_sameTables ht⟩

/-- What the sites go through from one moment to another, each its own deeds. -/
structure Sites.Does (left right store : List Deed) (sites : Sites) (m : Memory) (sites' : Sites)
    (m' : Memory) : Prop where
  tables : m.SameTables m'
  ready : sites'.Ready m'
  left : sites'.left.shadow = sites.left.shadow.run left
  right : sites'.right.shadow = sites.right.shadow.run right
  store : sites'.store.shadow = sites.store.shadow.run store

namespace Sites

variable {left left' right right' store store' : List Deed}

theorem Ready.does_nothing (h : sites.Ready m) : Does [] [] [] sites m sites m :=
  ⟨.refl m, h, rfl, rfl, rfl⟩

theorem Does.trans (h : Does left right store sites m sites' m')
    (h' : Does left' right' store' sites' m' sites'' m'') :
    Does (left ++ left') (right ++ right') (store ++ store') sites m sites'' m'' where
  tables := h.tables.trans h'.tables
  ready := h'.ready
  left := by rw [h'.left, h.left, Shadow.run_append]
  right := by rw [h'.right, h.right, Shadow.run_append]
  store := by rw [h'.store, h.store, Shadow.run_append]

theorem Does.once {d e : Deed} {n : Nat}
    (h : Does (.replicate n d) (.replicate n e) store sites m sites' m') (hn : 0 < n) :
    Does [d] [e] store sites m sites' m' where
  tables := h.tables
  ready := h.ready
  left := by rw [h.left, Shadow.run_replicate _ _ hn]
  right := by rw [h.right, Shadow.run_replicate _ _ hn]
  store := h.store

theorem Does.once_all {d e f : Deed} {n : Nat}
    (h : Does (.replicate n d) (.replicate n e) (.replicate n f) sites m sites' m')
    (hn : 0 < n) : Does [d] [e] [f] sites m sites' m' where
  tables := h.tables
  ready := h.ready
  left := by rw [h.left, Shadow.run_replicate _ _ hn]
  right := by rw [h.right, Shadow.run_replicate _ _ hn]
  store := by rw [h.store, Shadow.run_replicate _ _ hn]

section Ends
variable {left right out : Matrix} {i j k : Nat} {ks : List Nat} {sum total : Int32}

theorem dot_cons_eq_ok (h : dot s left right i j (k :: ks) sum sites m = (.ok total, sites', m')) :
    ∃ u site₁ m₁ v site₂ m₂, sites.left.call m s (left.entry i k) = (.ok u, site₁, m₁) ∧
      sites.right.call m₁ s (right.entry k j) = (.ok v, site₂, m₂) ∧
      dot s left right i j ks (sum + u * v) { sites with left := site₁, right := site₂ } m₂ =
        (.ok total, sites', m') := by
  unfold dot at h
  split at h
  · cases h
  · rename_i u site₁ m₁ hleft
    split at h
    · cases h
    · rename_i v site₂ m₂ hright
      exact ⟨u, site₁, m₁, v, site₂, m₂, hleft, hright, h⟩

theorem row_cons_eq_ok (h : row s left right out i (j :: ks) sites m = (.ok (), sites', m')) :
    ∃ sum sites₁ m₁ site m₂,
      dot s left right i j (List.range left.size) 0 sites m = (.ok sum, sites₁, m₁) ∧
      sites₁.store.call m₁ s (out.entry i j, sum) = (.ok (), site, m₂) ∧
      row s left right out i ks { sites₁ with store := site } m₂ = (.ok (), sites', m') := by
  unfold row at h
  split at h
  · cases h
  · rename_i sum sites₁ m₁ hdot
    split at h
    · cases h
    · rename_i site m₂ hstore
      exact ⟨sum, sites₁, m₁, site, m₂, hdot, hstore, h⟩

theorem rows_cons_eq_ok (h : rows s left right out (i :: ks) sites m = (.ok (), sites', m')) :
    ∃ sites₁ m₁, row s left right out i (List.range left.size) sites m = (.ok (), sites₁, m₁) ∧
      rows s left right out ks sites₁ m₁ = (.ok (), sites', m') := by
  unfold rows at h
  split at h
  · cases h
  · rename_i sites₁ m₁ hrow
    exact ⟨sites₁, m₁, hrow, h⟩

theorem round_eq_ok {a b c : Matrix} (h : round s a b c sites m = (.ok (), sites', m')) :
    ∃ sites₁ m₁ sites₂ m₂, multiply s a b c sites m = (.ok (), sites₁, m₁) ∧
      multiply s c a b sites₁ m₁ = (.ok (), sites₂, m₂) ∧
      multiply s b c a sites₂ m₂ = (.ok (), sites', m') := by
  unfold round at h
  split at h
  · cases h
  · rename_i sites₁ m₁ hfirst
    split at h
    · cases h
    · rename_i sites₂ m₂ hsecond
      exact ⟨sites₁, m₁, sites₂, m₂, hfirst, hsecond, h⟩

theorem rounds_succ_eq_ok {a b c : Matrix}
    (h : rounds s a b c (n + 1) sites m = (.ok (), sites', m')) :
    ∃ sites₁ m₁, round s a b c sites m = (.ok (), sites₁, m₁) ∧
      rounds s a b c n sites₁ m₁ = (.ok (), sites', m') := by
  unfold rounds at h
  split at h
  · cases h
  · rename_i sites₁ m₁ hround
    exact ⟨sites₁, m₁, hround, h⟩

end Ends

theorem does_dot (hm : m.Sound) (hready : sites.Ready m) (hx : Targets m s n x tx)
    (hy : Targets m s n y ty) {i j : Nat} (hi : i < n) (hj : j < n) {ks : List Nat}
    (hks : ∀ k ∈ ks, k < n) {sum total : Int32}
    (h : dot s ⟨x, n⟩ ⟨y, n⟩ i j ks sum sites m = (.ok total, sites', m')) :
    Does (.replicate ks.length (.hit tx)) (.replicate ks.length (.hit ty)) [] sites m
      sites' m' := by
  induction ks generalizing sum sites m with
  | nil =>
    cases h
    exact hready.does_nothing
  | cons k ks ih =>
    have hk : k < n := hks k List.mem_cons_self
    obtain ⟨_, left, m₁, _, right, m₂, hleft, hright, hrest⟩ := dot_cons_eq_ok h
    obtain ⟨hserving₁, ht₁, hleft₁⟩ := hready.left.after_call hm hleft (hx i hi k hk)
    obtain ⟨hserving₂, ht₂, hright₂⟩ := (hready.right.of_sameTables ht₁).after_call
      (hm.of_sameTables ht₁) hright (hy.of_sameTables ht₁ k hk j hj)
    have ht := ht₁.trans ht₂
    have hfirst : Does [.hit tx] [.hit ty] [] sites m
        { sites with left := left, right := right } m₂ :=
      ⟨ht, ⟨hserving₁.of_sameTables ht₂, hserving₂, hready.store.of_sameTables ht⟩, hleft₁,
        hright₂, rfl⟩
    exact hfirst.trans (ih (hm.of_sameTables ht) hfirst.ready (hx.of_sameTables ht)
      (hy.of_sameTables ht) (fun k hk => hks k (List.mem_cons_of_mem _ hk)) hrest)

theorem does_row (hm : m.Sound) (hready : sites.Ready m) (hx : Targets m s n x tx)
    (hy : Targets m s n y ty) (hout : Targets m s n out tout) {i : Nat} (hi : i < n)
    {js : List Nat} (hjs : ∀ j ∈ js, j < n)
    (h : row s ⟨x, n⟩ ⟨y, n⟩ ⟨out, n⟩ i js sites m = (.ok (), sites', m')) :
    Does (.replicate js.length (.hit tx)) (.replicate js.length (.hit ty))
      (.replicate js.length (.hit tout)) sites m sites' m' := by
  induction js generalizing sites m with
  | nil =>
    cases h
    exact hready.does_nothing
  | cons j js ih =>
    have hj : j < n := hjs j List.mem_cons_self
    have hn : 0 < (List.range n).length := by
      rw [List.length_range]
      omega
    obtain ⟨_, sites₁, m₁, store, m₂, hdot, hstore, hrest⟩ := row_cons_eq_ok h
    -- Reading a row and a column is as much as reading one element of each.
    have hread := (does_dot hm hready hx hy hi hj (fun k => List.mem_range.mp) hdot).once hn
    obtain ⟨hserving, ht₂, hstore₂⟩ := hread.ready.store.after_call (hm.of_sameTables hread.tables)
      hstore (hout.of_sameTables hread.tables i hi j hj)
    have hwrite : Does [] [] [.hit tout] sites₁ m₁ { sites₁ with store := store } m₂ :=
      ⟨ht₂, ⟨hread.ready.left.of_sameTables ht₂, hread.ready.right.of_sameTables ht₂, hserving⟩,
        rfl, rfl, hstore₂⟩
    have hfirst := hread.trans hwrite
    have ht := hfirst.tables
    exact hfirst.trans (ih (hm.of_sameTables ht) hfirst.ready (hx.of_sameTables ht)
      (hy.of_sameTables ht) (hout.of_sameTables ht)
      (fun j hj => hjs j (List.mem_cons_of_mem _ hj)) hrest)

theorem does_rows (hm : m.Sound) (hready : sites.Ready m) (hx : Targets m s n x tx)
    (hy : Targets m s n y ty) (hout : Targets m s n out tout) {is : List Nat}
    (his : ∀ i ∈ is, i < n)
    (h : rows s ⟨x, n⟩ ⟨y, n⟩ ⟨out, n⟩ is sites m = (.ok (), sites', m')) :
    Does (.replicate is.length (.hit tx)) (.replicate is.length (.hit ty))
      (.replicate is.length (.hit tout)) sites m sites' m' := by
  induction is generalizing sites m with
  | nil =>
    cases h
    exact hready.does_nothing
  | cons i is ih =>
    have hi : i < n := his i List.mem_cons_self
    have hn : 0 < (List.range n).length := by
      rw [List.length_range]
      omega
    obtain ⟨sites₁, m₁, hrow, hrest⟩ := rows_cons_eq_ok h
    have hfirst :=
      (does_row hm hready hx hy hout hi (fun j => List.mem_range.mp) hrow).once_all hn
    have ht := hfirst.tables
    exact hfirst.trans (ih (hm.of_sameTables ht) hfirst.ready (hx.of_sameTables ht)
      (hy.of_sameTables ht) (hout.of_sameTables ht)
      (fun i hi => his i (List.mem_cons_of_mem _ hi)) hrest)

theorem does_multiply (hm : m.Sound) (hready : sites.Ready m) (hn : 0 < n)
    (hx : Targets m s n x tx) (hy : Targets m s n y ty) (hout : Targets m s n out tout)
    (h : multiply s ⟨x, n⟩ ⟨y, n⟩ ⟨out, n⟩ sites m = (.ok (), sites', m')) :
    Does [.hit tx] [.hit ty] [.hit tout] sites m sites' m' :=
  (does_rows hm hready hx hy hout (fun _ => List.mem_range.mp) h).once_all
    (List.length_range.symm ▸ hn)

/-- In a round each site goes through all three matrices. -/
theorem does_round (hm : m.Sound) (hready : sites.Ready m) (hn : 0 < n)
    (ha : Targets m s n a ta) (hb : Targets m s n b tb) (hc : Targets m s n c tc)
    (h : round s ⟨a, n⟩ ⟨b, n⟩ ⟨c, n⟩ sites m = (.ok (), sites', m')) :
    Does [.hit ta, .hit tc, .hit tb] [.hit tb, .hit ta, .hit tc] [.hit tc, .hit tb, .hit ta]
      sites m sites' m' := by
  obtain ⟨sites₁, m₁, sites₂, m₂, hfirst, hsecond, hthird⟩ := round_eq_ok h
  have hdoes₁ := does_multiply hm hready hn ha hb hc hfirst
  have ht₁ := hdoes₁.tables
  have hdoes₂ := hdoes₁.trans (does_multiply (hm.of_sameTables ht₁) hdoes₁.ready hn
    (hc.of_sameTables ht₁) (ha.of_sameTables ht₁) (hb.of_sameTables ht₁) hsecond)
  have ht₂ := hdoes₂.tables
  exact hdoes₂.trans (does_multiply (hm.of_sameTables ht₂) hdoes₂.ready hn
    (hb.of_sameTables ht₂) (hc.of_sameTables ht₂) (ha.of_sameTables ht₂) hthird)

theorem does_rounds (hm : m.Sound) (hready : sites.Ready m) (hn : 0 < n)
    (ha : Targets m s n a ta) (hb : Targets m s n b tb) (hc : Targets m s n c tc)
    {iterations : Nat}
    (h : rounds s ⟨a, n⟩ ⟨b, n⟩ ⟨c, n⟩ iterations sites m = (.ok (), sites', m')) :
    Does (Shadow.cycle ta tc tb iterations) (Shadow.cycle tb ta tc iterations)
      (Shadow.cycle tc tb ta iterations) sites m sites' m' := by
  induction iterations generalizing sites m with
  | zero =>
    cases h
    exact hready.does_nothing
  | succ iterations ih =>
    obtain ⟨sites₁, m₁, hround, hrest⟩ := rounds_succ_eq_ok h
    have hfirst := does_round hm hready hn ha hb hc hround
    have ht := hfirst.tables
    simp only [Shadow.cycle_succ]
    exact hfirst.trans (ih (hm.of_sameTables ht) hfirst.ready (ha.of_sameTables ht)
      (hb.of_sameTables ht) (hc.of_sameTables ht) hrest)

/-- How often the target changes from one of three matrices to the next, around once. -/
def changes (ta tb tc : Bet) : Nat :=
  Shadow.switch ta tc + Shadow.switch tc tb + Shadow.switch tb ta

/-- Fresh sites relink at every change but one each, for they start with nothing linked. -/
theorem relinks_rounds (hm : m.Sound) (hn : 0 < n) (ha : Targets m s n a ta)
    (hb : Targets m s n b tb) (hc : Targets m s n c tc) {iterations : Nat}
    (h : rounds s ⟨a, n⟩ ⟨b, n⟩ ⟨c, n⟩ iterations {} m = (.ok (), sites', m')) :
    sites'.relinks = (3 * iterations - 1) * changes ta tb tc := by
  have hdoes := does_rounds hm (Sites.ready m) hn ha hb hc h
  have hleft :
      sites'.left.relinks = (({} : Shadow).run (Shadow.cycle ta tc tb iterations)).relinks :=
    congrArg Shadow.relinks hdoes.left
  have hright :
      sites'.right.relinks = (({} : Shadow).run (Shadow.cycle tb ta tc iterations)).relinks :=
    congrArg Shadow.relinks hdoes.right
  have hstore :
      sites'.store.relinks = (({} : Shadow).run (Shadow.cycle tc tb ta iterations)).relinks :=
    congrArg Shadow.relinks hdoes.store
  rw [Sites.relinks, hleft, hright, hstore]
  cases iterations with
  | zero => simp [Shadow.cycle, Shadow.run]
  | succ iterations =>
    have hbac : Shadow.switch tb ta + Shadow.switch ta tc + Shadow.switch tc tb =
        changes ta tb tc := by
      unfold changes
      omega
    have hcba : Shadow.switch tc tb + Shadow.switch tb ta + Shadow.switch ta tc =
        changes ta tb tc := by
      unfold changes
      omega
    have hturns : 3 * (iterations + 1) - 1 = 2 + 3 * iterations := by omega
    rw [Shadow.relinks_cycle, Shadow.relinks_cycle, Shadow.relinks_cycle, hbac, hcba, ← changes,
      hturns, Nat.add_mul, Nat.mul_assoc]
    unfold changes
    omega

end Sites

end MatrixTest

end PagedMemory
