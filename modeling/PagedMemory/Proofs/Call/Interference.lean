import PagedMemory.Proofs.Session.Runs

/-! Calls while others grow the space. A call is a loop of two stages, and between any two
of its steps other threads may complete growths. An accessor that was just linked is turned
away only if the table grew since, so each growth costs at most one more round: what is
still due of a call goes down with each of its steps and goes up by at most one round with
each growth. -/

set_option autoImplicit false

namespace PagedMemory

namespace CallSite

/-- What happens next while a call is under way: a step of its own, or a request for a page
that another thread completes. -/
inductive Move where
  | step
  | grow (kind : Option PageKind)
  deriving DecidableEq, Repr

def Move.growths (mvs : List Move) : Nat := mvs.countP fun mv => mv != .step

structure Underway (sh : Shape) where
  stage : Stage sh.Output
  site : CallSite sh
  memory : Memory
  resolved : Nat := 0

namespace Underway

variable {sh : Shape}

def start (site : CallSite sh) (m : Memory) : Underway sh := ⟨.invoke, site, m, 0⟩

def resolves (c : Underway sh) : Nat :=
  match c.stage with
  | .resolve => 1
  | _ => 0

def move (s : SpaceId) (args : sh.Args) (c : Underway sh) : Move → Underway sh
  | .step =>
    let (stage, site, m) := CallSite.step s args c.stage c.site c.memory
    ⟨stage, site, m, c.resolved + c.resolves⟩
  | .grow kind => { c with memory := (c.memory.allocatePage s kind).2 }

def run (s : SpaceId) (args : sh.Args) (c : Underway sh) (mvs : List Move) : Underway sh :=
  mvs.foldl (move s args) c

def stale (s : SpaceId) (args : sh.Args) (c : Underway sh) : Bool :=
  match c.site.linked with
  | some g => (g.served? c.memory s (sh.page args)).isNone
  | none => false

def discardsDue (s : SpaceId) (args : sh.Args) (c : Underway sh) : Nat :=
  match c.stage with
  | .invoke => if c.stale s args then 1 else 0
  | _ => 0

def resolutionsDue (s : SpaceId) (args : sh.Args) (c : Underway sh) : Nat :=
  match c.stage with
  | .invoke => if c.site.linked.isNone ∨ c.stale s args then 1 else 0
  | .resolve => 1
  | .done _ => 0

def stepsDue (s : SpaceId) (args : sh.Args) (c : Underway sh) : Nat :=
  match c.stage with
  | .invoke => 1 + 2 * c.resolutionsDue s args
  | .resolve => 2
  | .done _ => 0

variable {s : SpaceId} {args : sh.Args} {c c' : Underway sh}

theorem discardsDue_le (s : SpaceId) (args : sh.Args) (c : Underway sh) :
    c.discardsDue s args ≤ 1 := by
  unfold discardsDue
  split
  · split <;> omega
  · omega

theorem resolutionsDue_le (s : SpaceId) (args : sh.Args) (c : Underway sh) :
    c.resolutionsDue s args ≤ 1 := by
  unfold resolutionsDue
  split
  · split <;> omega
  · omega
  · omega

theorem stale_congr (hsite : c'.site = c.site) (h : c'.memory.storage = c.memory.storage) :
    c'.stale s args = c.stale s args := by
  unfold stale
  rw [hsite]
  cases c.site.linked with
  | none => rfl
  | some g => simp only [Guard.served?_congr h]

theorem move_step_eq (c : Underway sh) : c.move s args .step =
    ⟨(CallSite.step s args c.stage c.site c.memory).1,
      (CallSite.step s args c.stage c.site c.memory).2.1,
      (CallSite.step s args c.stage c.site c.memory).2.2, c.resolved + c.resolves⟩ := rfl

theorem move_step_of_done {answer : Except MemoryError sh.Output} (h : c.stage = .done answer) :
    c.move s args .step = c := by
  obtain ⟨stage, site, m, n⟩ := c
  obtain rfl : stage = .done answer := h
  rfl

/-- What a step of the call makes of it: nothing that it does exceeds what was due. -/
structure Forward (s : SpaceId) (args : sh.Args) (c c' : Underway sh) : Prop where
  tables : Memory.SameTables c.memory c'.memory
  discards : c'.site.relinks + c'.discardsDue s args ≤ c.site.relinks + c.discardsDue s args
  resolutions : c'.resolved + c'.resolutionsDue s args ≤ c.resolved + c.resolutionsDue s args
  steps : (∃ answer, c.stage = .done answer ∧ c' = c) ∨
    c'.stepsDue s args + 1 ≤ c.stepsDue s args

theorem forward_step (c : Underway sh) (hm : c.memory.Sound) (s : SpaceId) (args : sh.Args) :
    Forward s args c (c.move s args .step) := by
  by_cases hdone : ∃ answer, c.stage = .done answer
  · obtain ⟨answer, hdone⟩ := hdone
    rw [move_step_of_done hdone]
    exact ⟨.refl _, Nat.le_refl _, Nat.le_refl _, .inl ⟨answer, hdone, rfl⟩⟩
  obtain ⟨stage, site, m, n⟩ := c
  have hstep := takes_step s args site m stage fun answer h => hdone ⟨answer, h⟩
  have htables := Memory.sameTables_of_storage_eq (storage_relink site m s args)
  rw [move_step_eq]
  generalize CallSite.step s args stage site m = r at hstep
  cases hstep with
  | unlinked hl =>
    refine ⟨.refl m, ?_, ?_, .inr ?_⟩
    · simp [discardsDue]
    · simp [resolutionsDue, resolves, hl]
    · simp [stepsDue, resolutionsDue, hl]
  | @served g p hl hp =>
    refine ⟨Memory.sameTables_perform p sh args, ?_, ?_, .inr ?_⟩
    · simp [discardsDue]
    · simp [resolutionsDue, resolves]
    · simp [stepsDue]
  | stale hl hp =>
    refine ⟨Memory.sameTables_of_storage_eq (storage_discard site m s), ?_, ?_, .inr ?_⟩
    · simp [discardsDue, stale, hl, hp, discard]
    · simp [resolutionsDue, resolves, stale, hl, hp]
    · simp [stepsDue, resolutionsDue, stale, hl, hp]
  | failed hr =>
    rw [hr] at htables
    refine ⟨htables, ?_, ?_, .inr ?_⟩
    · simp [discardsDue]
    · simp [resolutionsDue, resolves]
    · simp [stepsDue]
  | linked hk hr =>
    rw [hr] at htables
    -- The fresh accessor is bound to what is current, so it is not turned away.
    rw [(hm.aligned s).kindOf?] at hk
    obtain ⟨p, hp, rfl⟩ := Option.map_eq_some_iff.mp hk
    have hserved := Guard.fresh_served? hm htables hp
    refine ⟨htables, ?_, ?_, .inr ?_⟩
    · simp [discardsDue, stale, hserved]
    · simp [resolutionsDue, resolves, stale, hserved]
    · simp [stepsDue, resolutionsDue, stale, hserved]

theorem stepsDue_le {d : Nat} (hstage : c'.stage = c.stage)
    (h : c'.resolutionsDue s args ≤ c.resolutionsDue s args + d) :
    c'.stepsDue s args ≤ c.stepsDue s args + 2 * d := by
  unfold stepsDue
  rw [hstage]
  split
  · omega
  · omega
  · omega

/-- A growth makes at most one more round due; a request that is refused makes none due. -/
theorem dues_grow (c : Underway sh) (s : SpaceId) (args : sh.Args) (kind : Option PageKind) :
    let c' := c.move s args (.grow kind)
    ∃ d ≤ 1, (c'.memory.table s).size = (c.memory.table s).size + d ∧
      c'.discardsDue s args ≤ c.discardsDue s args + d ∧
      c'.resolutionsDue s args ≤ c.resolutionsDue s args + d ∧
      c'.stepsDue s args ≤ c.stepsDue s args + 2 * d := by
  intro c'
  have hstage : c'.stage = c.stage := rfl
  have hsite : c'.site = c.site := rfl
  have hallocates := Memory.allocates_allocatePage c.memory s kind
  cases h : c.memory.allocatePage s kind with
  | mk answer m' =>
  have hm' : c'.memory = m' := congrArg Prod.snd h
  rw [h] at hallocates
  cases hallocates with
  | full _ hs | refused _ _ hs =>
    have hstale : c'.stale s args = c.stale s args := stale_congr rfl (hm' ▸ hs)
    have hresolutions : c'.resolutionsDue s args ≤ c.resolutionsDue s args + 0 := by
      simp only [resolutionsDue, hstage, hsite, hstale, Nat.add_zero, Nat.le_refl]
    refine ⟨0, Nat.zero_le _, ?_, ?_, hresolutions, stepsDue_le hstage hresolutions⟩
    · rw [hm', Memory.table_congr hs, Nat.add_zero]
    · simp only [discardsDue, hstage, hstale, Nat.add_zero, Nat.le_refl]
  | granted room _ hs =>
    have hresolutions : c'.resolutionsDue s args ≤ c.resolutionsDue s args + 1 :=
      Nat.le_trans (resolutionsDue_le s args c') (Nat.le_add_left _ _)
    refine ⟨1, Nat.le_refl _, ?_, ?_, hresolutions, stepsDue_le hstage hresolutions⟩
    · rw [hm', Memory.table_congr hs, Memory.size_table_extend (Memory.lt_size_of_room room)]
    · exact Nat.le_trans (discardsDue_le s args c') (Nat.le_add_left _ _)

structure Bounded (s : SpaceId) (args : sh.Args) (site : CallSite sh) (m : Memory)
    (mvs : List Move) (c : Underway sh) : Prop where
  sound : c.memory.Sound
  config : (c.memory.space s).config = (m.space s).config
  pages : (c.memory.table s).size ≤ (m.table s).size + Move.growths mvs
  -- A page that the space has gained pays for a discard, a resolution and two steps more.
  discards : c.site.relinks + c.discardsDue s args + (m.table s).size ≤
    site.relinks + 1 + (c.memory.table s).size
  resolutions : c.resolved + c.resolutionsDue s args + (m.table s).size ≤
    1 + (c.memory.table s).size
  steps : (∃ answer, c.stage = .done answer) ∨
    mvs.count .step + c.stepsDue s args + 2 * (m.table s).size ≤
      3 + 2 * (c.memory.table s).size

variable {site : CallSite sh} {m : Memory} {mvs : List Move}

theorem bounded_start (hm : m.Sound) (site : CallSite sh) (s : SpaceId) (args : sh.Args) :
    Bounded s args site m [] (start site m) where
  sound := hm
  config := rfl
  pages := Nat.le_refl _
  discards := by
    have h := discardsDue_le s args (start site m)
    simp only [start] at h ⊢
    omega
  resolutions := by
    have h := resolutionsDue_le s args (start site m)
    simp only [start] at h ⊢
    omega
  steps := by
    have h := resolutionsDue_le s args (start site m)
    refine .inr ?_
    simp only [start, stepsDue, List.count_nil] at h ⊢
    omega

theorem Bounded.step (h : Bounded s args site m mvs c) :
    Bounded s args site m (mvs ++ [.step]) (c.move s args .step) := by
  have hf := forward_step c h.sound s args
  have ht := hf.tables
  refine ⟨h.sound.of_sameTables ht, (ht.config s).trans h.config, ?_, ?_, ?_, ?_⟩
  · have hp := h.pages
    simpa [ht.table s, Move.growths] using hp
  · have hd := h.discards
    have hfd := hf.discards
    rw [ht.table s]
    omega
  · have hr := h.resolutions
    have hfr := hf.resolutions
    rw [ht.table s]
    omega
  · rcases hf.steps with ⟨answer, hdone, heq⟩ | hfs
    · exact .inl ⟨answer, by rw [heq, hdone]⟩
    · rcases h.steps with ⟨answer, hdone⟩ | hs
      · simp [stepsDue, hdone] at hfs
      · refine .inr ?_
        rw [ht.table s, List.count_append, List.count_singleton_self]
        omega

theorem Bounded.grow (h : Bounded s args site m mvs c) (kind : Option PageKind) :
    Bounded s args site m (mvs ++ [.grow kind]) (c.move s args (.grow kind)) := by
  obtain ⟨d, hd, hpages, hdiscards, hresolutions, hsteps⟩ := dues_grow c s args kind
  have hsite : (c.move s args (.grow kind)).site = c.site := rfl
  have hresolved : (c.move s args (.grow kind)).resolved = c.resolved := rfl
  refine ⟨(Memory.advance_allocatePage c.memory s kind).sound h.sound, ?_, ?_, ?_, ?_, ?_⟩
  · exact (Memory.config_allocatePage c.memory s kind s).trans h.config
  · have hp := h.pages
    have hgrowths : Move.growths (mvs ++ [.grow kind]) = Move.growths mvs + 1 := by
      simp [Move.growths]
    omega
  · have hb := h.discards
    rw [hsite]
    omega
  · have hb := h.resolutions
    rw [hresolved]
    omega
  · rcases h.steps with hdone | hb
    · exact .inl hdone
    · have hcount : (mvs ++ [Move.grow kind]).count .step = mvs.count .step := by simp
      exact .inr (by omega)

theorem Bounded.move (h : Bounded s args site m mvs c) (mv : Move) :
    Bounded s args site m (mvs ++ [mv]) (c.move s args mv) := by
  cases mv with
  | step => exact h.step
  | grow kind => exact h.grow kind

theorem Bounded.run (h : Bounded s args site m mvs c) (more : List Move) :
    Bounded s args site m (mvs ++ more) (c.run s args more) := by
  induction more generalizing mvs c with
  | nil => simpa [Underway.run] using h
  | cons mv more ih =>
    have hrest := ih (h.move mv)
    rw [List.append_assoc] at hrest
    exact hrest

theorem bounded_run (hm : m.Sound) (site : CallSite sh) (s : SpaceId) (args : sh.Args)
    (mvs : List Move) : Bounded s args site m mvs ((start site m).run s args mvs) :=
  (bounded_start hm site s args).run mvs

theorem Bounded.done (h : Bounded s args site m mvs c)
    (hlong : 2 * Move.growths mvs + 3 ≤ mvs.count .step) : ∃ answer, c.stage = .done answer := by
  rcases h.steps with hdone | hs
  · exact hdone
  · have hp := h.pages
    have hdue : c.stepsDue s args = 0 := by omega
    obtain ⟨stage, site', m', n⟩ := c
    cases stage with
    | done answer => exact ⟨answer, rfl⟩
    | invoke => simp [stepsDue] at hdue
    | resolve => simp [stepsDue] at hdue

theorem Bounded.relinks_le (h : Bounded s args site m mvs c) :
    c.site.relinks ≤ site.relinks + (Move.growths mvs + 1) := by
  have hp := h.pages
  have hd := h.discards
  omega

theorem Bounded.resolved_le (h : Bounded s args site m mvs c) :
    c.resolved ≤ Move.growths mvs + 1 := by
  have hp := h.pages
  have hr := h.resolutions
  omega

theorem Bounded.relinks_le_room (h : Bounded s args site m mvs c) :
    c.site.relinks ≤
      site.relinks + ((m.space s).config.maxPages.toNat - (m.table s).size + 1) := by
  have hd := h.discards
  have hb := h.sound.bounded s
  rw [h.config] at hb
  omega

/-- The call has not failed and will not fail: the page that it is about stays mapped. -/
structure Hopeful (s : SpaceId) (args : sh.Args) (c : Underway sh) : Prop where
  sound : c.memory.Sound
  serves : c.site.operation.Serves sh
  mapped : ∃ p, (c.memory.table s).page? (sh.page args) = some p
  answer : ∀ e, c.stage ≠ .done (.error e)

theorem hopeful_start (hm : m.Sound) (hop : site.operation.Serves sh)
    (hp : ∃ p, (m.table s).page? (sh.page args) = some p) :
    Hopeful s args (start site m) :=
  ⟨hm, hop, hp, fun _ h => by simp [start] at h⟩

theorem Hopeful.step (h : Hopeful s args c) : Hopeful s args (c.move s args .step) := by
  by_cases hdone : ∃ answer, c.stage = .done answer
  · obtain ⟨answer, hdone⟩ := hdone
    rw [move_step_of_done hdone]
    exact h
  have hf := forward_step c h.sound s args
  have hsound := h.sound.of_sameTables hf.tables
  have hmapped := h.mapped
  rw [← hf.tables.table s] at hmapped
  obtain ⟨stage, site, m, n⟩ := c
  have hstep := takes_step s args site m stage fun answer h => hdone ⟨answer, h⟩
  rw [move_step_eq] at hsound hmapped ⊢
  dsimp only at hsound hmapped ⊢
  generalize CallSite.step s args stage site m = r at hstep hsound hmapped
  cases hstep with
  | unlinked hl => exact ⟨hsound, h.serves, hmapped, fun _ h => by contradiction⟩
  | served hl hp => exact ⟨hsound, h.serves, hmapped, fun _ h => by simp at h⟩
  | stale hl hp => exact ⟨hsound, h.serves, hmapped, fun _ h => by contradiction⟩
  | linked hk hr => exact ⟨hsound, h.serves, hmapped, fun _ h => by contradiction⟩
  | failed hr =>
    obtain ⟨p, hp⟩ := h.mapped
    have hk : (m.table s).kindOf? (sh.page args) = some p.kind := by
      rw [(h.sound.aligned s).kindOf?, hp, Option.map_some]
    obtain ⟨m', hok, _⟩ := relink_of_kind site h.serves hk
    rw [hr] at hok
    simp at hok

theorem Hopeful.grow (h : Hopeful s args c) (kind : Option PageKind) :
    Hopeful s args (c.move s args (.grow kind)) := by
  have ha := Memory.advance_allocatePage c.memory s kind
  obtain ⟨p, hp⟩ := h.mapped
  have hpast := ha.past h.sound (h.sound.past_table (Memory.lt_size_of_page hp))
  exact ⟨ha.sound h.sound, h.serves, ⟨p, hpast.page? hp⟩, h.answer⟩

theorem Hopeful.run (h : Hopeful s args c) (mvs : List Move) :
    Hopeful s args (c.run s args mvs) := by
  induction mvs generalizing c with
  | nil => exact h
  | cons mv mvs ih =>
    cases mv with
    | step => exact ih h.step
    | grow kind => exact ih (h.grow kind)

theorem run_of_done {answer : Except MemoryError sh.Output} (h : c.stage = .done answer)
    (n : Nat) : c.run s args (List.replicate n .step) = c := by
  induction n with
  | zero => rfl
  | succ n ih =>
    have hrun : c.run s args (List.replicate (n + 1) .step) =
        (c.move s args .step).run s args (List.replicate n .step) := rfl
    rw [hrun, move_step_of_done h, ih]

theorem steps_eq_run (s : SpaceId) (args : sh.Args) (c : Underway sh) (n : Nat) :
    steps s args n c.stage c.site c.memory =
      ((c.run s args (List.replicate n .step)).stage,
        (c.run s args (List.replicate n .step)).site,
        (c.run s args (List.replicate n .step)).memory) := by
  induction n generalizing c with
  | zero => rfl
  | succ n ih =>
    by_cases hdone : ∃ answer, c.stage = .done answer
    · obtain ⟨answer, hdone⟩ := hdone
      rw [run_of_done hdone, hdone, steps_done]
    · rw [steps_succ _ fun answer h => hdone ⟨answer, h⟩]
      exact ih (c.move s args .step)

theorem run_eq_call (hm : m.Sound) (site : CallSite sh) (s : SpaceId) (args : sh.Args) :
    let c := (start site m).run s args (List.replicate 3 .step)
    c.stage = .done (site.call m s args).1 ∧ c.site = (site.call m s args).2.1 ∧
      c.memory = (site.call m s args).2.2 := by
  intro c
  have hb := bounded_run hm site s args (List.replicate 3 .step)
  have hdone : ∃ answer, c.stage = .done answer := hb.done (Nat.le_refl 3)
  obtain ⟨answer, hdone⟩ := hdone
  have hsteps := steps_eq_run s args (start site m) 3
  have hcall : site.call m s args = (answer, c.site, c.memory) := by
    apply call_of_steps
    rw [← hdone]
    exact hsteps
  rw [hcall]
  exact ⟨hdone, rfl, rfl⟩

end Underway

/-- A call ends, however the growths of others fall between its steps: they cost it one round
each at most, and no more of them can do so than the space has room for pages. A supported
call about a mapped page succeeds. A call with nothing in between is the call as a whole. -/
theorem call_ends_under_growth {x : Session} (hx : x.Reachable) {sh : Shape}
    (site : CallSite sh) (s : SpaceId) (args : sh.Args) (mvs : List Move) :
    let m := x.memory
    let k := Move.growths mvs
    let room := (m.space s).config.maxPages.toNat - (m.table s).size
    let c := (Underway.start site m).run s args mvs
    let whole := (Underway.start site m).run s args (List.replicate 3 .step)
    (2 * k + 3 ≤ mvs.count .step → ∃ answer, c.stage = .done answer) ∧
    c.site.relinks ≤ site.relinks + (k + 1) ∧ c.resolved ≤ k + 1 ∧
    c.site.relinks ≤ site.relinks + (room + 1) ∧
    (site.operation.Serves sh → (∃ p, (m.table s).page? (sh.page args) = some p) →
      (∀ e, c.stage ≠ .done (.error e)) ∧
        (2 * k + 3 ≤ mvs.count .step → ∃ v, c.stage = .done (.ok v))) ∧
    whole.stage = .done (site.call m s args).1 ∧ whole.site = (site.call m s args).2.1 ∧
      whole.memory = (site.call m s args).2.2 ∧
      whole.site.relinks ≤ site.relinks + 1 ∧ whole.resolved ≤ 1 := by
  intro m k room c whole
  obtain ⟨l, hf⟩ := hx.fits
  have hm : m.Sound := hf.sound
  have hb : Underway.Bounded s args site m mvs c := Underway.bounded_run hm site s args mvs
  refine ⟨hb.done, hb.relinks_le, hb.resolved_le, hb.relinks_le_room, ?_, ?_⟩
  · intro hop hp
    have hh : Underway.Hopeful s args c :=
      (Underway.hopeful_start hm hop hp).run mvs
    refine ⟨hh.answer, ?_⟩
    intro hlong
    obtain ⟨answer, hdone⟩ := hb.done hlong
    cases answer with
    | ok v => exact ⟨v, hdone⟩
    | error e => exact absurd hdone (hh.answer e)
  · obtain ⟨hstage, hsite, hmemory⟩ := Underway.run_eq_call hm site s args
    have hw := Underway.bounded_run hm site s args (List.replicate 3 .step)
    exact ⟨hstage, hsite, hmemory, hw.relinks_le, hw.resolved_le⟩

def linkedGetter : CallSite .getElement :=
  { name := "GET:ELEMENT:memory", operation := ⟨.get, [.element], some "memory"⟩,
    linked := some ⟨0, ⟨#[.heap], #[⟨.heap, 0⟩], 1, 1⟩, .heap⟩ }

/-- The getter's table was superseded, and others grow the space twice while it is called: it
reads the second page all the same. -/
theorem call_ends_between_two_growths :
    let x := ((Session.start 1 {}).run [.openDefault, .allocate 0 (some .heap),
      .newSite .getElement "GET:ELEMENT:memory", .call 0 0 [.address 0],
      .allocate 0 (some .direct)]).2
    let mvs : List Move := [.step, .grow none, .step, .grow none, .step, .step, .step, .step, .step]
    x.sites[0]? = some ⟨.getElement, linkedGetter⟩ ∧
      ∃ v, ((Underway.start linkedGetter x.memory).run 0 (4096 : Address) mvs).stage =
        .done (.ok v) := by
  intro x mvs
  have hx : x.Reachable := ⟨1, {}, _, _, rfl⟩
  have hop : linkedGetter.operation.Serves .getElement := ⟨rfl, by simp [linkedGetter], rfl⟩
  have hp : ∃ p, (x.memory.table 0).page? 1 = some p := ⟨⟨.direct, 1⟩, rfl⟩
  refine ⟨rfl, ?_⟩
  obtain ⟨_, _, _, _, hsuccess, _⟩ := call_ends_under_growth hx linkedGetter 0 (4096 : Address) mvs
  exact (hsuccess hop hp).2 (by decide)

/-- The bound is reached: with one growth between two rounds two accessors are discarded. -/
example :
    let m := (((({} : Memory).openValid {}).2.allocatePage 0 none).2.allocatePage 0 none).2
    ((Underway.start linkedGetter m).run 0 (4096 : Address)
      [.step, .step, .grow none, .step, .step, .step]).site.relinks = 2 := rfl

end CallSite

end PagedMemory
