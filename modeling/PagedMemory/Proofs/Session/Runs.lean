import PagedMemory.Proofs.Session.Steps

/-! Runs of a session, with the memories that they pass through. From the start on a session
fits the ledger of its run, and what it holds was current at some moment. -/

set_option autoImplicit false

namespace PagedMemory

namespace Session

def start (origin : Nat) (options : EventLog.Options) (supply : Supply := .unlimited) : Session :=
  { memory := { origin := origin, supply := supply }, logOptions := options }

def Reachable (x : Session) : Prop :=
  ∃ origin options supply sts, x = ((start origin options supply).run sts).2

/-- The memories inside a step. Pages allocated in a row come one after another. -/
def within (x : Session) : Step → List Memory
  | .allocateMany s kinds count =>
    if (x.memory.space s).isOpen then
      (List.range count).map fun n => (x.memory.allocateMany s kinds.toArray n 0 none).2
    else []
  | .allocateByThreads s threads each kind =>
    if (x.memory.space s).isOpen then
      (List.range (threads * each)).map fun n => (x.memory.allocateAll s kind n).2
    else []
  | _ => []

def history (x : Session) : List Step → List Memory
  | [] => [x.memory]
  | st :: sts => x.memory :: (x.within st ++ (x.step st).2.history sts)

/-- The table was the current one of the space at one of these moments. -/
def Published (h : List Memory) (s : SpaceId) (t : PageTable) : Prop :=
  ∃ m ∈ h, s < m.spaces.size ∧ t = m.table s

variable {K : SpaceId → PageTable → Prop} {x : Session} {l : Ledger}

theorem memory_mem_history (x : Session) (sts : List Step) : x.memory ∈ x.history sts := by
  cases sts with
  | nil => simp [history]
  | cons st sts => simp [history]

theorem history_subset_cons (x : Session) (st : Step) (sts : List Step) :
    (x.step st).2.history sts ⊆ x.history (st :: sts) := by
  intro m hm
  simp [history, hm]

theorem getLast?_history (x : Session) (sts : List Step) :
    (x.history sts).getLast? = some (x.run sts).2.memory := by
  induction sts generalizing x with
  | nil => rfl
  | cons st sts ih =>
    have hrun : (x.run (st :: sts)).2 = ((x.step st).2.run sts).2 := rfl
    rw [hrun, history, ← List.cons_append, List.getLast?_append, ih, Option.some_or]

theorem fits_start (origin : Nat) (options : EventLog.Options) (supply : Supply) :
    (start origin options supply).Fits K {} where
  sound := Memory.sound_empty origin supply
  past := ⟨.nil, .nil, by simp [start], by simp [start], by simp [start]⟩
  known := ⟨.nil, .nil, by simp [start], by simp [start], by simp [start]⟩
  current := fun s hs => absurd hs (Nat.not_lt_zero s)

theorem Fits.toPast (h : x.Fits K l) : x.Fits x.memory.Past l :=
  ⟨h.sound, h.past, h.past, fun _ => h.sound.past_table⟩

theorem Fits.nextPast (h : x.Fits K l) (st : Step) :
    (x.step st).2.Fits (x.step st).2.memory.Past (l.after st (x.step st).1) := by
  have hnext := h.toPast.step st
  have hsound := hnext.evolves.sound h.sound
  have hkept := hnext.keeps.mono fun s t => hnext.evolves.past h.sound
  exact ⟨hsound, hkept, hkept, fun s => hsound.past_table⟩

theorem Fits.next (h : x.Fits K l) (st : Step)
    (hK : ∀ s < (x.step st).2.memory.spaces.size, K s ((x.step st).2.memory.table s)) :
    (x.step st).2.Fits K (l.after st (x.step st).1) := by
  have hp := h.nextPast st
  exact ⟨hp.sound, hp.past, (h.step st).keeps, hK⟩

theorem Fits.run (h : x.Fits K l) (sts : List Step)
    (hK : ∀ m ∈ x.history sts, ∀ s < m.spaces.size, K s (m.table s)) :
    (x.run sts).2.Fits K (l.run x sts) ∧ x.Grows (x.run sts).2 ∧
      ∃ w, (l.run x sts).writes = w ++ l.writes ∧ x.memory.Evolves w (x.run sts).2.memory := by
  induction sts generalizing x l with
  | nil => exact ⟨h, .refl x, [], rfl, .refl⟩
  | cons st sts ih =>
    have hnext := h.next st (hK _ (history_subset_cons x st sts (memory_mem_history _ _)))
    obtain ⟨hf, hg, w, hw, he⟩ := ih hnext fun m hm => hK m (history_subset_cons x st sts hm)
    refine ⟨hf, (h.step st).grows.trans hg, w ++ l.written (x.step st).1 st, ?_,
      (h.step st).evolves.trans he⟩
    have hwrites : (l.run x (st :: sts)).writes =
        w ++ (l.written (x.step st).1 st ++ l.writes) := hw
    rw [hwrites, List.append_assoc]

theorem fits_run (origin : Nat) (options : EventLog.Options) (supply : Supply) (sts : List Step) :
    ((start origin options supply).run sts).2.Fits
      (Published ((start origin options supply).history sts))
      (Ledger.run {} (start origin options supply) sts) := by
  refine ((fits_start origin options supply).run sts ?_).1
  intro m hm s hs
  exact ⟨m, hm, hs, rfl⟩

theorem Reachable.fits (h : x.Reachable) : ∃ l, x.Fits x.memory.Past l := by
  obtain ⟨origin, options, supply, sts, rfl⟩ := h
  exact ⟨_, (fits_run origin options supply sts).toPast⟩

end Session

end PagedMemory
