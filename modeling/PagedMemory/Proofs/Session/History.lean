import PagedMemory.Proofs.PageTable
import PagedMemory.Proofs.Session.Runs

/-! The tables of a space over time. Each is a prefix of those that come after it, the last
one is the only valid one, and no two pages of any of them share storage unless they are the
same page of the same space. -/

set_option autoImplicit false

namespace PagedMemory

namespace Memory

variable {m m' m'' : Memory}

def Precedes (m m' : Memory) : Prop := ∃ w, Evolves m w m'

theorem Precedes.refl (m : Memory) : m.Precedes m := ⟨[], .refl⟩

theorem Precedes.trans (h : m.Precedes m') (h' : m'.Precedes m'') : m.Precedes m'' := by
  obtain ⟨w, hw⟩ := h
  obtain ⟨w', hw'⟩ := h'
  exact ⟨w' ++ w, hw.trans hw'⟩

theorem Precedes.sound (h : m.Precedes m') (hm : m.Sound) : m'.Sound := by
  obtain ⟨w, hw⟩ := h
  exact hw.sound hm

theorem Precedes.past (h : m.Precedes m') (hm : m.Sound) {s : SpaceId} {t : PageTable}
    (ht : m.Past s t) : m'.Past s t := by
  obtain ⟨w, hw⟩ := h
  exact hw.past hm ht

theorem precedes_allocateMany_add (s : SpaceId) (kinds : Array (Option PageKind)) (n k i : Nat)
    (last : Option Address) (m : Memory) :
    (m.allocateMany s kinds n i last).2.Precedes (m.allocateMany s kinds (n + k) i last).2 := by
  induction n generalizing i last m with
  | zero =>
    rw [Nat.zero_add]
    exact ⟨[], evolves_allocateMany s kinds k i last m⟩
  | succ n ih =>
    rw [Nat.succ_add]
    unfold allocateMany
    cases m.allocatePage s (kinds[i % kinds.size]?.getD none) with
    | mk answer m₁ =>
      cases answer with
      | ok a => exact ih (i + 1) (some a) m₁
      | error e => exact .refl m₁

theorem precedes_allocateMany (s : SpaceId) (kinds : Array (Option PageKind)) {n k : Nat}
    (h : n ≤ k) (m : Memory) :
    (m.allocateMany s kinds n 0 none).2.Precedes (m.allocateMany s kinds k 0 none).2 := by
  obtain ⟨d, rfl⟩ := Nat.exists_eq_add_of_le h
  exact precedes_allocateMany_add s kinds n d 0 none m

theorem precedes_allocateAll (s : SpaceId) (kind : Option PageKind) {n k : Nat} (h : n ≤ k)
    (m : Memory) : (m.allocateAll s kind n).2.Precedes (m.allocateAll s kind k).2 := by
  induction n generalizing k m with
  | zero => exact ⟨[], evolves_allocateAll s kind k m⟩
  | succ n ih =>
    cases k with
    | zero => omega
    | succ k => exact ih (Nat.le_of_succ_le_succ h) (m.allocatePage s kind).2

theorem precedes_range {f : Nat → Memory} (hf : ∀ n k, n ≤ k → (f n).Precedes (f k))
    (count : Nat) :
    ((List.range count).map f).Pairwise Precedes ∧
      ∀ m ∈ (List.range count).map f, (f 0).Precedes m ∧ m.Precedes (f count) := by
  constructor
  · rw [List.pairwise_map]
    exact List.pairwise_lt_range.imp fun hlt => hf _ _ (Nat.le_of_lt hlt)
  · intro m hm
    obtain ⟨n, hn, rfl⟩ := List.mem_map.mp hm
    exact ⟨hf 0 n (Nat.zero_le n), hf n count (Nat.le_of_lt (List.mem_range.mp hn))⟩

end Memory

namespace Session

variable {K : SpaceId → PageTable → Prop} {x : Session} {l : Ledger}

theorem precedes_within (x : Session) (st : Step) :
    (x.within st).Pairwise Memory.Precedes ∧
      ∀ m ∈ x.within st, x.memory.Precedes m ∧ m.Precedes (x.step st).2.memory := by
  cases st with
  | allocateMany s kinds count =>
    by_cases hopen : (x.memory.space s).isOpen = true
    · have hstep : (x.step (.allocateMany s kinds count)).2.memory =
          (x.memory.allocateMany s kinds.toArray count 0 none).2 := by
        rw [Session.step, onSpace, if_pos hopen]
        rfl
      rw [hstep, within, if_pos hopen]
      exact Memory.precedes_range (fun n k hle =>
        Memory.precedes_allocateMany s kinds.toArray hle x.memory) count
    · rw [within, if_neg hopen]
      exact ⟨.nil, fun m hm => by contradiction⟩
  | allocateByThreads s threads each kind =>
    by_cases hopen : (x.memory.space s).isOpen = true
    · have hstep : (x.step (.allocateByThreads s threads each kind)).2.memory =
          (x.memory.allocateAll s kind (threads * each)).2 := by
        rw [Session.step, onSpace, if_pos hopen]
        rfl
      rw [hstep, within, if_pos hopen]
      exact Memory.precedes_range (fun n k hle =>
        Memory.precedes_allocateAll s kind hle x.memory) (threads * each)
    · rw [within, if_neg hopen]
      exact ⟨.nil, fun m hm => by contradiction⟩
  | _ => exact ⟨.nil, fun m hm => by contradiction⟩

theorem Fits.precedes_history (h : x.Fits x.memory.Past l) (sts : List Step) :
    (x.history sts).Pairwise Memory.Precedes ∧ ∀ m ∈ x.history sts, x.memory.Precedes m := by
  induction sts generalizing x l with
  | nil => exact ⟨List.pairwise_singleton _ _, by simp [history, Memory.Precedes.refl]⟩
  | cons st sts ih =>
    obtain ⟨hwithin, hinside⟩ := x.precedes_within st
    obtain ⟨hrest, hafter⟩ := ih (h.nextPast st)
    have hstep : x.memory.Precedes (x.step st).2.memory := ⟨_, (h.step st).evolves⟩
    have hall : ∀ m ∈ x.within st ++ (x.step st).2.history sts, x.memory.Precedes m := by
      intro m hm
      rcases List.mem_append.mp hm with hm | hm
      · exact (hinside m hm).1
      · exact hstep.trans (hafter m hm)
    refine ⟨?_, ?_⟩
    · refine List.pairwise_cons.mpr ⟨hall, List.pairwise_append.mpr ⟨hwithin, hrest, ?_⟩⟩
      intro m hm m' hm'
      exact (hinside m hm).2.trans (hafter m' hm')
    · intro m hm
      rcases List.mem_cons.mp hm with rfl | hm
      · exact .refl _
      · exact hall m hm

end Session

theorem PageTable.IsPrefix.generation_le {t u : PageTable} (h : t.IsPrefix u) (ht : t.Aligned)
    (hu : u.Aligned) : t.generation ≤ u.generation := by
  have hle := h.2.length_le
  rw [ht.generation, hu.generation]
  simpa using hle

theorem Memory.Past.isValid_false {m m' : Memory} {s : SpaceId} {t : PageTable}
    (ht : m.Past s t) (hm : m.Sound) (h : m.Precedes m') (hi : m.isValid t = false) :
    m'.isValid t = false := by
  have hm' := h.sound hm
  have ht' := h.past hm ht
  have hlt : t.generation < (m.table s).generation := by
    rcases ht.mark with rfl | ⟨hlt, _⟩
    · rw [hm.isValid_table ht.owner] at hi
      contradiction
    · exact hlt
  have hle : (m.table s).generation ≤ (m'.table s).generation :=
    (h.past hm (hm.past_table ht.owner)).isPrefix.generation_le (hm.aligned s) (hm'.aligned s)
  cases hv : m'.isValid t with
  | false => rfl
  | true =>
    have heq := (ht'.isValid_iff hm').mp hv
    rw [← heq] at hle
    omega

/-- What holds at the last of these moments of all tables published until then. -/
structure Consistent (past : List Memory) (m : Memory) : Prop where
  aligned : ∀ s t, Session.Published past s t → t.kinds.size = t.pages.size ∧
    t.pages.size = t.generation ∧ ∀ i : Nat, t.kinds[i]? = t.pages[i]?.map Page.kind
  valid : ∀ s t, Session.Published past s t → (m.isValid t = true ↔ t = m.table s)
  unique : ∀ s < m.spaces.size, ∃! t, Session.Published past s t ∧ m.isValid t = true
  /-- Storage is shared only by the same page of the same space. -/
  apart : ∀ s s' t t' (i i' : Nat) (p p' : Page), Session.Published past s t →
    Session.Published past s' t' →
    t.pages[i]? = some p → t'.pages[i']? = some p' → (p.frame = p'.frame ↔ s = s' ∧ i = i')

section Published
variable {past : List Memory} {m : Memory}

theorem past_of_published (hp : ∀ m' ∈ past, m'.Sound ∧ m'.Precedes m) {s : SpaceId}
    {t : PageTable} (h : Session.Published past s t) : m.Past s t := by
  obtain ⟨m', hm', hs, rfl⟩ := h
  obtain ⟨hsound, hprecedes⟩ := hp m' hm'
  exact hprecedes.past hsound (hsound.past_table hs)

theorem consistent_of_precedes (hp : ∀ m' ∈ past, m'.Sound ∧ m'.Precedes m) (hm : m ∈ past) :
    Consistent past m where
  aligned := by
    intro s t ht
    have ha := (past_of_published hp ht).aligned
    refine ⟨by simp [ha.kinds], ha.generation.symm, ?_⟩
    intro i
    rw [ha.kinds, Array.getElem?_map]
  valid := by
    intro s t ht
    exact (past_of_published hp ht).isValid_iff (hp m hm).1
  unique := by
    intro s hs
    refine ⟨m.table s, ⟨⟨m, hm, hs, rfl⟩, (hp m hm).1.isValid_table hs⟩, ?_⟩
    rintro t ⟨ht, hv⟩
    exact ((past_of_published hp ht).isValid_iff (hp m hm).1).mp hv
  apart := by
    intro s s' t t' i i' p p' ht ht' hi hi'
    have hcur := (past_of_published hp ht).isPrefix.getElem? hi
    have hcur' := (past_of_published hp ht').isPrefix.getElem? hi'
    constructor
    · exact (hp m hm).1.apart hcur hcur'
    · rintro ⟨rfl, rfl⟩
      rw [hcur] at hcur'
      rw [Option.some.inj hcur']

end Published

namespace Session

theorem precedes_moment (origin : Nat) (options : EventLog.Options) (supply : Supply)
    (sts : List Step)
    {past later : List Memory} {m : Memory}
    (heq : (start origin options supply).history sts = past ++ m :: later) :
    ∀ m' ∈ past ++ [m], m'.Sound ∧ m'.Precedes m := by
  have hstart := fits_start (K := (start origin options supply).memory.Past) origin options supply
  obtain ⟨hpairs, hfirst⟩ := hstart.precedes_history sts
  rw [heq] at hpairs hfirst
  intro m' hm'
  rcases List.mem_append.mp hm' with hm' | hm'
  · have hprecedes := (List.pairwise_append.mp hpairs).2.2 m' hm' m (by simp)
    exact ⟨(hfirst m' (by simp [hm'])).sound hstart.sound, hprecedes⟩
  · obtain rfl := List.mem_singleton.mp hm'
    exact ⟨(hfirst m' (by simp)).sound hstart.sound, .refl m'⟩

/-- What was ever published in a run is a past table at its end. -/
theorem past_of_published_run {origin : Nat} {options : EventLog.Options} {supply : Supply}
    {sts : List Step} {s : SpaceId} {t : PageTable}
    (h : Published ((start origin options supply).history sts) s t) :
    ((start origin options supply).run sts).2.memory.Past s t := by
  obtain ⟨past, heq⟩ :=
    List.getLast?_eq_some_iff.mp (getLast?_history (start origin options supply) sts)
  have hp := precedes_moment origin options supply sts heq
  rw [← heq] at hp
  exact past_of_published hp h

theorem built_of_published {origin : Nat} {options : EventLog.Options} {supply : Supply}
    {sts : List Step} {s : SpaceId} {t : PageTable}
    (h : Published ((start origin options supply).history sts) s t) :
    t.Built := (past_of_published_run h).aligned.built

/-- The history of all tables. At every moment of a run the tables published until then are
consistent, and those that are not valid stay so; a table that comes before another one is
a prefix of it; and a session holds nothing but published tables and their pages, and never
loses them. -/
theorem history_consistent (origin : Nat) (options : EventLog.Options) (supply : Supply)
    (sts : List Step) :
    let x := ((start origin options supply).run sts).2
    let h := (start origin options supply).history sts
    h.getLast? = some x.memory ∧
    (∀ past m later, h = past ++ m :: later → Consistent (past ++ [m]) m ∧
      ∀ s t, Published (past ++ [m]) s t → m.isValid t = false →
        ∀ m' ∈ later, m'.isValid t = false) ∧
    (h.Pairwise fun m m' => ∀ s < m.spaces.size, (m.table s).IsPrefix (m'.table s)) ∧
    x.Keeps (Published h) (Ledger.run {} (start origin options supply) sts) ∧
    ∀ more, x.Grows (x.run more).2 := by
  intro x h
  have hstart := fits_start (K := (start origin options supply).memory.Past) origin options supply
  obtain ⟨hpairs, hfirst⟩ := hstart.precedes_history sts
  have hend := fits_run origin options supply sts
  refine ⟨getLast?_history _ sts, ?_, ?_, hend.known, ?_⟩
  · intro past m later heq
    have hp := precedes_moment origin options supply sts heq
    refine ⟨consistent_of_precedes hp (by simp), ?_⟩
    intro s t ht hi m' hm'
    have hsplit : (past ++ m :: later).Pairwise Memory.Precedes := heq ▸ hpairs
    have hlater := (List.pairwise_cons.mp (List.pairwise_append.mp hsplit).2.1).1 m' hm'
    exact (past_of_published hp ht).isValid_false (hp m (by simp)).1 hlater hi
  · refine hpairs.imp_of_mem ?_
    intro m m' hm _ hprecedes s hs
    have hsound := (hfirst m hm).sound hstart.sound
    exact (hprecedes.past hsound (hsound.past_table hs)).isPrefix
  · intro more
    have hany : x.Fits (fun _ _ => True) _ := hend.mono fun _ _ _ => trivial
    exact (hany.run more fun _ _ _ _ => trivial).2.1

end Session

end PagedMemory
