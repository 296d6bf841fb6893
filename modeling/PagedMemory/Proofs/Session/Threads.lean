import PagedMemory.Proofs.PageTable
import PagedMemory.Proofs.Session.Runs

/-! Threads that grow one space. Growth is one request at a time, so a schedule is an order
in which the requests and looks of all threads come. The answers, taken in that order, are
the same for every schedule: the pages after those that are there, one after another, and
then refusals. Which thread gets which is all that a schedule decides. -/

set_option autoImplicit false

namespace PagedMemory

inductive Turn where
  | grow (kind : Option PageKind)
  | look
  deriving DecidableEq, Repr

inductive Sight where
  | grown (answer : Except MemoryError Address)
  | seen (t : PageTable)

namespace Turn

def isGrow : Turn → Bool
  | .grow _ => true
  | .look => false

def asksFor (k default : PageKind) : Turn → Bool
  | .grow kind => kind.getD default == k
  | .look => false

end Turn

/-- The turns of all threads, each thread's in its own order. -/
inductive Interleaves : List (List Turn) → List (Nat × Turn) → Prop where
  | done {threads : List (List Turn)} (h : ∀ turns ∈ threads, turns = []) : Interleaves threads []
  | next {threads : List (List Turn)} {i : Nat} {turn : Turn} {rest : List Turn}
      {order : List (Nat × Turn)} (hi : threads[i]? = some (turn :: rest))
      (h : Interleaves (threads.set i rest) order) : Interleaves threads ((i, turn) :: order)

namespace Sight

def answer? : Sight → Option (Except MemoryError Address)
  | .grown answer => some answer
  | .seen _ => none

def address? : Sight → Option Address
  | .grown (.ok a) => some a
  | _ => none

def table? : Sight → Option PageTable
  | .grown _ => none
  | .seen t => some t

end Sight

abbrev Log := List (Nat × Sight)

namespace Log

def answers (log : Log) : List (Except MemoryError Address) := log.filterMap fun e => e.2.answer?

def tables (log : Log) : List PageTable := log.filterMap fun e => e.2.table?

def addresses (log : Log) : List Address := log.filterMap fun e => e.2.address?

def ofThread (i : Nat) (log : Log) : Log := log.filter fun e => e.1 == i

end Log

theorem flatten_set_perm {threads : List (List Turn)} {i : Nat} {turn : Turn} {rest : List Turn}
    (hi : threads[i]? = some (turn :: rest)) :
    (turn :: (threads.set i rest).flatten).Perm threads.flatten := by
  induction threads generalizing i with
  | nil => simp at hi
  | cons turns threads ih =>
    cases i with
    | zero =>
      obtain rfl : turns = turn :: rest := by simpa using hi
      simp
    | succ i =>
      have hperm := (ih (by simpa using hi)).append_left turns
      simp only [List.set_cons_succ, List.flatten_cons]
      exact List.perm_middle.symm.trans hperm

theorem Interleaves.perm {threads : List (List Turn)} {order : List (Nat × Turn)}
    (h : Interleaves threads order) : (order.map Prod.snd).Perm threads.flatten := by
  induction h with
  | done h => simp [List.flatten_eq_nil_iff.mpr h]
  | next hi _ ih => exact (ih.cons _).trans (flatten_set_perm hi)

namespace Memory

def turn (m : Memory) (s : SpaceId) : Turn → Sight × Memory
  | .grow kind => (.grown (m.allocatePage s kind).1, (m.allocatePage s kind).2)
  | .look => (.seen (m.table s), m)

def turns (s : SpaceId) : List (Nat × Turn) → Memory → Log × Memory
  | [], m => ([], m)
  | (i, t) :: order, m =>
    ((i, (m.turn s t).1) :: (turns s order (m.turn s t).2).1, (turns s order (m.turn s t).2).2)

/-- The answers to so many requests in a row, in a space of `n` pages that can have `limit`. -/
def growthAnswers (n limit calls : Nat) : List (Except MemoryError Address) :=
  (List.range' n (min calls (limit - n))).map (fun p => .ok (pageStart (UInt32.ofNat p))) ++
    List.replicate (calls - (limit - n)) (.error (.addressSpaceExhausted limit))

theorem growthAnswers_full {n limit : Nat} (full : limit ≤ n) (calls : Nat) :
    growthAnswers n limit (calls + 1) =
      .error (.addressSpaceExhausted limit) :: growthAnswers n limit calls := by
  have hnone : limit - n = 0 := Nat.sub_eq_zero_of_le full
  simp [growthAnswers, hnone, List.replicate_succ]

theorem growthAnswers_room {n limit : Nat} (room : n < limit) (calls : Nat) :
    growthAnswers n limit (calls + 1) =
      .ok (pageStart (UInt32.ofNat n)) :: growthAnswers (n + 1) limit calls := by
  have hmin : min (calls + 1) (limit - n) = min calls (limit - (n + 1)) + 1 := by omega
  have hrest : calls + 1 - (limit - n) = calls - (limit - (n + 1)) := by omega
  simp only [growthAnswers, hmin, hrest, List.range'_succ, List.map_cons, List.cons_append]

/-- What turns in this order lead to, with what came of each of them. -/
structure Grown (s : SpaceId) (m : Memory) (order : List (Nat × Turn))
    (log : Log) (m' : Memory) : Prop where
  evolves : m.Evolves [] m'
  answers : log.answers = growthAnswers (m.table s).size (m.space s).config.maxPages.toNat
    (order.countP fun e => e.2.isGrow)
  size : (m'.table s).size = (m.table s).size + min (order.countP fun e => e.2.isGrow)
    ((m.space s).config.maxPages.toNat - (m.table s).size)
  kinds : (order.countP fun e => e.2.isGrow) ≤
      (m.space s).config.maxPages.toNat - (m.table s).size → ∀ k,
    (m'.table s).countOf k = (m.table s).countOf k +
      order.countP fun e => e.2.asksFor k (m.space s).config.defaultKind
  looks : ∀ t ∈ log.tables, (m.table s).size ≤ t.size ∧ (m.table s).generation ≤ t.generation
  rising : log.tables.Pairwise fun t u => t.size ≤ u.size ∧ t.generation ≤ u.generation

variable {m m₁ m' : Memory} {s : SpaceId} {order : List (Nat × Turn)} {log : Log}

theorem Grown.nil (s : SpaceId) (m : Memory) : Grown s m [] [] m where
  evolves := .refl
  answers := by simp [Log.answers, growthAnswers]
  size := by simp
  kinds := by simp
  looks := fun t ht => by simp [Log.tables] at ht
  rising := .nil

theorem Grown.look (h : Grown s m order log m') (i : Nat) :
    Grown s m ((i, .look) :: order) ((i, .seen (m.table s)) :: log) m' where
  evolves := h.evolves
  answers := h.answers
  size := h.size
  kinds := h.kinds
  looks := by
    intro t ht
    rcases List.mem_cons.mp ht with rfl | ht
    · exact ⟨Nat.le_refl _, Nat.le_refl _⟩
    · exact h.looks t ht
  rising := List.pairwise_cons.mpr ⟨h.looks, h.rising⟩

theorem Grown.refused (hm : m.Sound)
    (full : (m.space s).config.maxPages.toNat ≤ (m.table s).size)
    (hs : m₁.storage = m.storage) (h : Grown s m₁ order log m') (i : Nat)
    (kind : Option PageKind) :
    Grown s m ((i, .grow kind) :: order)
      ((i, .grown (.error (.addressSpaceExhausted (m.table s).size))) :: log) m' := by
  have hlimit : (m.table s).size = (m.space s).config.maxPages.toNat :=
    Nat.le_antisymm (hm.bounded s) full
  have hcount : ((i, Turn.grow kind) :: order).countP (fun e => e.2.isGrow) =
      order.countP (fun e => e.2.isGrow) + 1 := List.countP_cons_of_pos rfl
  obtain ⟨he, ha, hsize, hk, hlooks, hrising⟩ := h
  rw [table_congr hs, config_congr hs] at ha hsize hk
  rw [table_congr hs] at hlooks
  refine ⟨(evolves_of_storage_eq hs).trans he, ?_, ?_, ?_, hlooks, hrising⟩
  · rw [hcount, growthAnswers_full full, ← ha, ← hlimit]
    rfl
  · rw [hcount, hsize]
    omega
  · intro hle
    omega

theorem Grown.granted (room : (m.table s).size < (m.space s).config.maxPages.toNat)
    {kind : Option PageKind}
    (hs : m₁.storage = (m.extend s (kind.getD (m.space s).config.defaultKind)).storage)
    (h : Grown s m₁ order log m') (i : Nat) :
    Grown s m ((i, .grow kind) :: order)
      ((i, .grown (.ok (pageStart (UInt32.ofNat (m.table s).size)))) :: log) m' := by
  have hlt := lt_size_of_room room
  have htable : m₁.table s = m.nextTable s (kind.getD (m.space s).config.defaultKind) := by
    rw [table_congr hs, table_extend_self hlt]
  have hsize₁ : (m₁.table s).size = (m.table s).size + 1 := by
    rw [table_congr hs, size_table_extend hlt]
  have hgeneration₁ : (m₁.table s).generation = (m.table s).generation + 1 := by
    rw [htable]
    rfl
  have hconfig : (m₁.space s).config = (m.space s).config := by
    rw [config_congr hs, config_extend]
  have hcount : ((i, Turn.grow kind) :: order).countP (fun e => e.2.isGrow) =
      order.countP (fun e => e.2.isGrow) + 1 := List.countP_cons_of_pos rfl
  obtain ⟨he, ha, hsize, hk, hlooks, hrising⟩ := h
  rw [hsize₁, hconfig] at ha hsize hk
  rw [hsize₁, hgeneration₁] at hlooks
  refine ⟨(Advance.grown s _ hlt room hs).evolves.trans he, ?_, ?_, ?_, ?_, hrising⟩
  · rw [hcount, growthAnswers_room room, ← ha]
    rfl
  · rw [hcount, hsize]
    omega
  · intro hle k
    rw [hk (by omega) k, htable, nextTable, PageTable.countOf_extended, List.countP_cons]
    cases hkind : kind.getD (m.space s).config.defaultKind == k with
    | false => simp [Turn.asksFor, hkind]
    | true =>
      simp only [Turn.asksFor, hkind, if_true]
      omega
  · intro t ht
    obtain ⟨hpages, hgeneration⟩ := hlooks t ht
    omega

theorem grown_turns (hm : m.Sound) (hgrants : m.supply.Grants s) (order : List (Nat × Turn)) :
    Grown s m order (turns s order m).1 (turns s order m).2 := by
  induction order generalizing m with
  | nil => exact .nil s m
  | cons e order ih =>
    obtain ⟨i, t⟩ := e
    cases t with
    | look => exact (ih hm hgrants).look i
    | grow kind =>
      -- The turns after a request go on from the memory that it leaves, whoever made it.
      have hadvance := advance_allocatePage m s kind
      have hrest := ih (hadvance.sound hm) (hadvance.supply ▸ hgrants)
      have hallocates := allocates_allocatePage m s kind
      simp only [turns, turn]
      generalize m.allocatePage s kind = r at hrest hallocates
      cases hallocates with
      | full full hs => exact hrest.refused hm full hs i kind
      | refused _ hrefused _ => cases (refusal?_of_grants hgrants _).symm.trans hrefused
      | granted room _ hs => exact hrest.granted room hs i

theorem Grown.addresses (h : Grown s m order log m') :
    log.addresses = (List.range' (m.table s).size (min (order.countP fun e => e.2.isGrow)
      ((m.space s).config.maxPages.toNat - (m.table s).size))).map
        fun p => pageStart (UInt32.ofNat p) := by
  -- A page is handed out by an answer and by nothing else.
  have hbind : ∀ e : Nat × Sight, e.2.address? = e.2.answer?.bind Except.toOption := by
    rintro ⟨i, sight⟩
    rcases sight with (_ | _) | _ <;> rfl
  have hanswers : log.addresses = log.answers.filterMap Except.toOption := by
    simp only [Log.addresses, Log.answers, List.filterMap_filterMap, hbind]
  rw [hanswers, h.answers, growthAnswers, List.filterMap_append, List.filterMap_map,
    List.filterMap_replicate]
  simp [Except.toOption, Function.comp_def]

theorem pairwise_pageStart {n count : Nat} (h : n + count ≤ 1048576) :
    ((List.range' n count).map fun p => pageStart (UInt32.ofNat p)).Pairwise (· < ·) := by
  rw [List.pairwise_map]
  refine List.Pairwise.imp_of_mem ?_ (List.pairwise_lt_range' (s := n) (n := count))
  intro p q hp hq hlt
  rw [List.mem_range'_1] at hp hq
  rw [UInt32.lt_iff_toNat_lt, Address.toNat_pageStart (by omega),
    Address.toNat_pageStart (by omega)]
  omega

theorem Grown.pairwise_addresses (h : Grown s m order log m') (hm : m.Sound) :
    log.addresses.Pairwise (· < ·) := by
  have hsize := (h.evolves.sound hm).size_le s
  rw [h.size] at hsize
  rw [h.addresses]
  exact pairwise_pageStart hsize

theorem turns_eq_allocateAll {kind : Option PageKind} (h : ∀ e ∈ order, e.2 = .grow kind)
    (s : SpaceId) (m : Memory) :
    ((turns s order m).1.answers, (turns s order m).2) = m.allocateAll s kind order.length := by
  induction order generalizing m with
  | nil => rfl
  | cons e order ih =>
    obtain ⟨i, t⟩ := e
    obtain rfl : t = .grow kind := h (i, t) List.mem_cons_self
    have hrest := ih (fun e he => h e (List.mem_cons_of_mem _ he)) (m.allocatePage s kind).2
    simp only [List.length_cons, allocateAll, ← hrest]
    rfl

/-- Requests of one sort may come from the threads in any order: the answers and the memory
are those of so many requests in a row. -/
theorem turns_of_replicate {threads each : Nat} {kind : Option PageKind}
    (h : Interleaves (List.replicate threads (List.replicate each (.grow kind))) order)
    (s : SpaceId) (m : Memory) :
    ((turns s order m).1.answers, (turns s order m).2) =
      m.allocateAll s kind (threads * each) := by
  have hlength := h.perm.length_eq
  simp only [List.length_map, List.flatten_replicate_replicate, List.length_replicate] at hlength
  rw [← hlength]
  refine turns_eq_allocateAll ?_ s m
  intro e he
  have hmem := h.perm.subset (List.mem_map_of_mem he)
  simp only [List.flatten_replicate_replicate] at hmem
  exact List.eq_of_mem_replicate hmem

end Memory

theorem Log.ofThread_addresses_sublist (i : Nat) (log : Log) :
    (log.ofThread i).addresses.Sublist log.addresses := List.filter_sublist.filterMap _

namespace Session

/-- However the threads come to their turns, the answers in that order are the pages after
those that are there and then refusals, as many of each as there is room for, as long as the
system grants what the space asks for. No page is given twice, each thread's pages rise, the
space ends the same, and nobody who looks sees it shrink. -/
theorem growth_of_any_schedule {x : Session} (hx : x.Reachable) {s : SpaceId}
    (hgrants : x.memory.supply.Grants s) {threads : List (List Turn)}
    {order : List (Nat × Turn)} (h : Interleaves threads order) :
    let m := x.memory
    let config := (m.space s).config
    let n := (m.table s).size
    let calls := threads.flatten.countP Turn.isGrow
    let given := min calls (config.maxPages.toNat - n)
    let log := (Memory.turns s order m).1
    let m' := (Memory.turns s order m).2
    log.answers = (List.range' n given).map (fun p => .ok (pageStart (UInt32.ofNat p))) ++
      List.replicate (calls - given) (.error (.addressSpaceExhausted config.maxPages.toNat)) ∧
    log.addresses.Nodup ∧
    (∀ i, (log.ofThread i).addresses.Pairwise (· < ·)) ∧
    (m'.table s).size = n + given ∧
    (m'.table s).generation = (m.table s).generation + given ∧
    (calls ≤ config.maxPages.toNat - n → ∀ k, (m'.table s).countOf k =
      (m.table s).countOf k + threads.flatten.countP (Turn.asksFor k config.defaultKind)) ∧
    log.tables.Pairwise fun t u => t.size ≤ u.size ∧ t.generation ≤ u.generation := by
  intro m config n calls given log m'
  obtain ⟨l, hf⟩ := hx.fits
  have hm : m.Sound := hf.sound
  have hg : Memory.Grown s m order log m' := Memory.grown_turns hm hgrants order
  have hcount : ∀ p : Turn → Bool, (order.countP fun e => p e.2) = threads.flatten.countP p := by
    intro p
    rw [← h.perm.countP_eq, List.countP_map]
    rfl
  have hcalls : (order.countP fun e => e.2.isGrow) = calls := hcount Turn.isGrow
  have hrest : calls - (config.maxPages.toNat - n) = calls - given := by omega
  have hrising := hg.pairwise_addresses hm
  refine ⟨?_, ?_, ?_, ?_, ?_, ?_, hg.rising⟩
  · rw [hg.answers, hcalls, Memory.growthAnswers, hrest]
  · exact hrising.imp fun hlt => UInt32.ne_of_lt hlt
  · exact fun i => hrising.sublist (Log.ofThread_addresses_sublist i log)
  · rw [hg.size, hcalls]
  · have hsize := hg.size
    rw [hcalls] at hsize
    rw [((hg.evolves.sound hm).aligned s).generation, (hm.aligned s).generation]
    exact hsize
  · intro hle k
    rw [← hcalls] at hle
    rw [hg.kinds hle k, hcount]

/-- Two threads in a space with room for two pages: the one that is late goes without. -/
theorem growth_of_any_schedule_full :
    let x := ((start 1 {}).run [.openSpace { maxPages := 2 }]).2
    let threads : List (List Turn) := [[.grow (some .direct), .look], [.grow none, .grow none]]
    let order : List (Nat × Turn) :=
      [(1, .grow none), (0, .grow (some .direct)), (0, .look), (1, .grow none)]
    Interleaves threads order ∧ (Memory.turns 0 order x.memory).1.answers =
      [.ok 0, .ok 4096, .error (.addressSpaceExhausted 2)] := by
  intro x threads order
  have h : Interleaves threads order :=
    .next rfl (.next rfl (.next rfl (.next rfl (.done (by simp [threads])))))
  have hx : x.Reachable := ⟨1, {}, _, _, rfl⟩
  have hpages : (x.memory.table 0).size = 0 := rfl
  have hlimit : (x.memory.space 0).config.maxPages.toNat = 2 := rfl
  have hcalls : threads.flatten.countP Turn.isGrow = 3 := rfl
  have hanswers := (growth_of_any_schedule hx (Supply.grants_unlimited 0) h).1
  rw [hpages, hlimit, hcalls] at hanswers
  exact ⟨h, hanswers⟩

end Session

end PagedMemory
