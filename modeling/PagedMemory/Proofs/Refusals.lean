import PagedMemory.Proofs.Call.Speculation

/-! What a failing operation leaves behind. It stores nothing and maps nothing; at most it
counts the refusal. -/

set_option autoImplicit false

namespace PagedMemory

theorem Shape.fault_of_request? {op : Operation} {sig : Signature} {args : List Value}
    {sh : Shape} {page : PageId} {fault : MemoryError}
    (h : request? op sig args = some (sh, page, fault)) (n : Nat) :
    fault ≠ .addressSpaceExhausted n := by
  simp only [request?, Option.bind_eq_bind, Option.bind_eq_some_iff] at h
  obtain ⟨_, _, h⟩ := h
  split at h
  · simp only [Option.bind_eq_some_iff, Option.some.injEq, Prod.mk.injEq] at h
    obtain ⟨first, _, ⟨page', fault'⟩, hrequest, _, _, rfl⟩ := h
    cases first with
    | address a =>
      cases hrequest
      exact fun h => by contradiction
    | pageId p =>
      cases hrequest
      exact fun h => by contradiction
    | int v => contradiction
  · contradiction

/-- A failing operation that is not supported counts as not applicable. -/
def MemoryError.rejection : MemoryError → List Countable
  | .unsupportedOperation .. => [.linkRejected]
  | _ => []

namespace Memory

variable {m m' : Memory} {s : SpaceId} {e : MemoryError}

def Exhausts (m : Memory) (s : SpaceId) (e : Option MemoryError) : Prop :=
  ∀ n, e = some (.addressSpaceExhausted n) →
    (m.table s).size = n ∧ (m.space s).config.maxPages.toNat ≤ n

theorem exhausts_of_ne (h : ∀ n, e ≠ .addressSpaceExhausted n) : m.Exhausts s (some e) :=
  fun n hn => absurd (Option.some.inj hn) (h n)

/-- From one memory to the other nothing happened but that these things were counted, and
the error, if any, is justified. -/
structure Refuses (m : Memory) (s : SpaceId) (e : Option MemoryError) (counted : List Countable)
    (m' : Memory) : Prop where
  storage : m'.storage = m.storage
  counts : m.Counts s counted m'
  exhausts : m.Exhausts s e

theorem refuses_allocatePage {kind : Option PageKind}
    (h : m.allocatePage s kind = (.error e, m')) : m.Refuses s (some e) e.denial m' := by
  have hcounts := (work_allocatePage m s kind).counts
  have hr := allocates_allocatePage m s kind
  rw [h] at hcounts hr
  cases hr with
  | full full hs =>
    refine ⟨hs, hcounts, ?_⟩
    intro n hn
    cases hn
    exact ⟨rfl, full⟩
  | refused _ _ hs => exact ⟨hs, hcounts, exhausts_of_ne fun _ h => by contradiction⟩

theorem refuses_reserve {size : Nat} {kind : Option PageKind}
    (h : m.reserve s size kind = (.error e, m')) : m.Refuses s (some e) e.denial m' := by
  unfold reserve at h
  by_cases large : pageSize < size
  · rw [if_pos large] at h
    cases h
    exact ⟨by simp, ((work_say m s _).trans (work_refuse _ s _ _)).counts,
      exhausts_of_ne fun _ h => by contradiction⟩
  · rw [if_neg large] at h
    exact refuses_allocatePage h

theorem exhausts_link {op : Operation} {sig : Signature} {args : List Value}
    (h : (m.link s op sig args).1 = .error e) : m.Exhausts s (some e) := by
  unfold link at h
  split at h
  · contradiction
  · rename_i sh page fault hrequest
    dsimp only at h
    split at h
    · cases h
      exact exhausts_of_ne (Shape.fault_of_request? hrequest)
    · contradiction

theorem refuses_link {op : Operation} {sig : Signature} {args : List Value}
    (h : m.link s op sig args = (.error e, m')) : m.Refuses s (some e) [] m' := by
  have hs := storage_link m s op sig args
  have hw := work_link m s op sig args
  have he : (m.link s op sig args).1 = .error e := by rw [h]
  rw [h] at hs hw
  exact ⟨hs, hw.counts, exhausts_link he⟩

theorem refuses_linkNamed {name : String} {sig : Signature} {args : List Value}
    (h : m.linkNamed s name sig args = (.error e, m')) : m.Refuses s (some e) [] m' := by
  unfold linkNamed at h
  split at h
  · exact refuses_link h
  · cases h

theorem refuses_link_of_none {op : Operation} {sig : Signature} {args : List Value}
    (h : m.link s op sig args = (.ok none, m')) : m.Refuses s none [.linkRejected] m' := by
  have hs := storage_link m s op sig args
  have hw := work_link m s op sig args
  rw [h] at hs hw
  exact ⟨hs, hw.counts, fun n hn => by contradiction⟩

theorem refuses_linkNamed_of_none {name : String} {sig : Signature} {args : List Value}
    (h : m.linkNamed s name sig args = (.ok none, m')) :
    m.Refuses s none [.linkRejected] m' := by
  have hs := storage_linkNamed m s name sig args
  have hw := work_linkNamed m s name sig args
  rw [h] at hs hw
  exact ⟨hs, hw.counts, fun n hn => by contradiction⟩

end Memory

namespace BumpAllocator

theorem refuses_malloc {a a' : BumpAllocator} {m m' : Memory} {s : SpaceId} {size : Nat}
    {e : MemoryError} (h : a.malloc m s size = (.error e, a', m')) :
    a' = a ∧ m.Refuses s (some e) (refused size e) m' := by
  obtain ⟨counted, hw, _, hcounted⟩ := work_malloc a m s size
  have hanswer := answers_malloc a m s size
  rw [h] at hw hcounted hanswer
  obtain rfl := hcounted e rfl
  cases hanswer with
  | tooLarge large =>
    exact ⟨rfl, rfl, hw.counts, Memory.exhausts_of_ne fun _ h => by contradiction⟩
  | refused fits hr =>
    have hrefuses := Memory.refuses_allocatePage hr
    exact ⟨rfl, hrefuses.storage, hw.counts, hrefuses.exhausts⟩

end BumpAllocator

namespace CallSite

variable {sh : Shape} {site site' : CallSite sh} {m m' : Memory} {s : SpaceId} {args : sh.Args}
  {e : MemoryError}

theorem refuses_relink (h : site.relink m s args = (.error e, m')) :
    m.Refuses s (some e) e.rejection m' := by
  have hs := storage_relink site m s args
  have hw := work_relink site m s args
  have he := congrArg Prod.fst h
  rw [h] at hs hw
  obtain ⟨hcounted, hexhausted⟩ : site.resolved false = e.rejection ∧
      ∀ n, e ≠ .addressSpaceExhausted n := by
    rcases failsWith_relink he with ⟨hop, rfl⟩ | ⟨hop, rfl⟩
    · rw [resolved, if_neg (by simp), if_pos hop]
      cases sh <;> exact ⟨rfl, fun _ h => by contradiction⟩
    · rw [resolved, if_neg (by simp), if_neg hop]
      exact ⟨rfl, fun _ h => by contradiction⟩
  exact ⟨hs, hcounted ▸ hw.counts, Memory.exhausts_of_ne hexhausted⟩

/-- A call that fails has given up the accessor that it held, if any. -/
theorem refuses_call (hm : m.Sound) (h : site.call m s args = (.error e, site', m')) :
    m.Refuses s (some e) ((if site.isLinked then [.relink] else []) ++ e.rejection) m' := by
  have hcall := called_call hm site s args
  rw [h] at hcall
  cases hcall with
  | unlinked hl h =>
    cases h with
    | failed hr =>
      simpa [isLinked, hl] using refuses_relink hr
  | stale hl hp h =>
    cases h with
    | failed hr =>
      have hd := storage_discard site m s
      have hrelink := refuses_relink hr
      refine ⟨hrelink.storage.trans hd, ?_, ?_⟩
      · simpa [isLinked, hl] using (work_discard site m s).counts.trans hrelink.counts
      · intro n hn
        have hexhausts := hrelink.exhausts n hn
        rwa [Memory.table_congr hd, Memory.config_congr hd] at hexhausts

end CallSite

end PagedMemory
