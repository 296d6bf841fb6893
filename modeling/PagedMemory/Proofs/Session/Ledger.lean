import PagedMemory.Session
import PagedMemory.Proofs.Memory.Contents

/-! What a client can know of a memory from its own steps and their outcomes, without a
look at the memory: which space each kept table came from, which page each kept page is,
and which writes succeeded. From these it can say what every later read has to answer. -/

set_option autoImplicit false

namespace PagedMemory

namespace Outcome

def isDone : Outcome → Bool
  | .done => true
  | _ => false

def isTrue : Outcome → Bool
  | .bool b => b
  | _ => false

def keepsTable : Outcome → Bool
  | .snapshotKept _ => true
  | _ => false

def keepsPage : Outcome → Bool
  | .page _ (some _) => true
  | _ => false

def reached (count : Nat) : Outcome → Nat
  | .filled _ => count
  | .stopped place _ => place
  | _ => 0

end Outcome

def Cell.numbered? (s : SpaceId) (p : PageId) (n : Nat) : Option Cell :=
  if h : n < elementsPerPage then some ⟨s, p, ⟨n, h⟩⟩ else none

structure Ledger where
  owners : List SpaceId := []
  origins : List (SpaceId × PageId) := []
  /-- The successful writes, the latest first. -/
  writes : List (Cell × Int32) := []

namespace Ledger

def value (l : Ledger) (c : Cell) : Int32 := (l.writes.lookup c).getD 0

/-- The writes of a fill that has set `n` elements, the latest first. -/
def fillWrites (s : SpaceId) (stride : UInt32) (increment : Int32) :
    Nat → Address → Int32 → List (Cell × Int32)
  | 0, _, _ => []
  | n + 1, a, v =>
    fillWrites s stride increment n (a + stride) (v + increment) ++ [(Address.cell s a, v)]

def written (l : Ledger) (o : Outcome) : Step → List (Cell × Int32)
  | .write s a v => if o.isDone then [(Address.cell s a, v)] else []
  | .snapshotWrite i a v =>
    if o.isTrue then (l.owners[i]?.map fun s => (Address.cell s a, v)).toList else []
  | .pageSet i p n v =>
    if o.isDone then
      ((l.owners[i]?.bind fun s => Cell.numbered? s p n).map fun c => (c, v)).toList
    else []
  | .handleSet i n v =>
    if o.isDone then
      ((l.origins[i]?.bind fun page => Cell.numbered? page.1 page.2 n).map fun c =>
        (c, v)).toList
    else []
  | .call _ s args | .invoke _ s args =>
    if o.isDone then
      ((Shape.args? .setElement args).map fun (a, v) => (Address.cell s a, v)).toList
    else []
  | .fill _ s a stride count v increment =>
    fillWrites s stride increment (o.reached count) a v
  | _ => []

def keptOwner (o : Outcome) : Step → List SpaceId
  | .keepSnapshot s => if o.keepsTable then [s] else []
  | _ => []

def keptOrigin (l : Ledger) (o : Outcome) : Step → List (SpaceId × PageId)
  | .exposePage i p => if o.keepsPage then (l.owners[i]?.map fun s => (s, p)).toList else []
  | .call _ s args | .invoke _ s args =>
    if o.keepsPage then ((Shape.args? .lookupPage args).map fun p => (s, p)).toList else []
  | _ => []

def after (l : Ledger) (st : Step) (o : Outcome) : Ledger where
  owners := l.owners ++ keptOwner o st
  origins := l.origins ++ l.keptOrigin o st
  writes := l.written o st ++ l.writes

def run (l : Ledger) (x : Session) : List Step → Ledger
  | [] => l
  | st :: sts => (l.after st (x.step st).1).run (x.step st).2 sts

def elements (l : Ledger) (s : SpaceId) (p : PageId) : List Int32 :=
  (List.finRange elementsPerPage).map fun e => l.value ⟨s, p, e⟩

def scanned (l : Ledger) (s : SpaceId) (stride : UInt32) : Nat → Address → List Int32
  | 0, _ => []
  | n + 1, a => l.value (Address.cell s a) :: l.scanned s stride n (a + stride)

end Ledger

end PagedMemory
