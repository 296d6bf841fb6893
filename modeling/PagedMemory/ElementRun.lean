import PagedMemory.CallSite

/-! Runs of consecutive elements, written and read through call sites. -/

set_option autoImplicit false

namespace PagedMemory

def getName : String := "GET:ELEMENT:memory"
def setName : String := "SET:ELEMENT:memory"

def getOperation : Operation := ⟨.get, [.element], some Shape.memoryTarget⟩
def setOperation : Operation := ⟨.set, [.element], some Shape.memoryTarget⟩

def getSite : CallSite .getElement := { name := getName, operation := getOperation }

def setSite : CallSite .setElement := { name := setName, operation := setOperation }

namespace CallSite

/-- Write values to the elements from the `i`th after `base` on. -/
def writeRun (s : SpaceId) (base : Address) :
    List Int32 → Nat → CallSite .setElement → Memory →
      Except MemoryError Unit × CallSite .setElement × Memory
  | [], _, site, m => (.ok (), site, m)
  | v :: vs, i, site, m =>
    match site.call m s (base.plusElements i, v) with
    | (.ok (), site, m) => writeRun s base vs (i + 1) site m
    | (.error e, site, m) => (.error e, site, m)

def readRun (s : SpaceId) (base : Address) :
    Nat → Nat → CallSite .getElement → Memory →
      Except MemoryError (List Int32) × CallSite .getElement × Memory
  | 0, _, site, m => (.ok [], site, m)
  | n + 1, i, site, m =>
    match site.call m s (base.plusElements i) with
    | (.error e, site, m) => (.error e, site, m)
    | (.ok v, site, m) =>
      match readRun s base n (i + 1) site m with
      | (.ok vs, site, m) => (.ok (v :: vs), site, m)
      | (.error e, site, m) => (.error e, site, m)

end CallSite

end PagedMemory
