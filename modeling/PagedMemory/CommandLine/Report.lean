import PagedMemory.LayoutReport
import PagedMemory.MatrixTest
import PagedMemory.MemoryTest

/-! What a command found out, as lines for people or as JSON. The time that it took is a
text from outside. -/

set_option autoImplicit false

namespace PagedMemory.CommandLine

inductive Report where
  | layout (r : LayoutReport)
  | memtest (r : MemoryTest.Report)
  | matmul (r : MatrixTest.Report)
  deriving DecidableEq, Repr

namespace Report

def memtestJson (r : MemoryTest.Report) : Json := .object [
  Json.member "count" (.ofNat r.count.toNat),
  Json.member "base" (.ofNat r.base.toNat),
  Json.member "seed" (.ofNat r.seed.toNat),
  Json.member "relinks" (.ofNat r.relinks),
  Json.member "pages" (.ofNat r.pages)]

def rowsJson (rows : List (List Int32)) : Json :=
  .array (rows.map fun row => .array (row.map fun v => .ofInt v.toInt))

def matmulJson (elapsed : String) (r : MatrixTest.Report) : Json := .object ([
  Json.member "size" (.ofNat r.size),
  Json.member "iterations" (.ofNat r.iterations),
  Json.member "seed" (.ofNat r.seed.toNat),
  Json.member "elapsed_ms" (.number elapsed.toList),
  Json.member "relinks" (.ofNat r.relinks),
  Json.member "pages" (.ofNat r.pages),
  Json.member "matrices" (.array (r.matrices.map fun a => .ofNat a.toNat)),
  Json.member "checksum" (.ofInt r.checksum)] ++
  (r.result.map fun rows => Json.member "result" (rowsJson rows)).toList)

def toJson (elapsed : String) : Report → Json
  | .layout r => r.toJson
  | .memtest r => memtestJson r
  | .matmul r => matmulJson elapsed r

def rowText (row : List Int32) : String :=
  String.intercalate " " (row.map fun v => s!"[{v.toInt}]")

def lines (elapsed : String) : Report → List String
  | .layout r => r.lines
  | .memtest r =>
    [s!"memtest ok: {r.count.toNat} ints at {Text.hex r.base} (seed {r.seed.toNat}, {r.relinks} relinks)"]
  | .matmul r =>
    let bases := [("a", r.matrices[0]?), ("b", r.matrices[1]?), ("c", r.matrices[2]?)]
    let places := bases.map fun (name, a) => s!"{name} = {Text.hex (a.getD 0)}"
    String.intercalate ", " places :: (r.result.getD []).map rowText ++
      [s!"matmul ok: {r.size}x{r.size}, {r.iterations} iterations in {elapsed} ms ({r.relinks} relinks, checksum {r.checksum})"]

def output (json : Bool) (elapsed : String) (r : Report) : List String :=
  if json then (String.ofList (Json.indented 0 (r.toJson elapsed)) |>.splitOn "\n")
  else r.lines elapsed

end Report

end PagedMemory.CommandLine
