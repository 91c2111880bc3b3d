import RegionScript.Store.Basic

/-!
A whole store as bytes: the block of its last row number, then the three trees of records, each with
its length in front.
-/

namespace RegionScript

namespace Bytes

/-- Bytes behind their length. -/
def ofBlock (b : Bytes) : Bytes := ofLength b.length ++ b

def takeBlock : Taking Bytes := do takeBytes (← takeNat 8)

/-- A record behind its key. -/
def ofEntry (e : StoreKey × Bytes) : Bytes := ofText (String.ofList e.1) ++ ofBlock e.2

def takeEntry : Taking (StoreKey × Bytes) := return ((← takeText).toList, ← takeBlock)

def ofTree (t : RecordTree) : Bytes := ofLength t.size ++ t.entries.flatMap ofEntry

/-- As many records as are asked for. -/
def takeEntries : Nat → Taking (List (StoreKey × Bytes))
  | 0 => return []
  | n + 1 => do
    let e ← takeEntry
    return e :: (← takeEntries n)

def takeTree : Taking RecordTree := do return .ofList (← takeEntries (← takeNat 8))

end Bytes

open Bytes

namespace Store

def toBytes (s : Store Blocks) : Bytes :=
  ofLength s.numbers.block ++ ofTree s.rowRecords ++ ofTree s.bindingRecords ++ ofTree s.nameRecords

/-- The store that was closed as these bytes, opened again. -/
def ofBytes? (bytes : Bytes) : Option (Store Blocks) :=
  read? (do
    let block ← takeNat 8
    return {
      rowRecords := ← takeTree
      bindingRecords := ← takeTree
      nameRecords := ← takeTree
      numbers := .behind block }) bytes

end Store

end RegionScript
