import RegionScript.Script.Row
import RegionScript.Store.Error

/-!
Where script rows come from.
-/

namespace RegionScript

/-- A place to read rows, bindings and script names from. Reading may fail; reading twice gives the
same. -/
structure RowSource where
  rows : String → Except StoreError (List Row)
  areaTriggers : Except StoreError (List NamedScript)
  eventIds : Except StoreError (List NamedScript)
  /-- Script names known from elsewhere than the game data. -/
  names : Except StoreError (List String)

/-- Rows held in memory, by table name. -/
structure MemorySource where
  tables : OrderedMap String (List Row) := ∅
  areaTriggers : List NamedScript := []
  eventIds : List NamedScript := []
  names : List String := []

namespace MemorySource

/-- The rows of a table; a table that is not there has none. -/
def rows (m : MemorySource) (table : String) : List Row := (m.tables.get? table).getD []

/-- Reading from memory never fails. -/
def source (m : MemorySource) : RowSource where
  rows table := .ok (m.rows table)
  areaTriggers := .ok m.areaTriggers
  eventIds := .ok m.eventIds
  names := .ok m.names

end MemorySource

end RegionScript
