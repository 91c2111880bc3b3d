/-!
Why the script store could not answer.
-/

namespace RegionScript

inductive StoreError where
  /-- No record under the key that was asked for. -/
  | notFound (record : String)
  /-- A record of another schema version. -/
  | schemaMismatch (entity : String) (expected found : UInt8)
  /-- Bytes that are no record. -/
  | malformedRecord
  deriving DecidableEq, Repr

/-- The reason in words. -/
def StoreError.message : StoreError → String
  | notFound record => s!"record not found: {record}"
  | schemaMismatch entity expected found =>
    s!"schema mismatch for {entity}: expected {expected}, got {found}"
  | malformedRecord => "serialization error: malformed record"

end RegionScript
