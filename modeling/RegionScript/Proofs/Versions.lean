import RegionScript.Proofs.Readings
import RegionScript.Proofs.Records
import RegionScript.Store.Basic

/-!
Which schema versions a reader accepts.

A store may hold records that another release wrote, or bytes that are no record at all. A reader
that accepts a list of records just if each of them is of the current version, and that is otherwise
stopped by the first that is not, `Guards` its records. The scans for rows, for bindings and for all
names do. The list of a single owner is read by its key and not by a scan, and of that record the
version is not looked at: its names are given out whatever it is.
-/

namespace RegionScript

/-! ### Types of records -/

namespace Store

variable {α : Type} {entity : String} {version : α → UInt8} {expected : UInt8} {record : Option α}

theorem current_some (r : α) : current entity version expected (some r) =
    if version r = expected then .ok r else .error (.schemaMismatch entity expected (version r)) :=
  rfl

theorem current_eq_ok_iff {r : α} :
    current entity version expected record = .ok r ↔ record = some r ∧ version r = expected := by
  constructor
  · intro h
    cases record with
    | none => cases h
    | some r' =>
      rw [current_some] at h
      split at h
      · next hversion =>
        obtain rfl := Except.ok.inj h
        exact ⟨rfl, hversion⟩
      · cases h
  · rintro ⟨rfl, hversion⟩
    rw [current_some, if_pos hversion]

theorem current_eq_error_iff {e : StoreError} :
    current entity version expected record = .error e ↔
      (record = none ∧ e = .malformedRecord) ∨
        ∃ r, record = some r ∧ version r ≠ expected ∧
          e = .schemaMismatch entity expected (version r) := by
  constructor
  · intro h
    cases record with
    | none => exact .inl ⟨rfl, (Except.error.inj h).symm⟩
    | some r =>
      rw [current_some] at h
      split at h
      · cases h
      · next hversion => exact .inr ⟨r, rfl, hversion, (Except.error.inj h).symm⟩
  · rintro (⟨rfl, rfl⟩ | ⟨r, rfl, hversion, rfl⟩)
    · rfl
    · rw [current_some, if_neg hversion]

end Store

/-- A type of records: what messages call it, how its bytes are read, which version a record is of
and which is the current one, and what a reader takes from it. -/
structure RecordType (α β : Type) where
  entity : String
  ofBytes? : Bytes → Option α
  version : α → UInt8
  expected : UInt8
  data : α → β

namespace RecordType

def row : RecordType Row Row :=
  ⟨"script row", Row.ofBytes?, Row.schemaVersion, Row.currentVersion, id⟩

def binding : RecordType BindingRecord NamedScript :=
  ⟨"script binding", BindingRecord.ofBytes?, BindingRecord.version, Store.bindingVersion,
    fun r => ⟨r.id, r.scriptName⟩⟩

def nameList : RecordType NameListRecord (List String) :=
  ⟨"script name list", NameListRecord.ofBytes?, NameListRecord.version, Store.nameListVersion,
    NameListRecord.names⟩

variable {α β : Type} (k : RecordType α β) {bytes : Bytes} {records : List Bytes}

/-- The bytes are a record of the current version, and this is its data. -/
def Carries (bytes : Bytes) (d : β) : Prop :=
  ∃ r, k.ofBytes? bytes = some r ∧ k.version r = k.expected ∧ k.data r = d

/-- Why bytes are not a record of the current version. -/
inductive Fault (bytes : Bytes) : StoreError → Prop
  | foreign {r : α} (decoded : k.ofBytes? bytes = some r) (other : k.version r ≠ k.expected) :
      Fault bytes (.schemaMismatch k.entity k.expected (k.version r))
  | malformed (undecoded : k.ofBytes? bytes = none) : Fault bytes .malformedRecord

/-- The rule of versions. Records are accepted if all are of the current version, and then their
data is answered; and the first that is not is what the answer complains about. -/
structure Guards (records : List Bytes) (answer : Except StoreError (List β)) : Prop where
  accepted : ∀ data, answer = .ok data ↔ List.Forall₂ k.Carries records data
  refused : ∀ e, answer = .error e ↔ ∃ front bytes rest, records = front ++ bytes :: rest ∧
    (∀ b ∈ front, ∃ d, k.Carries b d) ∧ k.Fault bytes e

/-- The data of a record of the current version. -/
def read (bytes : Bytes) : Except StoreError β :=
  (Store.current k.entity k.version k.expected (k.ofBytes? bytes)).map k.data

theorem read_eq_ok_iff {d : β} : k.read bytes = .ok d ↔ k.Carries bytes d := by
  unfold read
  rw [map_eq_ok_iff]
  simp only [Store.current_eq_ok_iff, and_assoc]
  exact Iff.rfl

theorem read_eq_error_iff {e : StoreError} : k.read bytes = .error e ↔ k.Fault bytes e := by
  unfold read
  rw [map_eq_error_iff, Store.current_eq_error_iff]
  constructor
  · rintro (⟨undecoded, rfl⟩ | ⟨r, decoded, other, rfl⟩)
    · exact .malformed undecoded
    · exact .foreign decoded other
  · intro h
    cases h with
    | foreign decoded other => exact .inr ⟨_, decoded, other, rfl⟩
    | malformed undecoded => exact .inl ⟨undecoded, rfl⟩

end RecordType

/-- The records that a scan meets, in the order of their keys. -/
def RecordTree.recordsUnder (t : RecordTree) (start : StoreKey) : List Bytes :=
  (t.scan start).map (·.2)

namespace RecordType

variable {α β : Type} (k : RecordType α β)

/-- Reading one record after the other keeps to the rule. -/
theorem guards_mapM (records : List Bytes) : k.Guards records (records.mapM k.read) where
  accepted data := by
    rw [mapM_eq_ok_iff]
    simp only [read_eq_ok_iff]
  refused e := by
    rw [mapM_eq_error_iff]
    simp only [read_eq_ok_iff, read_eq_error_iff]

theorem guards_scan (t : RecordTree) (start : StoreKey) :
    k.Guards (t.recordsUnder start) ((t.scan start).mapM fun e => k.read e.2) := by
  have hscan : (t.scan start).mapM (fun e => k.read e.2) =
      (t.recordsUnder start).mapM k.read := by
    rw [RecordTree.recordsUnder, List.mapM_map]
    rfl
  rw [hscan]
  exact k.guards_mapM _

end RecordType

namespace Store

open RecordType

variable {ν : Type} (s : Store ν)

/-! ### Readers -/

theorem guards_rows (table : String) :
    row.Guards (s.rowRecords.recordsUnder (tableStart table)) (s.rows table) := by
  have hread : row.read = readRow := by
    funext bytes
    show (readRow bytes).map id = readRow bytes
    cases readRow bytes <;> rfl
  have hscan := row.guards_scan s.rowRecords (tableStart table)
  rwa [hread] at hscan

theorem guards_bindings (kind : String) :
    binding.Guards (s.bindingRecords.recordsUnder (bindingStart kind)) (s.bindings kind) :=
  binding.guards_scan s.bindingRecords (bindingStart kind)

theorem guards_names : ∃ lists, nameList.Guards (s.nameRecords.recordsUnder nameMark) lists ∧
    s.names = lists.map List.flatten :=
  ⟨_, nameList.guards_scan s.nameRecords nameMark, rfl⟩

theorem row_ofBytes?_toBytes (r : Row) : row.ofBytes? r.toBytes = some r := by
  -- The reader is named before it meets the bytes: else Lean compares by running both of them.
  have hreader : row.ofBytes? = Row.ofBytes? := rfl
  rw [hreader]
  exact Row.ofBytes?_toBytes r

/-- A row that was written by this release carries itself. -/
theorem row_carries {r : Row} (h : r.schemaVersion = Row.currentVersion) :
    row.Carries r.toBytes r :=
  ⟨r, row_ofBytes?_toBytes r, h, rfl⟩

/-- One that was written by another release is at fault for its version. -/
theorem row_fault {r : Row} (h : r.schemaVersion ≠ Row.currentVersion) :
    row.Fault r.toBytes (.schemaMismatch "script row" Row.currentVersion r.schemaVersion) :=
  .foreign (row_ofBytes?_toBytes r) h

/-- The names of one owner are read without regard to the version. -/
theorem namesOf_of_record {owner : String} {bytes : Bytes} {r : NameListRecord}
    (hget : s.nameRecords.get? (nameKey owner) = some bytes)
    (hr : NameListRecord.ofBytes? bytes = some r) : s.namesOf owner = .ok r.names := by
  unfold namesOf
  rw [hget]
  dsimp only
  rw [hr]

/-- So they are read by the rule only where the rule would let the record pass, or where there is
none. -/
theorem guards_namesOf_iff {owner : String} {bytes : Bytes}
    (hget : s.nameRecords.get? (nameKey owner) = some bytes) :
    nameList.Guards [bytes] ((s.namesOf owner).map ([·])) ↔
      ∀ r, NameListRecord.ofBytes? bytes = some r → r.version = nameListVersion := by
  constructor
  · intro h r hr
    have hok : (s.namesOf owner).map ([·]) = .ok [r.names] := by
      rw [s.namesOf_of_record hget hr]
      rfl
    obtain ⟨⟨r', hr', hversion, -⟩, -⟩ := List.forall₂_cons.mp ((h.accepted _).mp hok)
    obtain rfl := Option.some.inj (hr.symm.trans hr')
    exact hversion
  · intro h
    have hread : s.namesOf owner = nameList.read bytes := by
      cases hr : NameListRecord.ofBytes? bytes with
      | none =>
        have hfault := nameList.read_eq_error_iff.mpr (.malformed hr)
        rw [hfault, namesOf, hget]
        dsimp only
        rw [hr]
      | some r =>
        rw [s.namesOf_of_record hget hr]
        exact (nameList.read_eq_ok_iff.mpr ⟨r, hr, h r hr, rfl⟩).symm
    have hone : (nameList.read bytes).map ([·]) = [bytes].mapM nameList.read := by
      rw [List.mapM_cons]
      cases nameList.read bytes <;> rfl
    rw [hread, hone]
    exact nameList.guards_mapM _

/-- Reading rows, bindings or all names is guarded: the answer is the data of all records that the
scan meets if each is of the current version of its type, and otherwise it complains about the first
one that is not, with the version that was expected and the one found. The names of one owner are
answered whatever the version of their record, and so by this rule only if it is not another one. -/
theorem scans_guard_versions {ν : Type} (s : Store ν) :
    (∀ table, row.Guards (s.rowRecords.recordsUnder (tableStart table)) (s.rows table)) ∧
    (∀ kind, binding.Guards (s.bindingRecords.recordsUnder (bindingStart kind))
      (s.bindings kind)) ∧
    (∃ lists, nameList.Guards (s.nameRecords.recordsUnder nameMark) lists ∧
      s.source.names = lists.map List.flatten) ∧
    ∀ owner bytes, s.nameRecords.get? (nameKey owner) = some bytes →
      (∀ r, NameListRecord.ofBytes? bytes = some r → s.namesOf owner = .ok r.names) ∧
      (nameList.Guards [bytes] ((s.namesOf owner).map ([·])) ↔
        ∀ r, NameListRecord.ofBytes? bytes = some r → r.version = nameListVersion) := by
  refine ⟨s.guards_rows, s.guards_bindings, s.guards_names, fun owner bytes hget => ⟨?_, ?_⟩⟩
  · exact fun r hr => s.namesOf_of_record hget hr
  · exact s.guards_namesOf_iff hget

/-- A row of another release, which calls its schema the second version. -/
def foreignRow : Row := { Row.new 2 0 0 with schemaVersion := 2 }

/-- A list of names of the same release. -/
def foreignNames : NameListRecord := ⟨2, "npcs", ["captain"]⟩

/-- A store in which another release has left a row behind one of our own, and a list of names. -/
def planted : Store Blocks where
  rowRecords := .ofList
    [(rowKey "t" 0, (Row.new 1 0 0).toBytes), (rowKey "t" 1, foreignRow.toBytes)]
  nameRecords := .ofList [(nameKey "npcs", foreignNames.toBytes)]
  numbers := .behind 0

/-- The foreign row stops the reading of its table, and the foreign list that of all names; but the
names of its owner are read. -/
theorem scans_guard_versions_planted :
    planted.rows "t" = .error (.schemaMismatch "script row" 1 2) ∧
      planted.nameRecords.get? (nameKey "npcs") = some foreignNames.toBytes ∧
      NameListRecord.ofBytes? foreignNames.toBytes = some foreignNames ∧
      planted.namesOf "npcs" = .ok ["captain"] := by
  obtain ⟨hrows, -, -, hnames⟩ := scans_guard_versions planted
  have hmet : planted.rowRecords.recordsUnder (tableStart "t") =
      [(Row.new 1 0 0).toBytes, foreignRow.toBytes] := by decide +kernel
  have hget : planted.nameRecords.get? (nameKey "npcs") = some foreignNames.toBytes := by
    decide +kernel
  have hdecoded : NameListRecord.ofBytes? foreignNames.toBytes = some foreignNames := by
    decide +kernel
  have hnpcs := (hnames "npcs" _ hget).1 _ hdecoded
  have hfault : row.Fault foreignRow.toBytes (.schemaMismatch "script row" 1 2) :=
    row_fault (by decide)
  refine ⟨?_, hget, hdecoded, hnpcs⟩
  rw [(hrows "t").refused]
  refine ⟨[(Row.new 1 0 0).toBytes], foreignRow.toBytes, [], hmet, ?_, hfault⟩
  rintro b hb
  obtain rfl := List.mem_singleton.mp hb
  exact ⟨Row.new 1 0 0, row_carries rfl⟩

/-- The names of one owner are read from a record of another version, which the scan for all names
refuses. -/
theorem foreign_names_are_read :
    planted.namesOf "npcs" = .ok ["captain"] ∧
      planted.nameRecords.get? (nameKey "npcs") = some foreignNames.toBytes ∧
      NameListRecord.ofBytes? foreignNames.toBytes = some foreignNames ∧
      foreignNames.version ≠ nameListVersion ∧
      planted.source.names = .error (.schemaMismatch "script name list" 1 2) := by
  decide +kernel

end Store

end RegionScript
