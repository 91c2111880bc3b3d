import RegionScript.Proofs.Entries
import RegionScript.Proofs.Keys

/-!
Which tables of the store leave each other alone.

The rows of a table are what a scan finds under the keys that begin with the table's name and a
colon. A table whose name goes on from there has its rows among them: what is stored in it shows in
the other one, and replacing the rows of that one removes them. All other tables are apart, whatever
else the store holds.
-/

namespace RegionScript

namespace RecordTree

variable {t : RecordTree} {start key : StoreKey}

theorem scan_insert_elsewhere (h : ¬ start <+: key) (bytes : Bytes) :
    RecordTree.scan (t.insert key bytes) start = t.scan start := by
  refine OrderedMap.filter_insertEntry_of_neg (p := start.isPrefixOf) ?_ bytes t.entries
  rwa [← Bool.not_eq_true, List.isPrefixOf_iff_prefix]

theorem scan_insert_within (h : start <+: key) (bytes : Bytes) :
    RecordTree.scan (t.insert key bytes) start = OrderedMap.insertEntry key bytes (t.scan start) :=
  OrderedMap.filter_insertEntry_of_pos (List.isPrefixOf_iff_prefix.mpr h) bytes t.ascending

/-- What is left when the records of a scan are removed. -/
theorem eraseAll_scan (t : RecordTree) (start : StoreKey) :
    t.eraseAll ((t.scan start).map (·.1)) = t.filter fun key _ => !start.isPrefixOf key := by
  refine OrderedMap.ext_get? fun key => ?_
  rw [OrderedMap.get?_eraseAll, OrderedMap.get?_filter]
  cases hget : t.get? key with
  | none => simp
  | some bytes =>
    have hfound : key ∈ (t.scan start).map (·.1) ↔ start.isPrefixOf key = true := by
      constructor
      · intro h
        obtain ⟨e, he, rfl⟩ := List.mem_map.mp h
        exact (List.mem_filter.mp he).2
      · intro h
        have hmem := (t.mem_entries_iff key bytes).mpr hget
        exact List.mem_map.mpr ⟨(key, bytes), List.mem_filter.mpr ⟨hmem, h⟩, rfl⟩
    cases hkey : start.isPrefixOf key with
    | true => rw [if_pos (hfound.mpr hkey)]; rfl
    | false => rw [if_neg (by rw [hfound, hkey]; decide)]; rfl

theorem prefix_of_mem_scan {e : StoreKey × Bytes} (h : e ∈ t.scan start) : start <+: e.1 :=
  List.isPrefixOf_iff_prefix.mp (List.mem_filter.mp h).2

end RecordTree

namespace Store

variable {ν : Type} {s s' s'' : Store ν} {table other : String}

/-! ### Where rows stay -/

/-- The records that are left when a table is cleared. -/
theorem rowRecords_clear (s : Store ν) (table : String) :
    (s.clear table).2.rowRecords =
      s.rowRecords.filter fun key _ => !(tableStart table).isPrefixOf key :=
  RecordTree.eraseAll_scan s.rowRecords (tableStart table)

/-- A scan after a table is cleared finds what does not begin like its keys. -/
theorem scan_clear (s : Store ν) (table : String) (start : StoreKey) :
    (s.clear table).2.rowRecords.scan start =
      (s.rowRecords.scan start).filter fun e => !(tableStart table).isPrefixOf e.1 := by
  rw [rowRecords_clear]
  show (s.rowRecords.entries.filter _).filter _ = (s.rowRecords.entries.filter _).filter _
  rw [List.filter_filter, List.filter_filter]
  exact List.filter_congr fun e _ => Bool.and_comm _ _

/-- A store has the rows of a table as an earlier one has them. -/
structure SameRows (table : String) (s s' : Store ν) : Prop where
  rows : s'.rows table = s.rows table
  rowCount : s'.rowCount table = s.rowCount table

namespace SameRows

theorem of_scan
    (h : s'.rowRecords.scan (tableStart table) = s.rowRecords.scan (tableStart table)) :
    SameRows table s s' where
  rows := by rw [Store.rows, Store.rows, h]
  rowCount := by rw [Store.rowCount, Store.rowCount, h]

theorem refl (table : String) (s : Store ν) : SameRows table s s := ⟨rfl, rfl⟩

theorem trans (h : SameRows table s s') (h' : SameRows table s' s'') : SameRows table s s'' :=
  ⟨h'.rows.trans h.rows, h'.rowCount.trans h.rowCount⟩

/-- A row that is stored in a table changes those to which its key counts. -/
theorem append [Numbering ν] (h : ∀ n, ¬ tableStart other <+: rowKey table n) (s : Store ν)
    (rows : List Row) : SameRows other s (s.append table rows).2 := by
  induction rows generalizing s with
  | nil => exact refl other s
  | cons row rest ih =>
    have hrow : SameRows other s (s.appendRow table row) :=
      of_scan (RecordTree.scan_insert_elsewhere (h _) _)
    exact hrow.trans (ih _)

/-- What is removed from a table begins like its keys. -/
theorem clear (h : ∀ key, tableStart other <+: key → ¬ tableStart table <+: key) (s : Store ν) :
    SameRows other s (s.clear table).2 := by
  refine of_scan ?_
  rw [scan_clear]
  refine List.filter_eq_self.mpr fun e he => ?_
  rw [Bool.not_eq_true', ← Bool.not_eq_true, List.isPrefixOf_iff_prefix]
  exact h e.1 (RecordTree.prefix_of_mem_scan he)

end SameRows

/-! ### Tables that are apart -/

/-- Nothing that is done to a table changes the rows of another one. -/
def Apart (ν : Type) [Numbering ν] (table other : String) : Prop :=
  ∀ (s : Store ν) (rows : List Row),
    SameRows other s (s.append table rows).2 ∧ SameRows other s (s.replace table rows).2 ∧
      SameRows other s (s.clear table).2

theorem not_prefix_of_apart (hne : other ≠ table) (hgoesOn : ¬ GoesOn table other)
    (hback : ¬ GoesOn other table) {key : StoreKey} (h : tableStart other <+: key) :
    ¬ tableStart table <+: key := by
  intro htable
  rcases List.prefix_or_prefix_of_prefix h htable with hstarts | hstarts
  · exact (tableStart_prefix_tableStart.mp hstarts).elim hne hgoesOn
  · exact (tableStart_prefix_tableStart.mp hstarts).elim hne.symm hback

/-- In an empty store a single row is found by the tables to which its key counts. -/
theorem rowCount_single [Numbering ν] (h : ∀ n, tableStart other <+: rowKey table n) (row : Row) :
    ((∅ : Store ν).append table [row]).2.rowCount other = 1 := by
  have hscan := RecordTree.scan_insert_within (t := ∅)
    (h (Numbering.next (Numbering.start (ν := ν))))
    { row with schemaVersion := Row.currentVersion }.toBytes
  exact congrArg List.length hscan

/-- Wherever row numbers come from, two tables are apart if and only if neither of their names goes
on from the other one with a colon. -/
theorem apart_iff [Numbering ν] :
    Apart ν table other ↔ table ≠ other ∧ ¬ GoesOn table other ∧ ¬ GoesOn other table := by
  constructor
  · intro h
    -- a row put in `table` would be counted to `other`
    have hnone : ¬ (other = table ∨ GoesOn table other) := fun hstarts => by
      have hcount := (h ∅ [Row.new 1 0 0]).1.rowCount
      rw [rowCount_single fun n => tableStart_prefix_rowKey.mpr hstarts] at hcount
      cases hcount
    refine ⟨fun heq => hnone (.inl heq.symm), fun hgoesOn => hnone (.inr hgoesOn), fun hback => ?_⟩
    -- a row of `other` would be removed with `table`
    have hcount := (h ((∅ : Store ν).append other [Row.new 1 0 0]).2 []).2.2.rowCount
    rw [rowCount_single fun n => tableStart_prefix_rowKey.mpr (.inl rfl), rowCount, scan_clear,
      List.filter_eq_nil_iff.mpr] at hcount
    · cases hcount
    · intro e he
      have hother : tableStart other <+: e.1 := RecordTree.prefix_of_mem_scan he
      have htable : tableStart table <+: e.1 :=
        (tableStart_prefix_tableStart.mpr (.inr hback)).trans hother
      simpa using htable
  · rintro ⟨hne, hgoesOn, hback⟩ s rows
    have happend : ∀ n, ¬ tableStart other <+: rowKey table n := fun n hstarts =>
      (tableStart_prefix_rowKey.mp hstarts).elim hne.symm hgoesOn
    have hclear : SameRows other s (s.clear table).2 :=
      .clear (fun _ => not_prefix_of_apart hne.symm hgoesOn hback) s
    exact ⟨.append happend s rows, hclear.trans (.append happend _ rows), hclear⟩

/-- A row of the table of a longer name is gone after the table of the shorter one is replaced. -/
theorem replacing_takes_rows_of_longer_name :
    let s : Store Blocks := (append ∅ "a:b" [Row.new 1 0 0]).2
    "a" ≠ "a:b" ∧ s.rowCount "a:b" = 1 ∧ (s.replace "a" []).2.rowCount "a:b" = 0 := by
  decide +kernel

end Store

end RegionScript
