import RegionScript.Proofs.StoreRuns

/-!
The names under which a store lists its tables.

They are not kept, but read back from the keys of the rows: every mark at the beginning of a key is
taken off, and then the last colon with what follows it. A table whose own name begins like a mark
loses that too. It is listed under the rest, or, where nothing is left, not at all; all other tables
that have rows are listed under their own names.
-/

namespace RegionScript.Store

variable {ν : Type} {s : Store ν} {tables : List String}

/-! ### Reading a name back -/

theorem unmarked_rowMark_append (key : StoreKey) : unmarked (rowMark ++ key) = unmarked key := rfl

theorem unmarked_of_not_marked {key : StoreKey} (h : ¬ rowMark <+: key) : unmarked key = key := by
  unfold unmarked
  split
  · next rest => exact absurd ⟨rest, rfl⟩ h
  · rfl

/-- No mark is left. -/
theorem not_marked_unmarked (key : StoreKey) : ¬ rowMark <+: unmarked key := by
  fun_induction unmarked key with
  | case1 rest ih => exact ih
  | case2 key hnot =>
    rintro ⟨rest, rfl⟩
    exact hnot rest rfl

theorem unmarked_marks_append (k : Nat) (key : StoreKey) :
    unmarked ((List.replicate k rowMark).flatten ++ key) = unmarked key := by
  induction k with
  | zero => rfl
  | succ k ih =>
    rw [List.replicate_succ, List.flatten_cons, List.append_assoc, unmarked_rowMark_append, ih]

/-- What is taken off is marks. -/
theorem exists_marks (key : StoreKey) :
    ∃ k, key = (List.replicate k rowMark).flatten ++ unmarked key := by
  fun_induction unmarked key with
  | case1 rest ih =>
    obtain ⟨k, hk⟩ := ih
    refine ⟨k + 1, ?_⟩
    rw [List.replicate_succ, List.flatten_cons, List.append_assoc, ← hk]
    rfl
  | case2 key => exact ⟨0, rfl⟩

/-- A key that ends in a colon, or is empty. -/
def EndsInColon (key : StoreKey) : Prop := key = [] ∨ ∃ name, key = name ++ [':']

theorem EndsInColon.of_suffix {key rest : StoreKey} (h : EndsInColon key) (hrest : rest <:+ key) :
    EndsInColon rest := by
  rcases h with rfl | ⟨name, rfl⟩
  · exact .inl (List.suffix_nil.mp hrest)
  · rcases List.suffix_concat_iff.mp hrest with rfl | ⟨name', rfl, -⟩
    · exact .inl rfl
    · exact .inr ⟨name', rfl⟩

/-- What follows a colon, and has none itself, takes no part in a mark. -/
theorem unmarked_append {key digits : StoreKey} (hkey : EndsInColon key) (h : ':' ∉ digits) :
    unmarked (key ++ digits) = unmarked key ++ digits := by
  fun_induction unmarked key with
  | case1 rest ih => exact ih (hkey.of_suffix (List.suffix_append rowMark rest))
  | case2 key hnot =>
    refine unmarked_of_not_marked fun hmarked => ?_
    rcases hkey with rfl | ⟨name, rfl⟩
    · exact h (hmarked.subset (by decide))
    -- a mark ends in a colon too, so it ends where the key does, or before
    · have hwithin : rowMark <+: name ++ [':'] := by
        rcases (prefix_behind_mark (a := "rows".toList) h).mp hmarked with rfl | hname
        · exact List.prefix_refl _
        · exact hname.trans (List.prefix_append name [':'])
      obtain ⟨rest, hrest⟩ := hwithin
      exact hnot rest hrest.symm

theorem beforeLastColon?_append (key : StoreKey) {digits : List Char} (h : ':' ∉ digits) :
    beforeLastColon? (key ++ digits) = beforeLastColon? key := by
  have hskip : ∀ c ∈ digits.reverse, decide (c ≠ ':') = true := fun c hc =>
    decide_eq_true fun heq => h (heq ▸ List.mem_reverse.mp hc)
  unfold beforeLastColon?
  rw [List.reverse_append, List.dropWhile_append_of_pos hskip]

theorem beforeLastColon?_colon (name : List Char) :
    beforeLastColon? (name ++ [':']) = some name := by
  simp [beforeLastColon?]

/-- The name of a table begins like a mark. -/
def IsMarked (table : String) : Prop := rowMark <+: table.toList ++ [':']

instance (table : String) : Decidable (IsMarked table) := inferInstanceAs (Decidable (_ <+: _))

/-- The name of a table is some marks and then the name under which it is listed, which does not
begin like a mark. -/
def ListedAs (table name : String) : Prop :=
  ¬ IsMarked name ∧ ∃ k, table.toList = (List.replicate k rowMark).flatten ++ name.toList

theorem listedAs_self {table : String} (h : ¬ IsMarked table) : ListedAs table table :=
  ⟨h, 0, rfl⟩

theorem ListedAs.eq {table name : String} (h : ListedAs table name) (htable : ¬ IsMarked table) :
    table = name := by
  obtain ⟨-, k, hk⟩ := h
  cases k with
  | zero => exact String.toList_inj.mp hk
  | succ k =>
    refine absurd ?_ htable
    rw [IsMarked, hk, List.replicate_succ, List.flatten_cons, List.append_assoc, List.append_assoc]
    exact List.prefix_append rowMark _

theorem tableOf?_eq_some_iff {table name : String} :
    tableOf? (table.toList ++ [':']) = some name ↔ ListedAs table name := by
  constructor
  · intro h
    obtain ⟨before, hbefore, rfl⟩ := Option.map_eq_some_iff.mp h
    have hunmarked := not_marked_unmarked (table.toList ++ [':'])
    obtain ⟨k, hk⟩ := exists_marks (table.toList ++ [':'])
    rcases EndsInColon.of_suffix (.inr ⟨_, rfl⟩) ⟨_, hk.symm⟩ with hnone | ⟨rest, hrest⟩
    · rw [hnone] at hbefore
      cases hbefore
    · rw [hrest] at hbefore hunmarked hk
      rw [beforeLastColon?_colon] at hbefore
      obtain rfl := Option.some.inj hbefore
      rw [← List.append_assoc] at hk
      rw [ListedAs, IsMarked, String.toList_ofList]
      exact ⟨hunmarked, k, List.append_cancel_right hk⟩
  · rintro ⟨hname, k, hk⟩
    rw [tableOf?, hk, List.append_assoc, unmarked_marks_append, unmarked_of_not_marked hname,
      beforeLastColon?_colon, Option.map_some, String.ofList_toList]

/-- What is read back from a key of a table is the name under which it is listed. -/
theorem tableOf?_rowKey {table name : String} {n : Nat} :
    tableOf? (rowKey table n) = some name ↔ ListedAs table name := by
  have hdigits := Text.colon_notMem_zeroPadded 20 n
  have hkey : rowKey table n = rowMark ++ (table.toList ++ [':'] ++ Text.zeroPadded 20 n) := by
    rw [rowKey, tableStart, List.append_assoc, List.append_assoc, List.append_assoc]
  rw [← tableOf?_eq_some_iff, tableOf?, tableOf?, hkey, unmarked_rowMark_append,
    unmarked_append (.inr ⟨_, rfl⟩) hdigits, beforeLastColon?_append _ hdigits]

/-! ### The keys of rows -/

/-- Every row has a key of one of some tables. -/
def KeyedBy (tables : List String) (s : Store ν) : Prop :=
  ∀ e ∈ s.rowRecords.entries, ∃ table ∈ tables, ∃ n, e.1 = rowKey table n

/-- A table has a row under one of its keys. -/
def HasRow (s : Store ν) (table : String) : Prop :=
  ∃ n bytes, (rowKey table n, bytes) ∈ s.rowRecords.entries

namespace KeyedBy

/-- A scan of a table from whose name no other goes on finds the rows of that table alone. -/
theorem rowCount_pos_iff (h : KeyedBy tables s) {table : String}
    (hapart : ∀ other ∈ tables, ¬ GoesOn other table) : 0 < s.rowCount table ↔ s.HasRow table := by
  unfold rowCount
  rw [List.length_pos_iff_exists_mem]
  constructor
  · rintro ⟨e, he⟩
    have hstarts := RecordTree.prefix_of_mem_scan he
    obtain ⟨other, hother, n, hkey⟩ := h e (List.mem_filter.mp he).1
    rw [hkey] at hstarts
    obtain rfl := (tableStart_prefix_rowKey.mp hstarts).resolve_right (hapart other hother)
    exact ⟨n, e.2, hkey ▸ (List.mem_filter.mp he).1⟩
  · rintro ⟨n, bytes, hmem⟩
    have hstarts : tableStart table <+: rowKey table n := tableStart_prefix_rowKey.mpr (.inl rfl)
    exact ⟨_, List.mem_filter.mpr ⟨hmem, List.isPrefixOf_iff_prefix.mpr hstarts⟩⟩

/-- What is listed is what the tables with rows are listed as. -/
theorem contains_tableNames_iff (h : KeyedBy tables s) {name : String} :
    s.tableNames.contains name = true ↔
      ∃ table ∈ tables, s.HasRow table ∧ ListedAs table name := by
  unfold tableNames
  rw [OrderedSet.contains_ofList_iff, List.mem_filterMap]
  constructor
  · rintro ⟨e, he, hname⟩
    obtain ⟨table, htable, n, hkey⟩ := h e (List.mem_filter.mp he).1
    rw [hkey, tableOf?_rowKey] at hname
    exact ⟨table, htable, ⟨n, e.2, hkey ▸ (List.mem_filter.mp he).1⟩, hname⟩
  · rintro ⟨table, -, ⟨n, bytes, hmem⟩, hname⟩
    have hstarts : rowMark <+: rowKey table n := by
      rw [rowKey, tableStart, List.append_assoc, List.append_assoc]
      exact List.prefix_append _ _
    refine ⟨_, List.mem_filter.mpr ⟨hmem, List.isPrefixOf_iff_prefix.mpr hstarts⟩, ?_⟩
    exact tableOf?_rowKey.mpr hname

theorem clear (h : KeyedBy tables s) (table : String) : KeyedBy tables (s.clear table).2 := by
  intro e he
  rw [rowRecords_clear] at he
  exact h e (List.mem_filter.mp he).1

variable [Numbering ν]

theorem appendRow (h : KeyedBy tables s) {table : String} (htable : table ∈ tables) (row : Row) :
    KeyedBy tables (s.appendRow table row) := by
  intro e he
  rcases OrderedMap.mem_insertEntry he with rfl | he
  · exact ⟨table, htable, _, rfl⟩
  · exact h e he

theorem append (h : KeyedBy tables s) {table : String} (htable : table ∈ tables)
    (rows : List Row) : KeyedBy tables (s.append table rows).2 := by
  induction rows generalizing s with
  | nil => exact h
  | cons row rest ih => exact ih (h.appendRow htable row)

end KeyedBy

/-! ### Sequences of operations -/

/-- The table that a change is made to. -/
def tableOfChange? : Change → Option String
  | .append table _ | .clear table => some table
  | .bind .. | .putNames .. => none

/-- The tables that operations name. -/
def tablesOf (ops : List Operation) : List String :=
  ops.flatMap fun op => op.changes.filterMap tableOfChange?

namespace KeyedBy

variable [Numbering ν]

theorem change (h : KeyedBy tables s) {ch : Change}
    (hch : ∀ table, tableOfChange? ch = some table → table ∈ tables) :
    KeyedBy tables (s.change ch) := by
  cases ch with
  | append table rows => exact h.append (hch table rfl) rows
  | clear table => exact h.clear table
  | bind | putNames => exact h

theorem changes (h : KeyedBy tables s) {changes : List Change}
    (hchanges : ∀ table ∈ changes.filterMap tableOfChange?, table ∈ tables) :
    KeyedBy tables (changes.foldl Store.change s) := by
  induction changes generalizing s with
  | nil => exact h
  | cons ch rest ih =>
    have hmem {ch' : Change} (hch' : ch' ∈ ch :: rest) {table : String}
        (htable : tableOfChange? ch' = some table) : table ∈ tables :=
      hchanges table (List.mem_filterMap.mpr ⟨ch', hch', htable⟩)
    refine ih (h.change fun table => hmem (List.mem_cons_self ..)) fun table htable => ?_
    obtain ⟨ch', hch', htable⟩ := List.mem_filterMap.mp htable
    exact hmem (List.mem_cons_of_mem ch hch') htable

theorem perform (h : KeyedBy tables s) {op : Operation}
    (hop : ∀ table ∈ op.changes.filterMap tableOfChange?, table ∈ tables) :
    KeyedBy tables (s.perform op) := by
  rcases perform_cases s op with hchanges | ⟨-, rfl | rfl⟩
  · rw [hchanges]
    exact h.changes hop
  · exact h
  · exact h

theorem performAll (h : KeyedBy tables s) {ops : List Operation}
    (hops : ∀ table ∈ tablesOf ops, table ∈ tables) :
    KeyedBy tables (ops.foldl Store.perform s) := by
  induction ops generalizing s with
  | nil => exact h
  | cons op rest ih =>
    rw [tablesOf, List.flatMap_cons] at hops
    exact ih (h.perform fun table htable => hops table (List.mem_append_left _ htable))
      fun table htable => hops table (List.mem_append_right _ htable)

end KeyedBy

/-- The names that a store lists after any operations on an empty one, of tables of whose names none
goes on from another with a colon: those of the tables with rows, less the marks at their beginning.
So the names of the tables with rows are listed, and no others, if and only if none of them begins
like a mark. -/
theorem tableNames_exact_iff [Numbering ν] {ops : List Operation}
    (hapart : ∀ table ∈ tablesOf ops, ∀ other ∈ tablesOf ops, ¬ GoesOn other table) :
    let s := after ν ops
    (∀ name, s.tableNames.contains name = true ↔
        ∃ table ∈ tablesOf ops, 0 < s.rowCount table ∧ ListedAs table name) ∧
      ((∀ name, s.tableNames.contains name = true ↔ name ∈ tablesOf ops ∧ 0 < s.rowCount name) ↔
        ∀ table ∈ tablesOf ops, 0 < s.rowCount table → ¬ IsMarked table) := by
  intro s
  have hkeyed : KeyedBy (tablesOf ops) s :=
    KeyedBy.performAll (fun _ he => by cases he) fun _ htable => htable
  have hlisted : ∀ name, s.tableNames.contains name = true ↔
      ∃ table ∈ tablesOf ops, 0 < s.rowCount table ∧ ListedAs table name := by
    intro name
    rw [hkeyed.contains_tableNames_iff]
    refine exists_congr fun table => and_congr_right fun htable => ?_
    rw [hkeyed.rowCount_pos_iff (hapart table htable)]
  refine ⟨hlisted, fun hexact table htable hrows => ?_, fun hnone name => ?_⟩
  -- a table with rows is listed, and what is listed is not marked
  · obtain ⟨-, -, -, hunmarked, -⟩ := (hlisted table).mp ((hexact table).mpr ⟨htable, hrows⟩)
    exact hunmarked
  · rw [hlisted]
    constructor
    · rintro ⟨table, htable, hrows, hname⟩
      obtain rfl := hname.eq (hnone table htable hrows)
      exact ⟨htable, hrows⟩
    · rintro ⟨hname, hrows⟩
      exact ⟨name, hname, hrows, listedAs_self (hnone name hname hrows)⟩

/-- Gossip is listed, spells are cleared, and the table of a marked name is listed under the rest of
it. -/
theorem tableNames_exact_iff_marked :
    let ops : List Operation :=
      [.append "gossip" [Row.new 1 0 0], .append "rows:event" [Row.new 2 0 0],
        .replace "spell" [Row.new 3 0 0], .clear "spell"]
    let s := after Blocks ops
    (∀ table ∈ tablesOf ops, ∀ other ∈ tablesOf ops, ¬ GoesOn other table) ∧
      s.tableNames.toList = ["event", "gossip"] ∧
      (s.tableNames.contains "event" = true ↔
        ∃ table ∈ tablesOf ops, 0 < s.rowCount table ∧ ListedAs table "event") ∧
      ¬ ∀ name, s.tableNames.contains name = true ↔ name ∈ tablesOf ops ∧ 0 < s.rowCount name := by
  intro ops s
  have hapart : ∀ table ∈ tablesOf ops, ∀ other ∈ tablesOf ops, ¬ GoesOn other table := by
    decide +kernel
  have hmarked : ¬ ∀ table ∈ tablesOf ops, 0 < s.rowCount table → ¬ IsMarked table := by
    decide +kernel
  obtain ⟨hlisted, hexact⟩ := tableNames_exact_iff (ν := Blocks) hapart
  exact ⟨hapart, by decide +kernel, hlisted "event", fun h => hmarked (hexact.mp h)⟩

/-- A table whose name is a mark less its colon is not listed, though it has a row. -/
theorem rows_named_rows_are_hidden :
    let ops : List Operation := [.append "rows" [Row.new 1 0 0]]
    let s := after Blocks ops
    (∀ table ∈ tablesOf ops, ∀ other ∈ tablesOf ops, ¬ GoesOn other table) ∧
      tablesOf ops = ["rows"] ∧ s.rowCount "rows" = 1 ∧ s.tableNames.toList = [] ∧
      ¬ (s.tableNames.contains "rows" = true ↔
        "rows" ∈ tablesOf ops ∧ 0 < s.rowCount "rows") := by
  decide +kernel

end RegionScript.Store
