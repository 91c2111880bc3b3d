import RegionScript.Proofs.Isolation
import RegionScript.Proofs.Records

/-!
What a store holds.

Seen from outside a store is a list of rows for each table, a map from ids to script names for each
kind of bindings, and a map from owners to lists of names. `Holds` ties these contents to the
records: the scan of a table meets the records of its rows in their order, because a row gets a
higher number than all before it, and the scan of a kind of bindings, or of the names, meets the
records in the order of the ids, or of the owners. What changes the contents changes the records
alike.

Names of tables and kinds of bindings have no colon here; with one, a table may take part in
another, as `Store.apart_iff` says.
-/

namespace RegionScript

/-- The row as the store keeps it. -/
def Row.stamped (r : Row) : Row := { r with schemaVersion := Row.currentVersion }

/-- Rows by table, script names by kind and id, and lists of names by owner. -/
structure Contents where
  rows : String → List Row := fun _ => []
  bindings : String → OrderedMap UInt32 String := fun _ => ∅
  names : OrderedMap String (List String) := ∅

/-! ### Changes -/

/-- What is done to a part of a store. -/
inductive Change where
  | append (table : String) (rows : List Row)
  | clear (table : String)
  | bind (kind : String) (id : UInt32) (scriptName : String)
  | putNames (owner : String) (names : List String)

/-- Rows are put behind those that a table has; of what is put elsewhere the last one stays. -/
def Contents.change (c : Contents) : Change → Contents
  | .append table rows =>
    { c with rows := fun t => if t = table then c.rows t ++ rows else c.rows t }
  | .clear table => { c with rows := fun t => if t = table then [] else c.rows t }
  | .bind kind id scriptName =>
    { c with
      bindings := fun k => if k = kind then (c.bindings k).insert id scriptName else c.bindings k }
  | .putNames owner names => { c with names := c.names.insert owner names }

/-- A name without a colon. -/
def Store.IsPlain (name : String) : Prop := ':' ∉ name.toList

instance (name : String) : Decidable (Store.IsPlain name) :=
  inferInstanceAs (Decidable (¬ _ ∈ _))

open Bytes in
/-- Names have no colon, and texts and lists have a length that can be written. -/
def Change.IsSound : Change → Prop
  | .append table _ | .clear table => Store.IsPlain table
  | .bind kind _ scriptName => Store.IsPlain kind ∧ FitsText scriptName
  | .putNames owner names => FitsText owner ∧ FitsTexts names

instance : ∀ ch : Change, Decidable ch.IsSound
  | .append table _ | .clear table => inferInstanceAs (Decidable (Store.IsPlain table))
  | .bind _ _ _ | .putNames _ _ => inferInstanceAs (Decidable (_ ∧ _))

namespace Store

open Bytes OrderedMap

variable {ν : Type} [Numbering ν] {s : Store ν} {c : Contents}

def change (s : Store ν) : Change → Store ν
  | .append table rows => (s.append table rows).2
  | .clear table => (s.clear table).2
  | .bind kind id scriptName => s.bind kind id scriptName
  | .putNames owner names => s.putNames owner names

theorem IsPlain.not_goesOn {name : String} (h : IsPlain name) (other : String) :
    ¬ GoesOn name other := by
  rintro ⟨rest, hrest⟩
  refine h (hrest ▸ ?_)
  simp

/-- The keys of a table without a colon begin like those of no other table. -/
theorem IsPlain.eq_of_starts {table other : String} (h : IsPlain table) {n : Nat}
    (hstarts : tableStart other <+: rowKey table n) : other = table :=
  (tableStart_prefix_rowKey.mp hstarts).resolve_right (h.not_goesOn other)

/-! ### Row numbers -/

theorem nextNumber_lt_appendRow (s : Store ν) (table : String) (row : Row) :
    s.nextNumber < (s.appendRow table row).nextNumber :=
  Numbering.next_lt_given s.numbers

theorem nextNumber_le_append (s : Store ν) (table : String) (rows : List Row) :
    s.nextNumber ≤ (s.append table rows).2.nextNumber := by
  induction rows generalizing s with
  | nil => exact Nat.le_refl _
  | cons row rest ih =>
    exact Nat.le_trans (Nat.le_of_lt (nextNumber_lt_appendRow s table row)) (ih _)

theorem nextNumber_le_change (s : Store ν) (ch : Change) :
    s.nextNumber ≤ (s.change ch).nextNumber := by
  cases ch with
  | append table rows => exact s.nextNumber_le_append table rows
  | clear | bind | putNames => exact Nat.le_refl _

theorem nextNumber_le_changes (s : Store ν) (changes : List Change) :
    s.nextNumber ≤ (changes.foldl change s).nextNumber := by
  induction changes generalizing s with
  | nil => exact Nat.le_refl _
  | cons ch rest ih => exact Nat.le_trans (s.nextNumber_le_change ch) (ih _)

/-! ### What the records hold -/

/-- The record of a binding, under its key. -/
def bindingEntry (kind : String) (e : UInt32 × String) : StoreKey × Bytes :=
  (bindingKey kind e.1, BindingRecord.toBytes ⟨bindingVersion, e.1, e.2⟩)

/-- The record of a list of names, under its key. -/
def nameEntry (e : String × List String) : StoreKey × Bytes :=
  (nameKey e.1, NameListRecord.toBytes ⟨nameListVersion, e.1, e.2⟩)

/-- The records of a store are those of some contents. -/
structure Holds (c : Contents) (s : Store ν) : Prop where
  rows : ∀ table, (s.rowRecords.scan (tableStart table)).map (·.2) =
    (c.rows table).map fun r => r.stamped.toBytes
  /-- Row numbers come before the next one. -/
  rowKeys : ∀ e ∈ s.rowRecords.entries, ∃ table n, e.1 = rowKey table n ∧ IsPlain table ∧
    n < s.nextNumber
  bindings : ∀ kind, s.bindingRecords.scan (bindingStart kind) =
    (c.bindings kind).entries.map (bindingEntry kind)
  names : s.nameRecords.entries = c.names.entries.map nameEntry
  bindingsFit : ∀ kind id scriptName, (c.bindings kind).get? id = some scriptName →
    FitsText scriptName
  namesFit : ∀ owner names, c.names.get? owner = some names → FitsText owner ∧ FitsTexts names

/-- A store without records. -/
structure IsEmpty (s : Store ν) : Prop where
  rows : s.rowRecords = ∅
  bindings : s.bindingRecords = ∅
  names : s.nameRecords = ∅

namespace Holds

theorem of_isEmpty (h : s.IsEmpty) : Holds {} s where
  rows table := by rw [h.rows]; rfl
  rowKeys e he := by rw [h.rows] at he; cases he
  bindings kind := by rw [h.bindings]; rfl
  names := by rw [h.names]; rfl
  bindingsFit _ _ _ hget := by cases hget
  namesFit _ _ hget := by cases hget

/-- A row gets a key behind those of all other rows of its table. -/
theorem appendRow (h : Holds c s) {table : String} (hplain : IsPlain table)
    (hnext : s.nextNumber < 2 ^ 64) (row : Row) :
    Holds (c.change (.append table [row])) (s.appendRow table row) where
  rows t := by
    show (RecordTree.scan (s.rowRecords.insert (rowKey table s.nextNumber) _) _).map _ =
      (if t = table then c.rows t ++ [row] else c.rows t).map _
    by_cases ht : t = table
    · subst ht
      -- as names have no colon, the scan finds rows of this table alone, and all numbers are lower
      have hlast : ∀ e ∈ s.rowRecords.scan (tableStart t),
          compare (rowKey t s.nextNumber) e.1 = .gt := fun e he => by
        obtain ⟨u, n, hkey, hu, hn⟩ := h.rowKeys e (List.mem_filter.mp he).1
        have hstarts : tableStart t <+: e.1 := RecordTree.prefix_of_mem_scan he
        rw [hkey] at hstarts
        obtain rfl := hu.eq_of_starts hstarts
        rw [hkey, compare_rowKey t hnext (Nat.lt_trans hn hnext)]
        exact Nat.compare_eq_gt.mpr hn
      rw [if_pos rfl, RecordTree.scan_insert_within (tableStart_prefix_rowKey.mpr (.inl rfl)),
        insertEntry_last _ hlast, List.map_append, List.map_append, h.rows t]
      rfl
    · rw [if_neg ht, RecordTree.scan_insert_elsewhere fun hstarts =>
        ht (hplain.eq_of_starts hstarts)]
      exact h.rows t
  rowKeys e he := by
    have hlater := s.nextNumber_lt_appendRow table row
    rcases mem_insertEntry he with rfl | he
    · exact ⟨table, s.nextNumber, rfl, hplain, hlater⟩
    · obtain ⟨u, n, hkey, hu, hn⟩ := h.rowKeys e he
      exact ⟨u, n, hkey, hu, Nat.lt_trans hn hlater⟩
  bindings := h.bindings
  names := h.names
  bindingsFit := h.bindingsFit
  namesFit := h.namesFit

/-- Rows are stored one by one. -/
theorem append (h : Holds c s) {table : String} (hplain : IsPlain table) (rows : List Row)
    (hnext : (s.append table rows).2.nextNumber ≤ 2 ^ 64) :
    Holds (c.change (.append table rows)) (s.append table rows).2 := by
  induction rows generalizing c s with
  | nil =>
    have hnone : c.change (.append table []) = c := by simp [Contents.change]
    rwa [hnone]
  | cons row rest ih =>
    -- the contents take the rows in one go, the records one after the other
    have hsplit : c.change (.append table (row :: rest)) =
        (c.change (.append table [row])).change (.append table rest) := by
      simp only [Contents.change, Contents.mk.injEq, and_true]
      funext t
      by_cases ht : t = table <;> simp [ht]
    have hfirst : s.nextNumber < 2 ^ 64 :=
      Nat.lt_of_lt_of_le (s.nextNumber_lt_appendRow table row)
        (Nat.le_trans (nextNumber_le_append _ table rest) hnext)
    rw [hsplit]
    exact ih (h.appendRow hplain hfirst row) hnext

/-- The scan of a table that is cleared meets nothing, and that of another one what it met. -/
theorem clear (h : Holds c s) (table : String) :
    Holds (c.change (.clear table)) (s.clear table).2 where
  rows t := by
    show _ = (if t = table then [] else c.rows t).map _
    rw [scan_clear]
    by_cases ht : t = table
    · subst ht
      rw [if_pos rfl, List.filter_eq_nil_iff.mpr fun e he => ?_]
      · rfl
      · simpa using RecordTree.prefix_of_mem_scan he
    · rw [if_neg ht, List.filter_eq_self.mpr fun e he => ?_]
      · exact h.rows t
      -- a key found for `t` is one of `t` itself, so it does not begin like those of `table`
      · obtain ⟨u, n, hkey, hu, -⟩ := h.rowKeys e (List.mem_filter.mp he).1
        have hstarts : tableStart t <+: e.1 := RecordTree.prefix_of_mem_scan he
        rw [hkey] at hstarts ⊢
        obtain rfl := hu.eq_of_starts hstarts
        rw [Bool.not_eq_true', ← Bool.not_eq_true, List.isPrefixOf_iff_prefix]
        exact fun hother => ht (hu.eq_of_starts hother).symm
  rowKeys e he := by
    rw [rowRecords_clear] at he
    exact h.rowKeys e (List.mem_filter.mp he).1
  bindings := h.bindings
  names := h.names
  bindingsFit := h.bindingsFit
  namesFit := h.namesFit

/-- A binding takes its place among those of its kind by its id. -/
theorem bind (h : Holds c s) {kind : String} (hplain : IsPlain kind) (id : UInt32)
    {scriptName : String} (hfits : FitsText scriptName) :
    Holds (c.change (.bind kind id scriptName)) (s.bind kind id scriptName) where
  rows := h.rows
  rowKeys := h.rowKeys
  bindings k := by
    show RecordTree.scan (s.bindingRecords.insert (bindingKey kind id) _) _ =
      (if k = kind then (c.bindings k).insert id scriptName else c.bindings k).entries.map _
    by_cases hk : k = kind
    · subst hk
      have hown : bindingStart k <+: bindingKey k id := List.prefix_append _ _
      rw [if_pos rfl, RecordTree.scan_insert_within hown, h.bindings k]
      exact insertEntry_map (fun i name => BindingRecord.toBytes ⟨bindingVersion, i, name⟩)
        scriptName fun e _ => compare_bindingKey k id e.1
    · have hother : ¬ bindingStart k <+: bindingKey kind id := fun hstarts =>
        (bindingStart_prefix_bindingKey.mp hstarts).elim hk (hplain.not_goesOn k)
      rw [if_neg hk, RecordTree.scan_insert_elsewhere hother]
      exact h.bindings k
  names := h.names
  bindingsFit k i name hget := by
    change (if k = kind then (c.bindings k).insert id scriptName else c.bindings k).get? i =
      some name at hget
    by_cases hk : k = kind
    · rw [if_pos hk, get?_insert] at hget
      split at hget
      · obtain rfl := Option.some.inj hget
        exact hfits
      · exact h.bindingsFit k i name hget
    · rw [if_neg hk] at hget
      exact h.bindingsFit k i name hget
  namesFit := h.namesFit

/-- A list of names takes its place among all by its owner. -/
theorem putNames (h : Holds c s) {owner : String} {names : List String} (howner : FitsText owner)
    (hnames : FitsTexts names) :
    Holds (c.change (.putNames owner names)) (s.putNames owner names) where
  rows := h.rows
  rowKeys := h.rowKeys
  bindings := h.bindings
  names := by
    show insertEntry (nameKey owner) _ s.nameRecords.entries = _
    rw [h.names]
    exact insertEntry_map
      (fun owner names => NameListRecord.toBytes ⟨nameListVersion, owner, names⟩)
      names fun e _ => compare_nameKey owner e.1
  bindingsFit := h.bindingsFit
  namesFit := forall_insert h.namesFit ⟨howner, hnames⟩

/-- Contents and records are changed alike. -/
theorem change (h : Holds c s) {ch : Change} (hsound : ch.IsSound)
    (hnext : (s.change ch).nextNumber ≤ 2 ^ 64) : Holds (c.change ch) (s.change ch) := by
  cases ch with
  | append table rows =>
    exact h.append hsound rows hnext
  | clear table => exact h.clear table
  | bind kind id scriptName => exact h.bind hsound.1 id hsound.2
  | putNames owner names => exact h.putNames hsound.1 hsound.2

theorem changes (h : Holds c s) {changes : List Change} (hsound : ∀ ch ∈ changes, ch.IsSound)
    (hnext : (changes.foldl Store.change s).nextNumber ≤ 2 ^ 64) :
    Holds (changes.foldl Contents.change c) (changes.foldl Store.change s) := by
  induction changes generalizing c s with
  | nil => exact h
  | cons ch rest ih =>
    have hfirst := h.change (hsound ch (List.mem_cons_self ..))
      (Nat.le_trans (nextNumber_le_changes _ rest) hnext)
    exact ih hfirst (fun ch' hch' => hsound ch' (List.mem_cons_of_mem ch hch')) hnext

end Holds

end Store

end RegionScript
