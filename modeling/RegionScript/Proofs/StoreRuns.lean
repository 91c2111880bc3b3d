import RegionScript.Proofs.Contents
import RegionScript.Proofs.Readings
import RegionScript.Seed

/-!
Whatever is done to a store, it answers what its contents say.

An operation is a sequence of changes, or it concerns the row numbers alone. Contents and records
are changed alike by each of them, and so by any number of them in a row; what a store that holds
some contents answers is then read off the contents, record by record.
-/

namespace RegionScript.Store

open Bytes OrderedMap

variable {ν : Type} [Numbering ν] {s : Store ν} {c : Contents}

/-! ### Operations -/

/-- What can be done to a store. -/
inductive Operation where
  | append (table : String) (rows : List Row)
  | replace (table : String) (rows : List Row)
  | clear (table : String)
  | bind (kind : String) (id : UInt32) (scriptName : String)
  | putNames (owner : String) (names : List String)
  | importSeed (seed : Seed) (replacing : Bool)
  | reopen
  /-- A row number is given, and no row is stored under it. -/
  | skip

/-- The changes that an import makes to one table. -/
def tableChanges (replacing : Bool) (t : String × List Row) : List Change :=
  if replacing then [.clear t.1, .append t.1 t.2] else [.append t.1 t.2]

/-- The changes that an operation makes, in their order. -/
def Operation.changes : Operation → List Change
  | .append table rows => [.append table rows]
  | .replace table rows => [.clear table, .append table rows]
  | .clear table => [.clear table]
  | .bind kind id scriptName => [.bind kind id scriptName]
  | .putNames owner names => [.putNames owner names]
  | .importSeed seed replacing =>
    seed.tables.entries.flatMap (tableChanges replacing) ++
      seed.areaTriggers.map (fun b => .bind areaTriggerKind b.id b.scriptName) ++
      seed.eventIds.map (fun b => .bind eventKind b.id b.scriptName) ++
      seed.scriptNames.entries.map fun e => .putNames e.1 e.2
  | .reopen | .skip => []

def Operation.IsSound (op : Operation) : Prop := ∀ ch ∈ op.changes, ch.IsSound

instance (op : Operation) : Decidable op.IsSound :=
  inferInstanceAs (Decidable (∀ ch ∈ op.changes, ch.IsSound))

def perform (s : Store ν) : Operation → Store ν
  | .append table rows => (s.append table rows).2
  | .replace table rows => (s.replace table rows).2
  | .clear table => (s.clear table).2
  | .bind kind id scriptName => s.bind kind id scriptName
  | .putNames owner names => s.putNames owner names
  | .importSeed seed replacing => (s.importSeed seed replacing).2
  | .reopen => s.reopen
  | .skip => s.takeNumber

/-! ### Imports -/

/-- How much of everything a seed holds. -/
def summaryOf (seed : Seed) : ImportSummary :=
  { tables := seed.tables.size
    rows := seed.rowCount
    bindings := seed.areaTriggers.length + seed.eventIds.length
    nameLists := seed.scriptNames.size }

theorem foldl_importTable (replacing : Bool) (tables : List (String × List Row))
    (a : ImportSummary × Store ν) :
    tables.foldl (importTable replacing) a =
      ({ a.1 with
          rows := a.1.rows + (tables.map (·.2)).flatten.length
          tables := a.1.tables + tables.length },
        (tables.flatMap (tableChanges replacing)).foldl change a.2) := by
  induction tables generalizing a with
  | nil => rfl
  | cons t rest ih =>
    have hone : importTable replacing a t =
        ({ a.1 with rows := a.1.rows + t.2.length, tables := a.1.tables + 1 },
          (tableChanges replacing t).foldl change a.2) := by
      cases replacing <;> rfl
    rw [List.foldl_cons, hone, ih, List.flatMap_cons, List.foldl_append]
    simp only [List.map_cons, List.flatten_cons, List.length_append, List.length_cons,
      Nat.add_assoc, Nat.add_comm 1]

theorem foldl_importBinding (kind : String) (bindings : List NamedScript)
    (a : ImportSummary × Store ν) :
    bindings.foldl (importBinding kind) a =
      ({ a.1 with bindings := a.1.bindings + bindings.length },
        (bindings.map fun b => Change.bind kind b.id b.scriptName).foldl change a.2) := by
  induction bindings generalizing a with
  | nil => rfl
  | cons b rest ih =>
    rw [List.foldl_cons, ih]
    simp only [importBinding, List.length_cons, Nat.add_assoc, Nat.add_comm 1, List.map_cons,
      List.foldl_cons, change]

theorem foldl_importNames (lists : List (String × List String)) (a : ImportSummary × Store ν) :
    lists.foldl importNames a =
      ({ a.1 with nameLists := a.1.nameLists + lists.length },
        (lists.map fun e => Change.putNames e.1 e.2).foldl change a.2) := by
  induction lists generalizing a with
  | nil => rfl
  | cons e rest ih =>
    rw [List.foldl_cons, ih]
    simp only [importNames, List.length_cons, Nat.add_assoc, Nat.add_comm 1, List.map_cons,
      List.foldl_cons, change]

/-- An import makes the changes of its seed, and tells how much the seed holds. -/
theorem importSeed_eq (s : Store ν) (seed : Seed) (replacing : Bool) :
    s.importSeed seed replacing =
      (summaryOf seed, (Operation.importSeed seed replacing).changes.foldl change s) := by
  rw [importSeed, foldl_importTable, foldl_importBinding, foldl_importBinding, foldl_importNames,
    Operation.changes, List.foldl_append, List.foldl_append, List.foldl_append]
  simp only [summaryOf, Seed.rowCount, OrderedMap.values, OrderedMap.size, Nat.zero_add]

/-! ### Runs -/

/-- The contents after an operation. Opening a store again or skipping a number leaves them. -/
def Operation.contents (op : Operation) (c : Contents) : Contents :=
  op.changes.foldl Contents.change c

/-- An operation makes its changes, opens the store again or skips a number. -/
theorem perform_cases (s : Store ν) (op : Operation) :
    s.perform op = op.changes.foldl change s ∨ op.changes = [] ∧
      (op = .reopen ∨ op = .skip) := by
  cases op with
  | importSeed seed replacing => exact .inl (congrArg Prod.snd (importSeed_eq s seed replacing))
  | append | replace | clear | bind | putNames => exact .inl rfl
  | reopen => exact .inr ⟨rfl, .inl rfl⟩
  | skip => exact .inr ⟨rfl, .inr rfl⟩

theorem nextNumber_le_perform (s : Store ν) (op : Operation) :
    s.nextNumber ≤ (s.perform op).nextNumber := by
  rcases perform_cases s op with hchanges | ⟨-, rfl | rfl⟩
  · rw [hchanges]
    exact s.nextNumber_le_changes op.changes
  · exact Numbering.next_le_reopened s.numbers
  · exact Nat.le_of_lt (Numbering.next_lt_given s.numbers)

theorem nextNumber_le_performAll (s : Store ν) (ops : List Operation) :
    s.nextNumber ≤ (ops.foldl perform s).nextNumber := by
  induction ops generalizing s with
  | nil => exact Nat.le_refl _
  | cons op rest ih => exact Nat.le_trans (s.nextNumber_le_perform op) (ih _)

namespace Holds

/-- Row numbers may go on further ahead. -/
theorem renumbered (h : Holds c s) {numbers : ν} (hnext : s.nextNumber ≤ Numbering.next numbers) :
    Holds c { s with numbers } where
  rows := h.rows
  rowKeys e he := by
    obtain ⟨table, n, hkey, hplain, hn⟩ := h.rowKeys e he
    exact ⟨table, n, hkey, hplain, Nat.lt_of_lt_of_le hn hnext⟩
  bindings := h.bindings
  names := h.names
  bindingsFit := h.bindingsFit
  namesFit := h.namesFit

theorem perform (h : Holds c s) {op : Operation} (hsound : op.IsSound)
    (hnext : (s.perform op).nextNumber ≤ 2 ^ 64) : Holds (op.contents c) (s.perform op) := by
  rcases perform_cases s op with hchanges | ⟨-, rfl | rfl⟩
  · rw [hchanges] at hnext ⊢
    exact h.changes hsound hnext
  · exact h.renumbered (Numbering.next_le_reopened s.numbers)
  · exact h.renumbered (Nat.le_of_lt (Numbering.next_lt_given s.numbers))

/-- What is done to a store, however often, is done to its contents. -/
theorem performAll (h : Holds c s) {ops : List Operation} (hsound : ∀ op ∈ ops, op.IsSound)
    (hnext : (ops.foldl Store.perform s).nextNumber ≤ 2 ^ 64) :
    Holds (ops.foldl (fun c op => op.contents c) c) (ops.foldl Store.perform s) := by
  induction ops generalizing c s with
  | nil => exact h
  | cons op rest ih =>
    -- numbers only rise, so the bound on the last one holds after every operation
    have hfirst := h.perform (hsound op (List.mem_cons_self ..))
      (Nat.le_trans (nextNumber_le_performAll _ rest) hnext)
    exact ih hfirst (fun o ho => hsound o (List.mem_cons_of_mem op ho)) hnext

end Holds

/-! ### Answers -/

theorem readRow_stamped (r : Row) : readRow r.stamped.toBytes = .ok r.stamped := by
  rw [readRow, Row.ofBytes?_toBytes]
  rfl

theorem readBinding_toBytes {id : UInt32} {scriptName : String} (h : FitsText scriptName) :
    readBinding (BindingRecord.toBytes ⟨bindingVersion, id, scriptName⟩) =
      .ok ⟨id, scriptName⟩ := by
  rw [readBinding, BindingRecord.ofBytes?_toBytes h]
  rfl

theorem readNames_toBytes {owner : String} {names : List String} (howner : FitsText owner)
    (hnames : FitsTexts names) :
    readNames (NameListRecord.toBytes ⟨nameListVersion, owner, names⟩) = .ok names := by
  rw [readNames, NameListRecord.ofBytes?_toBytes howner hnames]
  rfl

namespace Holds

theorem rows_eq (h : Holds c s) (table : String) :
    s.rows table = .ok ((c.rows table).map Row.stamped) := by
  have hscan : s.rows table =
      ((s.rowRecords.scan (tableStart table)).map (·.2)).mapM readRow := by
    rw [List.mapM_map]
    rfl
  rw [hscan, h.rows]
  exact mapM_map_eq_ok fun r _ => readRow_stamped r

theorem rowCount_eq (h : Holds c s) (table : String) :
    s.rowCount table = (c.rows table).length := by
  have hlength := congrArg List.length (h.rows table)
  rwa [List.length_map, List.length_map] at hlength

/-- Clearing a table tells how many rows it had. -/
theorem clear_eq (h : Holds c s) (table : String) : (s.clear table).1 = (c.rows table).length := by
  rw [← h.rowCount_eq table]
  exact List.length_map _

theorem size_clear (h : Holds c s) (table : String) :
    (s.clear table).2.rowRecords.size + (c.rows table).length = s.rowRecords.size := by
  -- every record either begins like the keys of the table, and is counted, or stays
  have hsize := List.length_eq_countP_add_countP
    (fun e : StoreKey × Bytes => (tableStart table).isPrefixOf e.1) (l := s.rowRecords.entries)
  have hcleared : (s.clear table).2.rowRecords.size =
      s.rowRecords.entries.countP fun e => !(tableStart table).isPrefixOf e.1 := by
    rw [rowRecords_clear]
    exact List.countP_eq_length_filter.symm
  have hcount : (c.rows table).length =
      s.rowRecords.entries.countP fun e => (tableStart table).isPrefixOf e.1 := by
    rw [← h.rowCount_eq, List.countP_eq_length_filter]
    rfl
  simp only [decide_not, Bool.decide_eq_true] at hsize
  rw [hcleared, hcount, OrderedMap.size, hsize, Nat.add_comm]

theorem bindings_eq (h : Holds c s) (kind : String) :
    s.bindings kind = .ok ((c.bindings kind).entries.map fun e => ⟨e.1, e.2⟩) := by
  rw [Store.bindings, h.bindings]
  refine mapM_map_eq_ok fun e he => ?_
  have hget := ((c.bindings kind).mem_entries_iff e.1 e.2).mp he
  exact readBinding_toBytes (h.bindingsFit kind e.1 e.2 hget)

theorem namesOf_eq (h : Holds c s) (owner : String) :
    s.namesOf owner =
      match c.names.get? owner with
      | some names => .ok names
      | none => .error (.notFound s!"script names: {owner}") := by
  have hget : s.nameRecords.get? (nameKey owner) = (c.names.get? owner).map fun names =>
      NameListRecord.toBytes ⟨nameListVersion, owner, names⟩ := by
    rw [OrderedMap.get?, h.names]
    exact findEntry_map_key
      (fun owner names => NameListRecord.toBytes ⟨nameListVersion, owner, names⟩)
      fun e _ => compare_nameKey owner e.1
  rw [Store.namesOf, hget]
  cases hnames : c.names.get? owner with
  | none => rfl
  | some names =>
    obtain ⟨howner, hfits⟩ := h.namesFit owner names hnames
    rw [Option.map_some]
    dsimp only
    rw [NameListRecord.ofBytes?_toBytes howner hfits]

theorem names_eq (h : Holds c s) : s.names = .ok c.names.values.flatten := by
  -- names have a tree of their own, where all keys begin with the mark
  have hall : s.nameRecords.scan nameMark = s.nameRecords.entries := by
    refine List.filter_eq_self.mpr fun e he => ?_
    rw [h.names] at he
    obtain ⟨e, -, rfl⟩ := List.mem_map.mp he
    exact List.isPrefixOf_iff_prefix.mpr (List.prefix_append _ _)
  have hread : s.nameRecords.entries.mapM (fun e => readNames e.2) = .ok c.names.values := by
    rw [h.names]
    refine mapM_map_eq_ok fun e he => ?_
    obtain ⟨howner, hfits⟩ := h.namesFit e.1 e.2 ((c.names.mem_entries_iff e.1 e.2).mp he)
    exact readNames_toBytes howner hfits
  rw [Store.names, hall, hread]
  rfl

end Holds

/-- What a store answers is what its contents say. -/
structure Answers (c : Contents) (s : Store ν) : Prop where
  rows : ∀ table, s.rows table = .ok ((c.rows table).map Row.stamped)
  rowCount : ∀ table, s.rowCount table = (c.rows table).length
  /-- Clearing a table tells how many rows it had, and removes as many records. -/
  cleared : ∀ table, (s.clear table).1 = (c.rows table).length ∧
    (s.clear table).2.rowRecords.size + (c.rows table).length = s.rowRecords.size
  /-- Storing rows tells how many are stored. -/
  stored : ∀ table rows,
    (s.append table rows).1 = rows.length ∧ (s.replace table rows).1 = rows.length
  /-- An import tells how much the seed holds. -/
  imported : ∀ seed replacing, (s.importSeed seed replacing).1 = summaryOf seed
  /-- The bindings of a kind are listed by ascending id. -/
  bindings : ∀ kind, s.bindings kind = .ok ((c.bindings kind).entries.map fun e => ⟨e.1, e.2⟩)
  namesOf : ∀ owner, s.namesOf owner =
    match c.names.get? owner with
    | some names => .ok names
    | none => .error (.notFound s!"script names: {owner}")
  names : s.names = .ok c.names.values.flatten

theorem Holds.answers (h : Holds c s) : Answers c s where
  rows := h.rows_eq
  rowCount := h.rowCount_eq
  cleared table := ⟨h.clear_eq table, h.size_clear table⟩
  stored _ _ := ⟨rfl, rfl⟩
  imported seed replacing := congrArg Prod.fst (importSeed_eq s seed replacing)
  bindings := h.bindings_eq
  namesOf := h.namesOf_eq
  names := h.names_eq

/-- The owners of lists of names are ordered by their bytes. -/
theorem keys_byteOrder (m : OrderedMap String (List String)) :
    m.keys.Pairwise fun a b => compare a.toUTF8.data.toList b.toUTF8.data.toList = .lt := by
  refine List.pairwise_map.mpr (m.ascending.imp fun {a b} hlt => ?_)
  rwa [compare_utf8]

/-- The store that a sequence of operations makes of an empty one. -/
def after (ν : Type) [Numbering ν] (ops : List Operation) : Store ν := ops.foldl perform ∅

/-- The contents that a sequence of operations tells of. -/
def contentsAfter (ops : List Operation) : Contents :=
  ops.foldl (fun c op => op.contents c) {}

/-- A store refines ordered lists and maps. Whatever is stored in an empty store, removed from it,
imported into it and however often it is opened again, it answers what its contents say: the rows of
a table are those stored in it since it was last cleared, in their order, and of ids and owners the
last value is kept, listed by ascending ids or by the bytes of the owners. -/
theorem answers_contents {ops : List Operation} (hsound : ∀ op ∈ ops, op.IsSound)
    (hnumbers : (after ν ops).nextNumber ≤ 2 ^ 64) :
    Answers (contentsAfter ops) (after ν ops) ∧
      (contentsAfter ops).names.keys.Pairwise fun a b =>
        compare a.toUTF8.data.toList b.toUTF8.data.toList = .lt := by
  have hempty : Holds {} (∅ : Store ν) := .of_isEmpty ⟨rfl, rfl, rfl⟩
  have hholds : Holds (contentsAfter ops) (after ν ops) := hempty.performAll hsound hnumbers
  exact ⟨hholds.answers, keys_byteOrder _⟩

/-- Rows stored before and after a store is opened again stay in their order, an import replaces
those of one table, and an id, or an owner, that comes twice keeps the last value. -/
theorem answers_contents_imported :
    let seed : Seed :=
      { tables := .ofList [("b", [Row.new 4 0 0])]
        eventIds := [⟨9, "e"⟩]
        scriptNames := .ofList [("quests", ["r"])] }
    let ops : List Operation :=
      [.append "a" [{ Row.new 1 0 0 with schemaVersion := 7 }], .append "b" [Row.new 2 0 0],
        .reopen, .append "a" [Row.new 3 0 0], .skip, .bind areaTriggerKind 700 "x",
        .bind areaTriggerKind 5 "y", .bind areaTriggerKind 700 "z", .putNames "quests" ["q"],
        .putNames "items" ["s", "t"], .importSeed seed true, .clear "c"]
    let s := after Blocks ops
    (∀ op ∈ ops, op.IsSound) ∧ s.nextNumber ≤ 2 ^ 64 ∧
      s.rows "a" = .ok [Row.new 1 0 0, Row.new 3 0 0] ∧ s.rows "b" = .ok [Row.new 4 0 0] ∧
      s.rowCount "a" = 2 ∧ (s.clear "a").1 = 2 ∧ (s.replace "a" [Row.new 6 0 0]).1 = 1 ∧
      (s.clear "a").2.rowRecords.size + 2 = s.rowRecords.size ∧
      s.bindings areaTriggerKind = .ok [⟨5, "y"⟩, ⟨700, "z"⟩] ∧
      s.bindings eventKind = .ok [⟨9, "e"⟩] ∧ s.namesOf "quests" = .ok ["r"] ∧
      s.names = .ok ["s", "t", "r"] := by
  intro seed ops s
  have hsound : ∀ op ∈ ops, op.IsSound := by decide +kernel
  have hnumbers : s.nextNumber ≤ 2 ^ 64 := by decide +kernel
  obtain ⟨h, -⟩ := answers_contents hsound hnumbers
  have hrows : (contentsAfter ops).rows "a" = [{ Row.new 1 0 0 with schemaVersion := 7 },
    Row.new 3 0 0] ∧ (contentsAfter ops).rows "b" = [Row.new 4 0 0] := by decide +kernel
  have hbindings : ((contentsAfter ops).bindings areaTriggerKind).entries = [(5, "y"), (700, "z")] ∧
      ((contentsAfter ops).bindings eventKind).entries = [(9, "e")] := by decide +kernel
  have hnames : (contentsAfter ops).names.get? "quests" = some ["r"] ∧
      (contentsAfter ops).names.values = [["s", "t"], ["r"]] := by decide +kernel
  refine ⟨hsound, hnumbers, ?_, ?_, ?_, ?_, (h.stored "a" _).2, ?_, ?_, ?_, ?_, ?_⟩
  · rw [h.rows, hrows.1]; rfl
  · rw [h.rows, hrows.2]; rfl
  · rw [h.rowCount, hrows.1]; rfl
  · rw [(h.cleared "a").1, hrows.1]; rfl
  · rw [← (h.cleared "a").2, hrows.1]; rfl
  · rw [h.bindings, hbindings.1]; rfl
  · rw [h.bindings, hbindings.2]; rfl
  · rw [h.namesOf, hnames.1]
  · rw [h.names, hnames.2]; rfl

end RegionScript.Store
