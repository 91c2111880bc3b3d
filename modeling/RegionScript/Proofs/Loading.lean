import RegionScript.Proofs.Scripts

/-!
Loading a table loses, duplicates and reorders nothing.

The rows are sorted one by one into accepted and rejected ones. Neither list depends on the rows
before, on the quests that these asked to be corrected, or on the name of the table: each is what
checking every row by itself gives, in the order of the rows. The accepted commands are then grouped
into scripts.
-/

namespace RegionScript.Loader

variable {l : Loader}

/-- The commands of the rows that are accepted, in the order of the rows. -/
def acceptedOf (l : Loader) (rows : List Row) : List Command :=
  rows.filterMap fun row => (l.check row).toOption

theorem mem_acceptedOf {rows : List Row} {c : Command} :
    c ∈ l.acceptedOf rows ↔ ∃ row ∈ rows, l.check row = .ok c := by
  refine List.mem_filterMap.trans (exists_congr fun row => and_congr_right fun _ => ?_)
  cases l.check row <;> simp [Except.toOption]

/-- What is noted about a row that is refused. -/
def refusal? (l : Loader) (row : Row) : Option RejectedRow :=
  match l.check row with
  | .ok _ => none
  | .error reason => some ⟨row.id, row.command, reason⟩

/-- The rows that are refused, in their order, with the reasons. -/
def refusalsOf (l : Loader) (rows : List Row) : List RejectedRow := rows.filterMap l.refusal?

/-- A row is either accepted or refused. -/
theorem length_acceptedOf_add (l : Loader) (rows : List Row) :
    (l.acceptedOf rows).length + (l.refusalsOf rows).length = rows.length := by
  induction rows with
  | nil => rfl
  | cons row rest ih =>
    rw [acceptedOf, refusalsOf, List.filterMap_cons, List.filterMap_cons, refusal?]
    cases l.check row with
    | ok c =>
      show (l.acceptedOf rest).length + 1 + (l.refusalsOf rest).length = rest.length + 1
      omega
    | error reason =>
      show (l.acceptedOf rest).length + ((l.refusalsOf rest).length + 1) = rest.length + 1
      omega

/-! ### Sorting rows -/

/-- What sorting rows adds to those sorted before. -/
structure Sorting.Grows (l : Loader) (rows : List Row) (s s' : Sorting) : Prop where
  accepted : s'.accepted = s.accepted ++ l.acceptedOf rows
  rejected : s'.rejected = s.rejected ++ l.refusalsOf rows
  corrections : s'.corrections = rows.foldl l.addCorrection s.corrections

theorem Sorting.add_grows (l : Loader) (table : String) (s : Sorting) (row : Row) :
    Grows l [row] s (s.add l table row) := by
  unfold add
  cases h : l.check row <;> constructor <;>
    simp [acceptedOf, refusalsOf, refusal?, h, Except.toOption]

theorem Sorting.foldl_grows (l : Loader) (table : String) (rows : List Row) (s : Sorting) :
    Grows l rows s (rows.foldl (Sorting.add l table) s) := by
  induction rows generalizing s with
  | nil => exact ⟨(List.append_nil _).symm, (List.append_nil _).symm, rfl⟩
  | cons row rest ih =>
    have hrow := add_grows l table s row
    have hrest := ih (s.add l table row)
    constructor
    · rw [List.foldl_cons, hrest.accepted, hrow.accepted, List.append_assoc]
      exact congrArg (s.accepted ++ ·) List.filterMap_append.symm
    · rw [List.foldl_cons, hrest.rejected, hrow.rejected, List.append_assoc]
      exact congrArg (s.rejected ++ ·) List.filterMap_append.symm
    · rw [List.foldl_cons, hrest.corrections, hrow.corrections]
      rfl

theorem sort_accepted (l : Loader) (table : String) (rows : List Row) :
    (l.sort table rows).accepted = l.acceptedOf rows :=
  (Sorting.foldl_grows l table rows {}).accepted

theorem sort_rejected (l : Loader) (table : String) (rows : List Row) :
    (l.sort table rows).rejected = l.refusalsOf rows :=
  (Sorting.foldl_grows l table rows {}).rejected

/-- Sorting rows collects what each of them asks for. -/
theorem sort_corrections (l : Loader) (table : String) (rows : List Row) :
    (l.sort table rows).corrections = .ofList (rows.filterMap l.correction?) := by
  have hfold : (l.sort table rows).corrections = rows.foldl l.addCorrection ∅ :=
    (Sorting.foldl_grows l table rows {}).corrections
  rw [hfold, OrderedSet.ofList, List.foldl_filterMap]
  refine congrArg (fun f => rows.foldl f ∅) (funext fun corrections => funext fun row => ?_)
  unfold addCorrection
  cases l.correction? row <;> rfl

/-! ### Loading a table -/

/-- The table and the report, from what checking each row by itself gives. -/
theorem loadRows_eq (l : Loader) (kind : TableKind) (name : String) (rows : List Row) :
    l.loadRows kind name rows =
      let table := ScriptTable.ofCommands kind name (l.acceptedOf rows)
      (table,
        { table := name, loaded := (l.acceptedOf rows).length, rejected := l.refusalsOf rows,
          corrections := .ofList (rows.filterMap l.correction?),
          unknownIds := l.unknownIds table }) := by
  simp only [loadRows, sort_accepted, sort_rejected, sort_corrections]

theorem loadRows_groups (l : Loader) (kind : TableKind) (name : String) (rows : List Row) :
    (l.loadRows kind name rows).1.Groups (l.acceptedOf rows) := by
  rw [loadRows_eq]
  exact ScriptTable.ofCommands_groups kind name _

/-- When the rows can be read, the table and the report account for each of them. Every row is
counted once, as loaded or as rejected; the rejected ones are those that the check refuses, in row
order and with its reason; and the table groups the commands of the others. Rows that are checked
after other rows are accepted and refused just as they are by themselves, whatever the tables are
called. -/
theorem loading_accounts_for_rows {source : RowSource} {name : String} {rows : List Row}
    (h : source.rows name = .ok rows) (l : Loader) (kind : TableKind) :
    (∃ table report, (l.loadTable source kind name).result = .ok (table, report) ∧
      table.kind = kind ∧ table.name = name ∧ report.table = name ∧
      report.loaded + report.rejected.length = rows.length ∧
      report.rejected = l.refusalsOf rows ∧ table.Groups (l.acceptedOf rows)) ∧
    ∀ first second third before after,
      (l.sort first (before ++ after)).accepted =
        (l.sort second before).accepted ++ (l.sort third after).accepted ∧
      (l.sort first (before ++ after)).rejected =
        (l.sort second before).rejected ++ (l.sort third after).rejected := by
  refine ⟨⟨(l.loadRows kind name rows).1, (l.loadRows kind name rows).2, ?result, ?kind, ?name, rfl,
    ?count, ?rejected, ?groups⟩, ?parts⟩
  case result => exact loadTable_eq_ok_iff.mpr ⟨rows, h, rfl⟩
  case kind => exact (ScriptTable.ofCommands_name kind name _).1
  case name => exact (ScriptTable.ofCommands_name kind name _).2
  case rejected => exact l.sort_rejected name rows
  case groups => exact l.loadRows_groups kind name rows
  case count =>
    rw [loadRows_eq]
    exact l.length_acceptedOf_add rows
  case parts =>
    intro first second third before after
    simp only [sort_accepted, sort_rejected]
    exact ⟨List.filterMap_append, List.filterMap_append⟩

/-- Of five rows the second is refused, as its emote is unknown. Of the others the last but one goes
to the front of its script, and two of equal delay stay in row order. -/
theorem loading_accounts_for_rows_greeting :
    let emote (id delay emote : UInt32) : Row := (Row.new id delay 1).withData emote 0
    let rows := [emote 1 5 3, emote 1 0 99, emote 2 0 4, emote 1 0 4, emote 1 5 4]
    let source : RowSource := ⟨fun _ => .ok rows, .ok [], .ok [], .ok []⟩
    let l : Loader := { catalog := { emotes := .ofList [3, 4] } }
    let loaded := l.loadRows .event "greeting" rows
    source.rows "greeting" = .ok rows ∧
      (l.loadTable source .event "greeting").result = .ok loaded ∧
      loaded.2.loaded = 4 ∧ loaded.2.rejected = [⟨1, 1, .unknownEmote 99⟩] ∧
      loaded.1.get? 1 =
        some [.plain 1 0 (.emote 4), .plain 1 5 (.emote 3), .plain 1 5 (.emote 4)] ∧
      loaded.1.get? 3 = none := by
  intro emote rows source l loaded
  have hread : source.rows "greeting" = .ok rows := rfl
  have hresult : (l.loadTable source .event "greeting").result = .ok loaded := rfl
  obtain ⟨⟨table, report, hloaded, -, -, -, hcount, hrejected, hgroups⟩, -⟩ :=
    loading_accounts_for_rows hread l .event
  obtain ⟨rfl, rfl⟩ : loaded.1 = table ∧ loaded.2 = report :=
    Prod.mk.inj (Except.ok.inj (hresult.symm.trans hloaded))
  have hrefusals : loaded.2.rejected = [⟨1, 1, .unknownEmote 99⟩] :=
    hrejected.trans (by decide +kernel)
  rw [hrefusals] at hcount
  exact ⟨hread, hresult, Nat.succ.inj hcount, hrefusals, by decide +kernel,
    (hgroups.absent 3).mpr (by decide +kernel)⟩

end RegionScript.Loader
