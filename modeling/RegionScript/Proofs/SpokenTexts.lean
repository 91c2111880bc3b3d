import Mathlib.Data.List.Basic
import RegionScript.Proofs.Entries
import RegionScript.Proofs.Scripts

/-!
Who says which text.

A text is said at a place: a slot that is set, of a step that is a talk, of a script of a table. The
places of a list of tables have an order, that of the tables, then of the script ids, the steps and
the slots. The cross-check reports every place that says a missing text, once and in this order, and
the texts of the options' range that are there and are said at no place. A build compares all nine
families at once.
-/

namespace RegionScript

/-! ### Places -/

/-- A slot of a step of a script of one of several tables. -/
structure TextPlace where
  table : Nat
  script : UInt32
  step : Nat
  slot : Nat

/-- Places go by table first, then by script, step and slot. -/
def TextPlace.Before (p q : TextPlace) : Prop :=
  p.table < q.table ∨ p.table = q.table ∧
    (p.script < q.script ∨ p.script = q.script ∧
      (p.step < q.step ∨ p.step = q.step ∧ p.slot < q.slot))

/-- A text that is said, with the place and the name of its table. -/
structure Utterance where
  place : TextPlace
  table : String
  text : Int32

namespace Utterance

/-- Something is said at its place: a talk has the text in that slot. -/
def IsIn (u : Utterance) (tables : List ScriptTable) : Prop :=
  ∃ t script c, tables[u.place.table]? = some t ∧ t.name = u.table ∧
    t.get? u.place.script = some script ∧ script[u.place.step]? = some c ∧
    c.kind = .talk ∧ c.texts[u.place.slot]? = some u.text ∧ u.text ≠ 0

/-- The note about a text that is said but not there. -/
def asMissing (u : Utterance) : MissingText := ⟨u.table, u.place.script, u.text⟩

end Utterance

/-- Some talk of a table says a text. -/
def ScriptTable.Says (t : ScriptTable) (text : Int32) : Prop :=
  ∃ id script c, t.get? id = some script ∧ c ∈ script ∧ c.kind = .talk ∧ text ∈ c.texts ∧ text ≠ 0

/-! ### All that is said, in order -/

section Lists

variable {α β : Type}

theorem flatMap_zipIdx (l : List α) (f : α → List β) :
    (l.zipIdx.flatMap fun x => f x.1) = l.flatMap f := by
  rw [← List.flatMap_map Prod.fst f, List.zipIdx_map_fst]

theorem flatMap_filter (l : List α) (p : α → Bool) (f : α → List β) :
    (l.filter p).flatMap f = l.flatMap fun a => if p a then f a else [] := by
  induction l with
  | nil => rfl
  | cons a rest ih =>
    rw [List.flatMap_cons, ← ih, List.filter_cons]
    split
    · rfl
    · rfl

theorem zipIdx_ascending (l : List α) : l.zipIdx.Pairwise fun x y => x.2 < y.2 := by
  refine List.pairwise_map.mp ?_
  rw [List.zipIdx_map_snd]
  exact List.pairwise_lt_range' 1

end Lists

/-- What a command says, by slots. -/
def Command.spokenSlots (c : Command) : List (Int32 × Nat) :=
  if c.kind = .talk then c.texts.toList.zipIdx.filter (·.1 ≠ 0) else []

theorem Command.mem_spokenSlots_iff {c : Command} {text : Int32} {slot : Nat} :
    (text, slot) ∈ c.spokenSlots ↔ c.kind = .talk ∧ c.texts[slot]? = some text ∧ text ≠ 0 := by
  unfold spokenSlots
  by_cases htalk : c.kind = .talk
  · simp [htalk, List.mem_zipIdx_iff_getElem?]
  · simp [htalk]

theorem Command.spokenSlots_ascending (c : Command) :
    c.spokenSlots.Pairwise fun x y => x.2 < y.2 := by
  unfold spokenSlots
  split
  · exact (zipIdx_ascending _).filter _
  · exact .nil

theorem Command.spokenSlots_texts (c : Command) :
    c.spokenSlots.map (·.1) = if c.kind = .talk then c.populatedTexts else [] := by
  unfold spokenSlots populatedTexts
  split
  · rw [← List.zipIdx_map_fst 0 c.texts.toList, List.filter_map, List.zipIdx_map_fst]
    rfl
  · rfl

/-- Everything that is said in a list of tables. -/
def utterances (tables : List ScriptTable) : List Utterance :=
  tables.zipIdx.flatMap fun t => t.1.scripts.entries.flatMap fun e => e.2.zipIdx.flatMap fun c =>
    c.1.spokenSlots.map fun x => ⟨⟨t.2, e.1, c.2, x.2⟩, t.1.name, x.1⟩

theorem mem_utterances_iff {tables : List ScriptTable} {u : Utterance} :
    u ∈ utterances tables ↔ u.IsIn tables := by
  simp only [utterances, List.mem_flatMap, List.mem_map, Prod.exists, List.mem_zipIdx_iff_getElem?,
    OrderedMap.mem_entries_iff, Command.mem_spokenSlots_iff]
  constructor
  · rintro ⟨t, i, ht, id, script, hscript, c, j, hc, text, slot, ⟨htalk, hslot, hset⟩, rfl⟩
    exact ⟨t, script, c, ht, rfl, hscript, hc, htalk, hslot, hset⟩
  · rintro ⟨t, script, c, ht, hname, hscript, hc, htalk, hslot, hset⟩
    refine ⟨t, _, ht, _, script, hscript, c, _, hc, _, _, ⟨htalk, hslot, hset⟩, ?_⟩
    rw [hname]

/-- It is listed in the order of the places, so that no place is listed twice. -/
theorem utterances_ascending (tables : List ScriptTable) :
    (utterances tables).Pairwise fun u v => u.place.Before v.place := by
  -- two places are told apart by the outermost number in which they differ
  refine List.pairwise_flatMap.mpr ⟨fun t _ => ?_, ?tables⟩
  · refine List.pairwise_flatMap.mpr ⟨fun e _ => ?_, ?scripts⟩
    · refine List.pairwise_flatMap.mpr ⟨fun c _ => ?_, ?steps⟩
      · refine List.pairwise_map.mpr (c.1.spokenSlots_ascending.imp fun hlt => ?_)
        exact .inr ⟨rfl, .inr ⟨rfl, .inr ⟨rfl, hlt⟩⟩⟩
      case steps =>
        refine (zipIdx_ascending e.2).imp fun hlt u hu v hv => ?_
        obtain ⟨x, -, rfl⟩ := List.mem_map.mp hu
        obtain ⟨y, -, rfl⟩ := List.mem_map.mp hv
        exact .inr ⟨rfl, .inr ⟨rfl, .inl hlt⟩⟩
    case scripts =>
      refine t.1.scripts.ascending.imp fun hlt u hu v hv => ?_
      obtain ⟨c, -, hu⟩ := List.mem_flatMap.mp hu
      obtain ⟨d, -, hv⟩ := List.mem_flatMap.mp hv
      obtain ⟨x, -, rfl⟩ := List.mem_map.mp hu
      obtain ⟨y, -, rfl⟩ := List.mem_map.mp hv
      exact .inr ⟨rfl, .inl (Std.compare_eq_lt.mp hlt)⟩
  case tables =>
    refine (zipIdx_ascending tables).imp fun hlt u hu v hv => ?_
    obtain ⟨e, -, hu⟩ := List.mem_flatMap.mp hu
    obtain ⟨f, -, hv⟩ := List.mem_flatMap.mp hv
    obtain ⟨c, -, hu⟩ := List.mem_flatMap.mp hu
    obtain ⟨d, -, hv⟩ := List.mem_flatMap.mp hv
    obtain ⟨x, -, rfl⟩ := List.mem_map.mp hu
    obtain ⟨y, -, rfl⟩ := List.mem_map.mp hv
    exact .inl hlt

/-- What a script says, noted without the steps and slots. -/
theorem Script.spoken_notes (script : Script) {β : Type} (note : Int32 → β) :
    (script.zipIdx.flatMap fun c => c.1.spokenSlots.map fun x => note x.1) =
      (script.filter (·.kind = .talk)).flatMap fun c => c.populatedTexts.map note := by
  rw [flatMap_zipIdx script fun c => c.spokenSlots.map fun x => note x.1, flatMap_filter]
  refine List.flatMap_congr fun c _ => ?_
  have hslots := congrArg (List.map note) c.spokenSlots_texts
  rw [List.map_map] at hslots
  rw [show (c.spokenSlots.map fun x => note x.1) = _ from hslots]
  by_cases htalk : c.kind = .talk
  · simp [htalk]
  · simp [htalk]

/-- Noted without the steps and slots, it is what the tables list as spoken. -/
theorem utterances_asMissing (tables : List ScriptTable) :
    (utterances tables).map Utterance.asMissing =
      tables.flatMap fun t => t.spokenTexts.map fun x => ⟨t.name, x.1, x.2⟩ := by
  rw [← flatMap_zipIdx tables, utterances, List.map_flatMap]
  refine List.flatMap_congr fun t _ => ?_
  rw [ScriptTable.spokenTexts, List.map_flatMap, List.map_flatMap]
  refine List.flatMap_congr fun e _ => ?_
  simp only [List.map_flatMap, List.map_map]
  exact Script.spoken_notes e.2 fun text => (⟨t.1.name, e.1, text⟩ : MissingText)

theorem exists_says_iff {tables : List ScriptTable} {text : Int32} :
    (∃ t ∈ tables, t.Says text) ↔ text ∈ (utterances tables).map (·.text) := by
  constructor
  · rintro ⟨t, ht, id, script, c, hscript, hc, htalk, htext, hset⟩
    obtain ⟨i, hi⟩ := List.mem_iff_getElem?.mp ht
    obtain ⟨j, hj⟩ := List.mem_iff_getElem?.mp hc
    obtain ⟨k, hk⟩ := Vector.mem_iff_getElem?.mp htext
    have hin : Utterance.IsIn ⟨⟨i, id, j, k⟩, t.name, text⟩ tables :=
      ⟨t, script, c, hi, rfl, hscript, hj, htalk, hk, hset⟩
    exact List.mem_map.mpr ⟨_, mem_utterances_iff.mpr hin, rfl⟩
  · intro h
    obtain ⟨u, hu, rfl⟩ := List.mem_map.mp h
    obtain ⟨t, script, c, ht, -, hscript, hc, htalk, hslot, hset⟩ := mem_utterances_iff.mp hu
    exact ⟨t, List.mem_of_getElem? ht, _, script, c, hscript, List.mem_of_getElem? hc, htalk,
      Vector.mem_of_getElem? hslot, hset⟩

/-! ### The report -/

/-- A report tells exactly what is said in a list of tables but not there, place by place and in
order, and ascending the texts in range that are there but not said. -/
structure TextReport.IsExact (report : TextReport) (l : Loader) (tables : List ScriptTable) :
    Prop where
  missing : ∃ found : List Utterance, (found.Pairwise fun u v => u.place.Before v.place) ∧
    (∀ u, u ∈ found ↔ u.IsIn tables ∧ l.catalog.texts.get? u.text = none) ∧
    report.missing = found.map Utterance.asMissing
  ascending : report.unused.Pairwise (· < ·)
  unused : ∀ text, text ∈ report.unused ↔ (∃ x ∈ l.catalog.texts.values, x.id = text) ∧
    l.options.minText ≤ text ∧ text < l.options.maxText ∧ ∀ t ∈ tables, ¬ t.Says text

namespace Loader

theorem textReport_missing (l : Loader) (tables : List ScriptTable) :
    (l.textReport tables).missing =
      ((utterances tables).filter fun u => !l.catalog.texts.contains u.text).map
        Utterance.asMissing := by
  have hfilter := List.filter_map (f := Utterance.asMissing)
    (p := fun m => !l.catalog.texts.contains m.text) (l := utterances tables)
  refine Eq.trans ?_ hfilter
  rw [utterances_asMissing, List.filter_flatMap]
  refine List.flatMap_congr fun t _ => ?_
  rw [List.filter_map]
  rfl

theorem mem_availableTexts_iff (l : Loader) (text : Int32) : text ∈ l.availableTexts.toList ↔
    (∃ x ∈ l.catalog.texts.values, x.id = text) ∧
      l.options.minText ≤ text ∧ text < l.options.maxText := by
  rw [availableTexts, OrderedSet.mem_toList_iff, OrderedSet.contains_ofList_iff, List.mem_filter,
    List.mem_map]
  simp [LoaderOptions.admits]

theorem textReport_isExact (l : Loader) (tables : List ScriptTable) :
    (l.textReport tables).IsExact l tables where
  missing := by
    refine ⟨_, (utterances_ascending tables).filter _, fun u => ?_, l.textReport_missing tables⟩
    rw [List.mem_filter, mem_utterances_iff]
    simp [OrderedMap.contains]
  ascending := l.availableTexts.keys_ascending.filter _
  unused text := by
    have hspoken : text ∈ (tables.flatMap fun t => t.spokenTexts.map (·.2)) ↔
        ∃ t ∈ tables, t.Says text := by
      have htexts := congrArg (List.map MissingText.text) (utterances_asMissing tables)
      simp only [List.map_flatMap, List.map_map] at htexts
      rw [exists_says_iff]
      exact (iff_of_eq (congrArg (text ∈ ·) htexts)).symm
    have hunused : text ∈ (l.textReport tables).unused ↔ text ∈ l.availableTexts.toList ∧
        text ∉ (tables.flatMap fun t => t.spokenTexts.map (·.2)) := by
      have hcontains := OrderedSet.contains_ofList_iff
        (tables.flatMap fun t => t.spokenTexts.map (·.2)) text
      rw [← hcontains, Bool.not_eq_true, ← Bool.not_eq_true']
      exact List.mem_filter
    rw [hunused, mem_availableTexts_iff, hspoken]
    simp [and_assoc]

end Loader

/-! ### Builds -/

namespace Registry

variable {source : RowSource} {options : RegistryOptions}

theorem kinds_of_loadTables {l : Loader} : ∀ {kinds : List TableKind}
    {loaded : List (ScriptTable × LoadReport)},
    (loadTables l source options kinds).result = .ok loaded → loaded.map (·.1.kind) = kinds
  | [], loaded, h => by
    obtain rfl : [] = loaded := Except.ok.inj h
    rfl
  | kind :: rest, loaded, h => by
    obtain ⟨one, hone, h⟩ := Logged.result_bind_eq_ok.mp h
    obtain ⟨more, hmore, h⟩ := Logged.result_bind_eq_ok.mp h
    obtain rfl := Except.ok.inj h
    obtain ⟨rows, -, rfl⟩ := Loader.loadTable_eq_ok_iff.mp hone
    rw [List.map_cons, kinds_of_loadTables hmore]
    exact congrArg (· :: rest) (ScriptTable.ofCommands_name ..).1

/-- A build has one table of each family. -/
theorem keys_of_build {catalog : Catalog} {built : Registry × RegistryReport}
    (h : (build source catalog options).result = .ok built) :
    built.1.tables.keys = TableKind.all := by
  obtain ⟨loaded, triggers, events, names, hloaded, -, -, -, rfl⟩ := build_eq_ok_iff.mp h
  have hkinds := kinds_of_loadTables hloaded
  have hasc : (loaded.map fun x => (x.1.kind, x.1)).Pairwise fun a b =>
      compare a.1 b.1 = .lt := by
    have hall : TableKind.all.Pairwise fun a b => compare a b = .lt := by decide
    rw [← hkinds] at hall
    exact List.pairwise_map.mpr (List.pairwise_map.mp hall)
  have hmap := OrderedMap.ofList_entries ⟨loaded.map fun x => (x.1.kind, x.1), hasc⟩
  refine Eq.trans (congrArg OrderedMap.keys hmap) ?_
  exact (List.map_map ..).trans hkinds

end Registry

namespace Loader

/-- The cross-check of the texts is exact for any tables, texts and range, and a build checks its
nine tables together: what is said in one of them is not reported as unused. -/
theorem text_check_exact (l : Loader) :
    (∀ tables, (l.textReport tables).IsExact l tables) ∧
      ∀ (source : RowSource) (tableNames : OrderedMap TableKind String)
        (built : Registry × RegistryReport),
        (Registry.build source l.catalog ⟨l.options, tableNames⟩).result = .ok built →
          built.1.tables.keys = TableKind.all ∧
          built.2.texts.IsExact l built.1.tables.values ∧
          ∀ kind t text, built.1.table? kind = some t → t.Says text →
            text ∉ built.2.texts.unused := by
  refine ⟨l.textReport_isExact, fun source tableNames built h => ?_⟩
  have hexact : built.2.texts.IsExact l built.1.tables.values := by
    obtain ⟨loaded, triggers, events, names, -, -, -, -, rfl⟩ := Registry.build_eq_ok_iff.mp h
    exact l.textReport_isExact _
  refine ⟨Registry.keys_of_build h, hexact, fun kind t text ht hsays hunused => ?_⟩
  obtain ⟨-, -, -, hnone⟩ := (hexact.unused text).mp hunused
  exact hnone t ((OrderedMap.mem_values_iff ..).mpr ⟨kind, ht⟩) hsays

/-- The first and the second text in range, one far behind them, and one out of range. -/
def rumours : Loader where
  catalog :=
    { texts := .ofList ([2000000001, 2000000002, 2000000003, 5].map fun id => (id, ⟨id, "", .say⟩))
      emotes := .ofList [10, 2000000002] }

/-- Two tables say the same text that is not there, and each another one that is. The emote has its
alternatives in the slots for texts and says none of them, so that the second text is unused. -/
theorem text_check_exact_rumours :
    let rows (table : String) : List Row :=
      if table = "dbscripts_on_gossip" then
        [(Row.new 7 0 0).withTexts #v[2000000001, 0, 2000000077, 0]]
      else if table = "dbscripts_on_creature_movement" then
        [(Row.new 2 0 1).withData 10 0 |>.withTexts #v[2000000002, 0, 0, 0],
          (Row.new 2 3 0).withTexts #v[2000000003, 2000000077, 0, 0]]
      else []
    let source : RowSource := ⟨fun table => .ok (rows table), .ok [], .ok [], .ok []⟩
    ∃ registry report,
      (Registry.build source rumours.catalog {}).result = .ok (registry, report) ∧
        report.rejectedRows = 0 ∧
        report.texts.missing = [⟨"dbscripts_on_gossip", 7, 2000000077⟩,
          ⟨"dbscripts_on_creature_movement", 2, 2000000077⟩] ∧
        report.texts.unused = [2000000002] ∧
        registry.tables.keys = TableKind.all ∧
        ∀ t ∈ registry.tables.values, ¬ t.Says 2000000002 := by
  intro rows source
  refine ⟨_, _, rfl, by decide +kernel, by decide +kernel, by decide +kernel, ?_⟩
  obtain ⟨-, hbuild⟩ := text_check_exact rumours
  obtain ⟨hkeys, hexact, -⟩ := hbuild source ∅ _ rfl
  exact ⟨hkeys, ((hexact.unused 2000000002).mp (by decide +kernel)).2.2.2⟩

end Loader

end RegionScript
