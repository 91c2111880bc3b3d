import RegionScript.Proofs.Corrections
import RegionScript.Registry

/-!
Building again after the corrections were applied.

Corrections change nothing but flags of quests, and flags decide only what is asked to be corrected:
what is accepted, which ids are known, the texts and the names are the same for two catalogs that
differ in flags of quests alone. So a build over the corrected catalog gives the registry of the
first one, and a report that asks for nothing.
-/

namespace RegionScript

namespace Catalog

/-- The catalogs have the same quests and agree on everything that is not about quests. -/
def SameButQuests (c c' : Catalog) : Prop :=
  ∃ quests, c' = { c with quests } ∧ ∀ id, quests.contains id = c.quests.contains id

theorem SameButQuests.refl (c : Catalog) : c.SameButQuests c := ⟨c.quests, rfl, fun _ => rfl⟩

theorem SameButQuests.trans {c c' c'' : Catalog} (h : c.SameButQuests c')
    (h' : c'.SameButQuests c'') : c.SameButQuests c'' := by
  obtain ⟨quests, rfl, hquests⟩ := h
  obtain ⟨quests', rfl, hquests'⟩ := h'
  exact ⟨quests', rfl, fun id => (hquests' id).trans (hquests id)⟩

/-! ### Marking quests -/

theorem markExploration_sameButQuests (c : Catalog) (quest : UInt32) :
    c.SameButQuests (c.markExploration quest) :=
  ⟨_, rfl, fun id => OrderedMap.contains_modify c.quests id quest _⟩

theorem or_and_self_right (a b : UInt32) : (a ||| b) &&& b = b := by
  apply UInt32.toBitVec_inj.mp
  ext i
  simpa using Or.inr

/-- A quest that was marked has the flag, and no other quest is touched. -/
theorem lacksExploration_markExploration (c : Catalog) (quest id : UInt32) :
    (c.markExploration quest).lacksExploration id =
      (c.lacksExploration id && decide (id ≠ quest)) := by
  unfold lacksExploration markExploration
  rw [OrderedMap.get?_modify]
  by_cases h : id = quest
  · subst h
    cases c.quests.get? id with
    | none => simp
    | some q => simp [QuestTemplate.hasFlag, or_and_self_right, explorationFlag]
  · simp [h]

/-- One more quest is marked and counted, unless it has the flag or is not there. -/
def correctNext (x : Nat × Catalog) (quest : UInt32) : Nat × Catalog :=
  if x.2.lacksExploration quest then (x.1 + 1, x.2.markExploration quest) else x

theorem correct_eq_foldl (c : Catalog) (quests : List UInt32) :
    c.correct quests = quests.foldl correctNext (0, c) :=
  rfl

theorem correctNext_sameButQuests (x : Nat × Catalog) (quest : UInt32) :
    x.2.SameButQuests (correctNext x quest).2 := by
  unfold correctNext
  split
  · exact x.2.markExploration_sameButQuests quest
  · exact .refl x.2

theorem lacksExploration_correctNext (x : Nat × Catalog) (quest id : UInt32) :
    (correctNext x quest).2.lacksExploration id =
      (x.2.lacksExploration id && decide (id ≠ quest)) := by
  unfold correctNext
  split
  · exact x.2.lacksExploration_markExploration quest id
  · next h =>
    by_cases hid : id = quest
    · simpa [hid] using h
    · simp [hid]

theorem correct_sameButQuests (c : Catalog) (quests : List UInt32) :
    c.SameButQuests (c.correct quests).2 := by
  suffices h : ∀ x : Nat × Catalog, x.2.SameButQuests (quests.foldl correctNext x).2 from h (0, c)
  induction quests with
  | nil => exact fun x => .refl x.2
  | cons quest rest ih => exact fun x => (correctNext_sameButQuests x quest).trans (ih _)

/-- After a correction just those quests lack the flag that lacked it before and were not named. -/
theorem lacksExploration_correct (c : Catalog) (quests : List UInt32) (id : UInt32) :
    (c.correct quests).2.lacksExploration id = (c.lacksExploration id && decide (id ∉ quests)) := by
  suffices h : ∀ x : Nat × Catalog, (quests.foldl correctNext x).2.lacksExploration id =
      (x.2.lacksExploration id && decide (id ∉ quests)) from h (0, c)
  induction quests with
  | nil => intro x; simp
  | cons quest rest ih =>
    intro x
    rw [List.foldl_cons, ih, lacksExploration_correctNext, Bool.and_assoc]
    simp [List.mem_cons, not_or]

/-- Quests that are named once each and all lack the flag are all counted. -/
theorem correct_count (c : Catalog) {quests : List UInt32} (hdistinct : quests.Nodup)
    (hlack : ∀ id ∈ quests, c.lacksExploration id = true) :
    (c.correct quests).1 = quests.length := by
  suffices h : ∀ x : Nat × Catalog, (∀ id ∈ quests, x.2.lacksExploration id = true) →
      (quests.foldl correctNext x).1 = x.1 + quests.length by
    exact (h (0, c) hlack).trans (Nat.zero_add _)
  clear hlack
  induction quests with
  | nil => intro x _; rfl
  | cons quest rest ih =>
    intro x hlack
    obtain ⟨hnew, hrest⟩ := List.nodup_cons.mp hdistinct
    have hnext : ∀ id ∈ rest, (correctNext x quest).2.lacksExploration id = true := by
      intro id hid
      have hne : id ≠ quest := fun h => hnew (h ▸ hid)
      rw [lacksExploration_correctNext, hlack id (List.mem_cons_of_mem _ hid)]
      simp [hne]
    have hfirst : (correctNext x quest).1 = x.1 + 1 := by
      rw [correctNext, if_pos (hlack quest (List.mem_cons_self ..))]
    rw [List.foldl_cons, ih hrest _ hnext, hfirst, List.length_cons]
    omega

/-- Quests that have the flag, or are not there, are passed over. -/
theorem correct_of_none_lacks (c : Catalog) {quests : List UInt32}
    (h : ∀ id ∈ quests, c.lacksExploration id = false) : c.correct quests = (0, c) := by
  rw [correct_eq_foldl]
  induction quests with
  | nil => rfl
  | cons quest rest ih =>
    have hfirst : correctNext (0, c) quest = (0, c) :=
      if_neg (by simp [h quest (List.mem_cons_self ..)])
    rw [List.foldl_cons, hfirst]
    exact ih fun id hid => h id (List.mem_cons_of_mem _ hid)

end Catalog

/-! ### Checks over two catalogs -/

namespace Loader

variable {c c' : Catalog} {o : LoaderOptions}

theorem fault_sameButQuests (h : c.SameButQuests c') (command : Command) :
    (Loader.mk c' o).fault command = (Loader.mk c o).fault command := by
  obtain ⟨quests, rfl, hquests⟩ := h
  have hpayload : (Loader.mk { c with quests } o).payloadFault command =
      (Loader.mk c o).payloadFault command := by
    unfold payloadFault
    cases command.payload with
    | questExplored quest distance => simp only [hquests]
    | terminateCondition condition quest => simp only [hquests]
    | _ => rfl
  unfold fault
  rw [hpayload]
  rfl

theorem check_sameButQuests (h : c.SameButQuests c') (row : Row) :
    (Loader.mk c' o).check row = (Loader.mk c o).check row := by
  unfold check
  simp only [fault_sameButQuests h]

theorem unknownIds_sameButQuests (h : c.SameButQuests c') (t : ScriptTable) :
    (Loader.mk c' o).unknownIds t = (Loader.mk c o).unknownIds t := by
  have hknown : ∀ id,
      (Loader.mk c' o).isKnownId t.kind id = (Loader.mk c o).isKnownId t.kind id := by
    obtain ⟨quests, rfl, hquests⟩ := h
    intro id
    unfold isKnownId
    cases t.kind with
    | questStart => exact hquests id
    | questEnd => exact hquests id
    | _ => rfl
  unfold unknownIds
  simp only [hknown]

theorem correction_sameButQuests (h : c.SameButQuests c') {row : Row} {quest : UInt32}
    (hrow : (Loader.mk c' o).correction? row = some quest) :
    c'.lacksExploration quest = true ∧
      (c.lacksExploration quest = true → (Loader.mk c o).correction? row = some quest) := by
  obtain ⟨hlacks, hasks⟩ := correction_eq_some_iff.mp hrow
  refine ⟨hlacks, fun hlacked => correction_eq_some_iff.mpr ⟨hlacked, ?_⟩⟩
  simpa only [RefusesForDistance, check_sameButQuests h] using hasks

end Loader

/-- The report of a table whose quests have been corrected. -/
def LoadReport.settled (r : LoadReport) : LoadReport := { r with corrections := ∅ }

/-- The report of a build whose quests have been corrected. -/
def RegistryReport.settled (r : RegistryReport) : RegistryReport :=
  { r with tables := r.tables.map LoadReport.settled }

namespace Loader

variable {c c' : Catalog} {o : LoaderOptions}

/-- Over a catalog where nothing that was asked for is left to be asked for, the same rows give the
same table and the same report without corrections. -/
theorem loadRows_settled (h : c.SameButQuests c')
    (hless : ∀ id, c'.lacksExploration id = true → c.lacksExploration id = true)
    (kind : TableKind) (name : String) (rows : List Row)
    (hdone : ∀ id, ((Loader.mk c o).loadRows kind name rows).2.corrections.contains id = true →
      c'.lacksExploration id = false) :
    (Loader.mk c' o).loadRows kind name rows =
      (((Loader.mk c o).loadRows kind name rows).1,
        ((Loader.mk c o).loadRows kind name rows).2.settled) := by
  have haccepted : (Loader.mk c' o).acceptedOf rows = (Loader.mk c o).acceptedOf rows := by
    unfold acceptedOf
    simp only [check_sameButQuests h]
  have hrejected : (Loader.mk c' o).refusalsOf rows = (Loader.mk c o).refusalsOf rows := by
    have hrefusal : (Loader.mk c' o).refusal? = (Loader.mk c o).refusal? := funext fun row => by
      unfold refusal?
      rw [check_sameButQuests h]
    rw [refusalsOf, refusalsOf, hrefusal]
  have hnone : rows.filterMap (Loader.mk c' o).correction? = [] := by
    refine List.filterMap_eq_nil_iff.mpr fun row hrow => Option.eq_none_iff_forall_ne_some.mpr ?_
    intro quest hquest
    -- what a row still asks for it asked for before, so it was reported and has been corrected
    obtain ⟨hlacks, hasks⟩ := correction_sameButQuests h hquest
    have hreported := (contains_corrections_iff _ kind name rows quest).mpr
      ⟨row, hrow, hasks (hless quest hlacks)⟩
    rw [hdone quest hreported] at hlacks
    cases hlacks
  rw [loadRows_eq, loadRows_eq, haccepted, hrejected, hnone]
  simp only [unknownIds_sameButQuests h]
  rfl

end Loader

namespace Registry

open Loader

variable {c c' : Catalog} {source : RowSource} {options : RegistryOptions}

/-- All tables come out the same when what they asked for has been corrected. -/
theorem loadTables_settled (h : c.SameButQuests c')
    (hless : ∀ id, c'.lacksExploration id = true → c.lacksExploration id = true) :
    ∀ {kinds : List TableKind} {loaded : List (ScriptTable × LoadReport)},
      (loadTables ⟨c, options.loader⟩ source options kinds).result = .ok loaded →
      (∀ x ∈ loaded, ∀ id, x.2.corrections.contains id = true → c'.lacksExploration id = false) →
      (loadTables ⟨c', options.loader⟩ source options kinds).result =
        .ok (loaded.map fun x => (x.1, x.2.settled))
  | [], loaded, hloaded, _ => by
    obtain rfl : [] = loaded := Except.ok.inj hloaded
    rfl
  | kind :: rest, loaded, hloaded, hdone => by
    obtain ⟨one, hone, hloaded⟩ := Logged.result_bind_eq_ok.mp hloaded
    obtain ⟨more, hmore, hloaded⟩ := Logged.result_bind_eq_ok.mp hloaded
    obtain rfl := Except.ok.inj hloaded
    obtain ⟨rows, hrows, rfl⟩ := loadTable_eq_ok_iff.mp hone
    have hfirst := loadRows_settled h hless kind _ rows (hdone _ (List.mem_cons_self ..))
    have hmore' := loadTables_settled h hless hmore fun x hx => hdone x (List.mem_cons_of_mem _ hx)
    exact Logged.result_bind_eq_ok.mpr ⟨_, loadTable_eq_ok_iff.mpr ⟨rows, hrows, hfirst.symm⟩,
      Logged.result_bind_eq_ok.mpr ⟨_, hmore', rfl⟩⟩

/-- Over a catalog that differs in quests alone, the same tables make up the same registry. -/
theorem assemble_settled (h : c.SameButQuests c') (options : RegistryOptions)
    (loaded : List (ScriptTable × LoadReport)) (triggers events : List NamedScript)
    (names : List String) :
    assemble c' options (loaded.map fun x => (x.1, x.2.settled)) triggers events names =
      ((assemble c options loaded triggers events names).1,
        (assemble c options loaded triggers events names).2.settled) := by
  obtain ⟨quests, rfl, -⟩ := h
  unfold assemble RegistryReport.settled
  simp only [List.map_map]
  rfl

/-- The quests of a report are those that its tables ask for. -/
theorem contains_corrections_iff {report : RegistryReport}
    {loaded : List (ScriptTable × LoadReport)} (h : report.tables = loaded.map (·.2))
    (quest : UInt32) : report.corrections.contains quest = true ↔
      ∃ x ∈ loaded, x.2.corrections.contains quest = true := by
  rw [RegistryReport.corrections, OrderedSet.contains_ofList_iff, h, List.flatMap_map,
    List.mem_flatMap]
  simp only [OrderedSet.mem_toList_iff]

/-- Loading a table asks for no quest that has the flag. -/
theorem lacksExploration_of_loaded {loaded : List (ScriptTable × LoadReport)}
    {kinds : List TableKind}
    (h : (loadTables ⟨c, options.loader⟩ source options kinds).result = .ok loaded)
    {x : ScriptTable × LoadReport} (hx : x ∈ loaded) {quest : UInt32}
    (hquest : x.2.corrections.contains quest = true) : c.lacksExploration quest = true := by
  obtain ⟨kind, name, rows, rfl⟩ := mem_loadTables h x hx
  obtain ⟨row, -, hrow⟩ := (Loader.contains_corrections_iff ..).mp hquest
  exact (correction_eq_some_iff.mp hrow).1

end Registry

/-- A build tells its corrections completely. Each quest that it reports is there and lacks the
flag, so that applying the corrections changes as many quests as are reported. Another build, over
the corrected catalog, gives the same registry and the same report but for the corrections, of which
there are none any more; and applying the corrections again changes nothing. -/
theorem corrections_are_complete {source : RowSource} {catalog : Catalog}
    {options : RegistryOptions} {registry : Registry} {report : RegistryReport}
    (h : (Registry.build source catalog options).result = .ok (registry, report)) :
    let quests := report.corrections.toList
    let corrected := (catalog.correct quests).2
    (catalog.correct quests).1 = report.corrections.size ∧
      (Registry.build source corrected options).result = .ok (registry, report.settled) ∧
      corrected.correct quests = (0, corrected) := by
  intro quests corrected
  obtain ⟨loaded, triggers, events, names, hloaded, htriggers, hevents, hnames, hbuilt⟩ :=
    Registry.build_eq_ok_iff.mp h
  have hquests : ∀ id, id ∈ quests ↔ ∃ x ∈ loaded, x.2.corrections.contains id = true := fun id =>
    (OrderedSet.mem_toList_iff ..).trans
      (Registry.contains_corrections_iff (congrArg (·.2.tables) hbuilt) id)
  have hlacked : ∀ id ∈ quests, catalog.lacksExploration id = true := by
    intro id hid
    obtain ⟨x, hx, hasked⟩ := (hquests id).mp hid
    exact Registry.lacksExploration_of_loaded hloaded hx hasked
  have hsame : catalog.SameButQuests corrected := catalog.correct_sameButQuests quests
  have hlacks : ∀ id, corrected.lacksExploration id =
      (catalog.lacksExploration id && decide (id ∉ quests)) :=
    catalog.lacksExploration_correct quests
  have hless : ∀ id, corrected.lacksExploration id = true → catalog.lacksExploration id = true :=
    fun id hid => (Bool.and_eq_true_iff.mp ((hlacks id).symm.trans hid)).1
  have hdone : ∀ id ∈ quests, corrected.lacksExploration id = false := by
    intro id hid
    rw [hlacks]
    simp [hid]
  refine ⟨?count, ?build, corrected.correct_of_none_lacks hdone⟩
  case count =>
    exact (catalog.correct_count (OrderedMap.nodup_keys _) hlacked).trans (List.length_map ..)
  case build =>
    have hloaded' := Registry.loadTables_settled hsame hless hloaded
      fun x hx id hasked => hdone id ((hquests id).mpr ⟨x, hx, hasked⟩)
    have hbuilt' := Registry.assemble_settled hsame options loaded triggers events names
    rw [← hbuilt] at hbuilt'
    exact Registry.build_eq_ok_iff.mpr
      ⟨_, triggers, events, names, hloaded', htriggers, hevents, hnames, hbuilt'.symm⟩

/-- Two families explore the seventh quest, which is reported once, and none the eighth, which goes
on without the flag. The rows about a ninth quest are rejected by both builds. -/
theorem corrections_are_complete_scouting :
    let rows (table : String) : List Row :=
      if table = "dbscripts_on_event" ∨ table = "dbscripts_on_spell" then
        [exploring 7 10, exploring 9 10]
      else []
    let source : RowSource := ⟨fun table => .ok (rows table), .ok [], .ok [], .ok []⟩
    let corrected := (scouting.catalog.correct [7]).2
    ∃ registry report,
      (Registry.build source scouting.catalog {}).result = .ok (registry, report) ∧
        report.corrections.toList = [7] ∧ report.rejectedRows = 2 ∧
        corrected.lacksExploration 8 = true ∧
        (scouting.catalog.correct [7]).1 = 1 ∧
        (Registry.build source corrected {}).result = .ok (registry, report.settled) ∧
        corrected.correct [7] = (0, corrected) := by
  intro rows source corrected
  refine ⟨_, _, rfl, by decide +kernel, by decide +kernel, by decide +kernel, ?_⟩
  exact corrections_are_complete (rfl : (Registry.build source scouting.catalog {}).result = _)

end RegionScript
