import RegionScript.Proofs.Loading
import RegionScript.Proofs.Numbering
import RegionScript.Proofs.StoreRuns

/-!
Building from a store that a seed was imported into, and from the seed itself.

Both ways the same rows are checked, the versions of which do not count, and the same id is bound to
the same name. They differ in what is known of an id that is bound more than once: the seed lists
every binding, while the store holds the last one. The names of the others are numbered when a build
reads the seed, and when it reads the store only if they are known from elsewhere.
-/

namespace RegionScript

/-! ### What an import stores -/

namespace Loader

/-- The names that ids are bound to, of several bindings of one id by the last. -/
def boundNames (bindings : List NamedScript) : OrderedMap UInt32 String :=
  .ofList (bindings.map fun b => (b.id, b.scriptName))

end Loader

open Loader OrderedMap

/-- What is in a store that holds a seed and nothing else. -/
def Seed.contents (seed : Seed) : Contents where
  rows table := (seed.tables.get? table).getD []
  bindings kind :=
    if kind = Store.eventKind then boundNames seed.eventIds
    else if kind = Store.areaTriggerKind then boundNames seed.areaTriggers
    else ∅
  names := seed.scriptNames

theorem Seed.contents_areaTriggers (seed : Seed) :
    seed.contents.bindings Store.areaTriggerKind = boundNames seed.areaTriggers := by
  have hne : Store.areaTriggerKind ≠ Store.eventKind := by decide
  simp only [Seed.contents, if_neg hne, if_true]

theorem Seed.contents_events (seed : Seed) :
    seed.contents.bindings Store.eventKind = boundNames seed.eventIds := by
  simp only [Seed.contents, if_true]

namespace Store

/-- A table that has no rows has those of the import after it, whether they replace them or not. -/
theorem foldl_tableChanges (replacing : Bool) {c : Contents} {e : String × List Row}
    (hnone : c.rows e.1 = []) :
    (tableChanges replacing e).foldl Contents.change c =
      { c with rows := fun t => if t = e.1 then e.2 else c.rows t } := by
  cases replacing with
  | true =>
    simp only [tableChanges, if_true, List.foldl_cons, List.foldl_nil, Contents.change,
      Contents.mk.injEq, and_true]
    funext t
    by_cases ht : t = e.1 <;> simp [ht]
  | false =>
    simp only [tableChanges, Bool.false_eq_true, if_false, List.foldl_cons, List.foldl_nil,
      Contents.change, Contents.mk.injEq, and_true]
    funext t
    by_cases ht : t = e.1 <;> simp [ht, hnone]

theorem foldl_tables (replacing : Bool) {l : List (String × List Row)}
    (hl : l.Pairwise fun a b => compare a.1 b.1 = .lt) {c : Contents}
    (hc : ∀ e ∈ l, c.rows e.1 = []) :
    (l.flatMap (tableChanges replacing)).foldl Contents.change c =
      { c with rows := fun t => (findEntry t l).getD (c.rows t) } := by
  induction l generalizing c with
  | nil => rfl
  | cons e rest ih =>
    obtain ⟨hhead, hrest⟩ := List.pairwise_cons.mp hl
    have hne : ∀ x ∈ rest, x.1 ≠ e.1 := fun x hx heq => by
      have hlt := hhead x hx
      rw [heq] at hlt
      simp at hlt
    -- tables of a seed have different names, so the later ones still have no rows
    have hlater : ∀ x ∈ rest, (if x.1 = e.1 then e.2 else c.rows x.1) = [] := fun x hx => by
      rw [if_neg (hne x hx)]
      exact hc x (List.mem_cons_of_mem e hx)
    rw [List.flatMap_cons, List.foldl_append, foldl_tableChanges replacing
      (hc e (List.mem_cons_self ..)), ih hrest hlater]
    simp only [Contents.mk.injEq, and_true]
    funext t
    by_cases ht : t = e.1
    · have hnone : findEntry t rest = none := by
        refine Option.eq_none_iff_forall_ne_some.mpr fun rows hrows => ?_
        exact hne _ ((mem_iff_findEntry hrest).mpr hrows) ht
      rw [hnone, if_pos ht, ht, findEntry_cons_self e.1 e.2 rest]
      rfl
    · rw [findEntry_cons_of_ne ht, if_neg ht]

theorem foldl_bindings (kind : String) (bindings : List NamedScript) (c : Contents) :
    (bindings.map fun b => Change.bind kind b.id b.scriptName).foldl Contents.change c =
      { c with
        bindings := fun k =>
          if k = kind then
            bindings.foldl (fun m b => m.insert b.id b.scriptName) (c.bindings k)
          else c.bindings k } := by
  induction bindings generalizing c with
  | nil => simp
  | cons b rest ih =>
    rw [List.map_cons, List.foldl_cons, ih]
    simp only [Contents.change, Contents.mk.injEq, and_true, true_and]
    funext k
    by_cases hk : k = kind <;> simp [hk]

theorem foldl_names (l : List (String × List String)) (c : Contents) :
    (l.map fun e => Change.putNames e.1 e.2).foldl Contents.change c =
      { c with names := l.foldl (fun m e => m.insert e.1 e.2) c.names } := by
  induction l generalizing c with
  | nil => rfl
  | cons e rest ih => rw [List.map_cons, List.foldl_cons, ih]; rfl

theorem contents_importSeed (seed : Seed) (replacing : Bool) :
    (Operation.importSeed seed replacing).contents {} = seed.contents := by
  rw [Operation.contents, Operation.changes, List.foldl_append, List.foldl_append,
    List.foldl_append, foldl_tables replacing seed.tables.ascending fun _ _ => rfl,
    foldl_bindings, foldl_bindings, foldl_names]
  have hbound : ∀ bindings : List NamedScript,
      bindings.foldl (fun m b => m.insert b.id b.scriptName) ∅ = boundNames bindings := by
    intro bindings
    rw [boundNames, ofList, List.foldl_map]
    rfl
  simp only [Seed.contents, Contents.mk.injEq]
  refine ⟨rfl, ?_, ofList_entries seed.scriptNames⟩
  funext kind
  by_cases hevent : kind = eventKind
  · have hother : kind ≠ areaTriggerKind := hevent ▸ by decide
    rw [if_pos hevent, if_pos hevent, if_neg hother, hbound]
  · rw [if_neg hevent, if_neg hevent, hbound]

end Store

/-! ### What a build finds -/

/-- The version of a row does not count when it is checked. -/
theorem Loader.loadRows_stamped (l : Loader) (kind : TableKind) (name : String) (rows : List Row) :
    l.loadRows kind name (rows.map Row.stamped) = l.loadRows kind name rows := by
  have haccepted : l.acceptedOf (rows.map Row.stamped) = l.acceptedOf rows := by
    rw [acceptedOf, List.filterMap_map]
    rfl
  have hrefused : l.refusalsOf (rows.map Row.stamped) = l.refusalsOf rows := by
    rw [refusalsOf, List.filterMap_map]
    rfl
  have hcorrected : (rows.map Row.stamped).filterMap l.correction? =
      rows.filterMap l.correction? := by
    rw [List.filterMap_map]
    rfl
  rw [loadRows_eq, loadRows_eq, haccepted, hrefused, hcorrected]

namespace Loader

variable {bindings : List NamedScript}

/-- The names of a map of bindings, as bindings. -/
def bindingsOf (m : OrderedMap UInt32 String) : List NamedScript :=
  m.entries.map fun e => ⟨e.1, e.2⟩

theorem boundNames_bindingsOf (m : OrderedMap UInt32 String) : boundNames (bindingsOf m) = m := by
  rw [boundNames, bindingsOf, List.map_map]
  exact (congrArg ofList (List.map_id _)).trans (ofList_entries m)

theorem number_eq (names : ScriptNames) (bindings : List NamedScript) :
    number names bindings = (boundNames bindings).map fun _ name => names.idOf name := by
  rw [boundNames, map_ofList, List.map_map]
  rfl

theorem boundNames_filter (p : UInt32 → Bool) (bindings : List NamedScript) :
    boundNames (bindings.filter fun b => p b.id) =
      (boundNames bindings).filter fun id _ => p id := by
  rw [boundNames, boundNames, filter_ofList, List.filter_map]
  rfl

/-- Numbering the last bindings is numbering all of them. -/
theorem areaTriggerScripts_eq (l : Loader) (names : ScriptNames) (bindings : List NamedScript) :
    l.areaTriggerScripts names bindings =
      ((boundNames bindings).filter fun id _ => l.catalog.areaTriggers.contains id).map
        fun _ name => names.idOf name := by
  rw [areaTriggerScripts, number_eq, boundNames_filter]

theorem mem_of_mem_boundNames {name : String} (h : name ∈ (boundNames bindings).values) :
    ∃ b ∈ bindings, b.scriptName = name := by
  obtain ⟨id, hid⟩ := (mem_values_iff _ name).mp h
  rw [boundNames, get?_ofList] at hid
  obtain ⟨front, back, hsplit, -⟩ := List.lookup_eq_some_iff.mp hid
  have hmem : (id, name) ∈ bindings.map fun b => (b.id, b.scriptName) := by
    rw [← List.mem_reverse, hsplit]
    exact List.mem_append_right front (List.mem_cons_self ..)
  obtain ⟨b, hb, heq⟩ := List.mem_map.mp hmem
  exact ⟨b, hb, (Prod.mk.inj heq).2⟩

end Loader

/-- When the last bindings are left, the same names are known just when those of all are known. -/
theorem known_iff (known : List String) {last : List String} {bindings : List NamedScript}
    (hlast : ∀ name ∈ last, ∃ b ∈ bindings, b.scriptName = name) :
    (∀ name, name ∈ known ++ last ↔ name ∈ known ++ bindings.map (·.scriptName)) ↔
      ∀ b ∈ bindings, b.scriptName ∈ known ++ last := by
  constructor
  · intro h b hb
    exact (h _).mpr (List.mem_append_right known (List.mem_map.mpr ⟨b, hb, rfl⟩))
  · intro h name
    constructor
    · intro hname
      rcases List.mem_append.mp hname with hname | hname
      · exact List.mem_append_left _ hname
      · exact List.mem_append_right known (List.mem_map.mpr (hlast name hname))
    · intro hname
      rcases List.mem_append.mp hname with hname | hname
      · exact List.mem_append_left last hname
      · obtain ⟨b, hb, rfl⟩ := List.mem_map.mp hname
        exact h b hb

namespace Registry

/-- A source has the rows of another one, with versions of its own. -/
def RowsAlike (source other : RowSource) : Prop :=
  ∀ table, ∃ rows, source.rows table = .ok rows ∧ other.rows table = .ok (rows.map Row.stamped)

theorem loadTables_rowsAlike {source other : RowSource} (h : RowsAlike source other) (l : Loader)
    (options : RegistryOptions) (kinds : List TableKind) :
    ∃ loaded, (loadTables l source options kinds).result = .ok loaded ∧
      (loadTables l other options kinds).result = .ok loaded := by
  induction kinds with
  | nil => exact ⟨[], rfl, rfl⟩
  | cons kind rest ih =>
    obtain ⟨more, hmore, hmore'⟩ := ih
    obtain ⟨rows, hrows, hrows'⟩ := h (options.tableName kind)
    refine ⟨l.loadRows kind (options.tableName kind) rows :: more, ?_, ?_⟩
    · exact Logged.result_bind_eq_ok.mpr ⟨_, loadTable_eq_ok_iff.mpr ⟨rows, hrows, rfl⟩,
        Logged.result_bind_eq_ok.mpr ⟨more, hmore, rfl⟩⟩
    · exact Logged.result_bind_eq_ok.mpr ⟨_, loadTable_eq_ok_iff.mpr ⟨_, hrows',
        (l.loadRows_stamped kind _ rows).symm⟩, Logged.result_bind_eq_ok.mpr ⟨more, hmore', rfl⟩⟩

/-- A registry binds ids to names, by the numbers that it gives them. -/
structure Binds (triggers events : OrderedMap UInt32 String) (r : Registry) : Prop where
  areaTriggers : r.areaTriggerScripts = triggers.map fun _ name => r.names.idOf name
  events : r.eventScripts = events.map fun _ name => r.names.idOf name

/-- The tables and the report do not depend on the bindings and names that were read. -/
theorem assemble_tables (catalog : Catalog) (options : RegistryOptions)
    (loaded : List (ScriptTable × LoadReport)) (triggers events : List NamedScript)
    (names : List String) :
    (assemble catalog options loaded triggers events names).1.tables =
      (assemble catalog options loaded [] [] []).1.tables ∧
    (assemble catalog options loaded triggers events names).2 =
      (assemble catalog options loaded [] [] []).2 := by
  simp only [assemble, and_self]

theorem assemble_binds (catalog : Catalog) (options : RegistryOptions)
    (loaded : List (ScriptTable × LoadReport)) (triggers events : List NamedScript)
    (names : List String) :
    (assemble catalog options loaded triggers events names).1.Binds
      ((boundNames triggers).filter fun id _ => catalog.areaTriggers.contains id)
      (boundNames events) :=
  ⟨areaTriggerScripts_eq ⟨catalog, options.loader⟩ _ _, number_eq _ _⟩

/-- Registries are equal when they number names alike and bind the same ids to the same names. -/
theorem Binds.eq_iff {triggers events : OrderedMap UInt32 String} {r r' : Registry}
    (h : r.Binds triggers events) (h' : r'.Binds triggers events) (htables : r.tables = r'.tables) :
    r = r' ↔ r.names = r'.names := by
  refine ⟨fun heq => heq ▸ rfl, fun hnames => ?_⟩
  have hareaTriggers : r.areaTriggerScripts = r'.areaTriggerScripts := by
    rw [h.areaTriggers, h'.areaTriggers, hnames]
  have hevents : r.eventScripts = r'.eventScripts := by
    rw [h.events, h'.events, hnames]
  cases r
  cases r'
  simp_all

end Registry

/-- The names of replaced bindings are known all the same just when they are known from elsewhere or
from the last bindings. -/
theorem Registry.allNames_eq_iff (catalog : Catalog) (names : List String)
    (triggers events : List NamedScript) :
    allNames catalog names (bindingsOf (boundNames triggers)) (bindingsOf (boundNames events)) =
        allNames catalog names triggers events ↔
      ∀ b ∈ triggers ++ events, b.scriptName ∈ "" :: (catalog.ownedScriptNames ++ names) ++
        ((boundNames triggers).values ++ (boundNames events).values) := by
  have hvalues : ∀ m : OrderedMap UInt32 String, (bindingsOf m).map (·.scriptName) = m.values :=
    fun _ => List.map_map
  have hlast : ∀ name ∈ (boundNames triggers).values ++ (boundNames events).values,
      ∃ b ∈ triggers ++ events, b.scriptName = name := by
    intro name hname
    rcases List.mem_append.mp hname with hname | hname
    · obtain ⟨b, hb, heq⟩ := mem_of_mem_boundNames hname
      exact ⟨b, List.mem_append_left _ hb, heq⟩
    · obtain ⟨b, hb, heq⟩ := mem_of_mem_boundNames hname
      exact ⟨b, List.mem_append_right _ hb, heq⟩
  rw [allNames, allNames, hvalues, hvalues, ScriptNames.ofList_eq_iff,
    List.append_assoc _ (boundNames triggers).values, List.append_assoc _ (triggers.map _),
    ← List.map_append]
  exact known_iff ("" :: (catalog.ownedScriptNames ++ names)) hlast

open Store

variable {ν : Type} [Numbering ν] {s : Store ν} {seed : Seed} {replacing : Bool}

/-- A store that holds a seed alone gives back its rows, the last bindings and all its names. -/
theorem Store.source_importSeed (hempty : s.IsEmpty)
    (hsound : (Operation.importSeed seed replacing).IsSound)
    (hnumbers : (s.importSeed seed replacing).2.nextNumber ≤ 2 ^ 64) :
    let source := (s.importSeed seed replacing).2.source
    Registry.RowsAlike seed.toMemory.source source ∧
      source.areaTriggers = .ok (bindingsOf (boundNames seed.areaTriggers)) ∧
      source.eventIds = .ok (bindingsOf (boundNames seed.eventIds)) ∧
      source.names = .ok seed.scriptNames.values.flatten := by
  have h : Holds seed.contents (s.importSeed seed replacing).2 :=
    contents_importSeed seed replacing ▸ (Holds.of_isEmpty hempty).perform hsound hnumbers
  refine ⟨fun table => ⟨_, rfl, h.rows_eq table⟩, ?_, ?_, h.names_eq⟩
  · rw [← seed.contents_areaTriggers]
    exact h.bindings_eq areaTriggerKind
  · rw [← seed.contents_events]
    exact h.bindings_eq eventKind

/-- After an import into an empty store, building from the store does what building from the seed
does. Both give the same tables and the same report, and bind the same ids to the same names; the
names are also numbered alike, so that the registries are equal, if and only if no name is lost with
a binding that a later one of its id has replaced. -/
theorem imports_build_alike (hempty : s.IsEmpty)
    (hsound : (Operation.importSeed seed replacing).IsSound)
    (hnumbers : (s.importSeed seed replacing).2.nextNumber ≤ 2 ^ 64) (catalog : Catalog)
    (options : RegistryOptions) :
    let triggers := boundNames seed.areaTriggers
    let known := triggers.filter fun id _ => catalog.areaTriggers.contains id
    let events := boundNames seed.eventIds
    ∃ direct stored report,
      (Registry.build seed.toMemory.source catalog options).result = .ok (direct, report) ∧
        (Registry.build (s.importSeed seed replacing).2.source catalog options).result =
          .ok (stored, report) ∧
        stored.tables = direct.tables ∧ direct.Binds known events ∧ stored.Binds known events ∧
        (stored = direct ↔ ∀ b ∈ seed.areaTriggers ++ seed.eventIds,
          b.scriptName ∈ "" :: (catalog.ownedScriptNames ++ seed.scriptNames.values.flatten) ++
            (triggers.values ++ events.values)) := by
  intro triggers known events
  obtain ⟨hrows, htriggers, hevents, hnames⟩ := source_importSeed hempty hsound hnumbers
  obtain ⟨loaded, hdirect, hstored⟩ :=
    Registry.loadTables_rowsAlike hrows ⟨catalog, options.loader⟩ options TableKind.all
  let names := seed.scriptNames.values.flatten
  let direct := Registry.assemble catalog options loaded seed.areaTriggers seed.eventIds names
  let stored :=
    Registry.assemble catalog options loaded (bindingsOf triggers) (bindingsOf events) names
  obtain ⟨htables, hreport⟩ : stored.1.tables = direct.1.tables ∧ stored.2 = direct.2 := by
    obtain ⟨htables, hreport⟩ :=
      Registry.assemble_tables catalog options loaded seed.areaTriggers seed.eventIds names
    rw [htables, hreport]
    exact Registry.assemble_tables ..
  have hbinds : direct.1.Binds known events := Registry.assemble_binds ..
  have hbinds' : stored.1.Binds known events := by
    -- the store lists the last bindings, and of these the last ones are all
    have hbound := Registry.assemble_binds catalog options loaded (bindingsOf triggers)
      (bindingsOf events) names
    rwa [boundNames_bindingsOf, boundNames_bindingsOf] at hbound
  refine ⟨direct.1, stored.1, direct.2,
    Registry.build_eq_ok_iff.mpr ⟨loaded, _, _, _, hdirect, rfl, rfl, rfl, rfl⟩,
    Registry.build_eq_ok_iff.mpr ⟨loaded, _, _, _, hstored, htriggers, hevents, hnames,
      hreport ▸ rfl⟩, htables, hbinds, hbinds', ?_⟩
  -- only the names can differ
  rw [hbinds'.eq_iff hbinds htables]
  exact Registry.allNames_eq_iff catalog names seed.areaTriggers seed.eventIds

/-- The name of a replaced binding is also on a list of names, and nothing is lost. -/
theorem imports_build_alike_listed :
    let emote : Row := { (Row.new 5 0 1).withData 3 0 with schemaVersion := 9 }
    let seed : Seed :=
      { tables := .ofList [("dbscripts_on_event", [emote])]
        eventIds := [⟨700, "a"⟩, ⟨700, "b"⟩]
        scriptNames := .ofList [("items", ["a"])] }
    let catalog : Catalog := { emotes := .ofList [3] }
    let s : Store Blocks := (importSeed ∅ seed true).2
    (Operation.importSeed seed true).IsSound ∧
      s.nextNumber ≤ 2 ^ 64 ∧
      ∃ registry report, report.loadedRows = 1 ∧
        (Registry.build seed.toMemory.source catalog {}).result = .ok (registry, report) ∧
        (Registry.build s.source catalog {}).result =
          .ok (registry, report) := by
  intro emote seed catalog s
  have hsound : (Operation.importSeed seed true).IsSound := by decide +kernel
  have hnumbers : s.nextNumber ≤ 2 ^ 64 := by decide +kernel
  obtain ⟨direct, stored, report, hdirect, hstored, -, -, -, heq⟩ :=
    imports_build_alike ⟨rfl, rfl, rfl⟩ hsound hnumbers catalog {}
  have hloaded : (Registry.build seed.toMemory.source catalog {}).result.toOption.map
      (·.2.loadedRows) = some 1 := by decide +kernel
  rw [hdirect] at hloaded
  rw [heq.mpr (by decide +kernel)] at hstored
  exact ⟨hsound, hnumbers, direct, report, Option.some.inj hloaded, hdirect, hstored⟩

/-- An event is bound twice. The seed knows both names, and the store only the last one. -/
theorem replaced_name_is_lost :
    let seed : Seed := { eventIds := [⟨700, "a"⟩, ⟨700, "b"⟩] }
    let direct := (Registry.build seed.toMemory.source {} {}).result
    let s : Store Blocks := (importSeed ∅ seed false).2
    let stored := (Registry.build s.source {} {}).result
    (Operation.importSeed seed false).IsSound ∧
      direct.toOption.map (·.1.names.count) = some 3 ∧
      stored.toOption.map (·.1.names.count) = some 2 ∧
      direct.toOption.map (·.1.names.idOf "b") = some 2 ∧
      stored.toOption.map (·.1.names.idOf "b") = some 1 := by
  intro seed direct s stored
  -- what either build knows, before it is put in order
  have hdirect : direct.toOption.map (·.1.names) = some (.ofList ["a", "b"]) := rfl
  have hstored : stored.toOption.map (·.1.names) = some (.ofList ["b"]) := rfl
  obtain ⟨d, hd, hdnames⟩ := Option.map_eq_some_iff.mp hdirect
  obtain ⟨t, ht, htnames⟩ := Option.map_eq_some_iff.mp hstored
  rw [hd, ht, Option.map_some, Option.map_some, Option.map_some, Option.map_some, hdnames, htnames]
  have hboth : (ScriptNames.ofList ["a", "b"]).names = ["", "a", "b"] :=
    (ScriptNames.names_ofList _).trans (by decide +kernel)
  have hlast : (ScriptNames.ofList ["b"]).names = ["", "b"] :=
    (ScriptNames.names_ofList _).trans (by decide +kernel)
  simp only [ScriptNames.count, ScriptNames.size, ScriptNames.idOf_eq, hboth, hlast]
  decide +kernel

end RegionScript
