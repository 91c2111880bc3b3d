import RegionScript.OrderedMap.Lemmas
import RegionScript.Registry

/-!
What a script in a table is like.

A table takes commands one by one and puts each behind the steps of its script that are not later.
So an id has a script just if a command has that id, and the script is an arrangement of the
commands of its id, by delay, where ties stay in the order in which they came. Every registry that
is built, and every one that is reloaded from a built one, holds only such tables.
-/

namespace RegionScript

/-- A command with nothing but its id, its delay and what it does. -/
def Command.plain (id delay : UInt32) (payload : Payload) : Command where
  id
  delay
  payload
  buddyEntry := 0
  buddyRadius := 0
  flags := {}
  texts := .replicate _ 0
  position := .origin

namespace Script

/-- No step is due before one that stands in front of it. -/
def InOrder (script : Script) : Prop := script.Pairwise fun c d => c.delay ≤ d.delay

/-- Commands in the order of their delays; those of one delay stay in the order they came in. -/
structure Arranges (script : Script) (commands : List Command) : Prop where
  perm : script.Perm commands
  inOrder : script.InOrder
  ties : ∀ delay, script.filter (·.delay = delay) = commands.filter (·.delay = delay)

theorem add_perm (c : Command) : ∀ script : Script, (add c script).Perm (c :: script)
  | [] => .refl _
  | d :: rest => by
    unfold add
    split
    · exact .refl _
    · exact ((add_perm c rest).cons d).trans (.swap c d rest)

theorem add_inOrder (c : Command) : ∀ {script : Script}, InOrder script → InOrder (add c script)
  | [], _ => by simp [add, InOrder]
  | d :: rest, h => by
    obtain ⟨hd, hrest⟩ := List.pairwise_cons.mp h
    unfold add
    split
    · next hlt =>
      refine List.pairwise_cons.mpr ⟨fun x hx => ?_, h⟩
      rcases List.mem_cons.mp hx with rfl | hx
      · exact UInt32.le_of_lt hlt
      · exact UInt32.le_trans (UInt32.le_of_lt hlt) (hd x hx)
    · next hge =>
      refine List.pairwise_cons.mpr ⟨fun x hx => ?_, add_inOrder c hrest⟩
      rcases List.mem_cons.mp ((add_perm c rest).mem_iff.mp hx) with rfl | hx
      · exact UInt32.not_lt.mp hge
      · exact hd x hx

/-- Among the steps of its delay a new one is the last. -/
theorem filter_add (c : Command) (delay : UInt32) :
    ∀ {script : Script}, InOrder script →
      (add c script).filter (·.delay = delay) = (script ++ [c]).filter (·.delay = delay)
  | [], _ => rfl
  | d :: rest, h => by
    obtain ⟨hd, hrest⟩ := List.pairwise_cons.mp h
    unfold add
    split
    · next hlt =>
      -- All steps behind are later than the new one, so none has its delay.
      by_cases hc : c.delay = delay
      · have hnone : (d :: rest).filter (·.delay = delay) = [] := by
          refine List.filter_eq_nil_iff.mpr fun x hx => ?_
          have hlater : c.delay < x.delay := by
            rcases List.mem_cons.mp hx with rfl | hx
            · exact hlt
            · exact UInt32.lt_of_lt_of_le hlt (hd x hx)
          have hne : x.delay ≠ delay := fun hx => UInt32.ne_of_lt hlater (hc.trans hx.symm)
          simpa using hne
        rw [List.filter_append, List.filter_cons_of_pos (by simpa using hc), hnone,
          List.filter_cons_of_pos (by simpa using hc), List.filter_nil, List.nil_append]
      · have hnone : [c].filter (·.delay = delay) = [] :=
          List.filter_cons_of_neg (by simpa using hc)
        rw [List.filter_append, hnone, List.append_nil]
        exact List.filter_cons_of_neg (by simpa using hc)
    · rw [List.cons_append, List.filter_cons, filter_add c delay hrest, List.filter_cons]

theorem arranges_nil : Arranges [] [] where
  perm := .refl _
  inOrder := .nil
  ties _ := rfl

/-- One more command goes into the arrangement. -/
theorem Arranges.add {script : Script} {commands : List Command} (h : script.Arranges commands)
    (c : Command) : (Script.add c script).Arranges (commands ++ [c]) where
  perm := (add_perm c script).trans ((h.perm.cons c).trans (List.perm_append_singleton c _).symm)
  inOrder := add_inOrder c h.inOrder
  ties delay := by
    rw [filter_add c delay h.inOrder, List.filter_append, List.filter_append, h.ties]

end Script

namespace ScriptTable

theorem get?_add (t : ScriptTable) (c : Command) (id : UInt32) :
    (t.add c).get? id =
      if id = c.id then some (Script.add c ((t.get? c.id).getD [])) else t.get? id :=
  OrderedMap.get?_upsert t.scripts id c.id _

/-- The scripts of a table are arrangements of the commands of their ids. -/
structure Groups (t : ScriptTable) (commands : List Command) : Prop where
  absent : ∀ id, t.get? id = none ↔ commands.filter (·.id = id) = []
  arranged : ∀ id script, t.get? id = some script →
    script.Arranges (commands.filter (·.id = id))

theorem empty_groups (kind : TableKind) (name : String) : (empty kind name).Groups [] where
  absent _ := ⟨fun _ => rfl, fun _ => rfl⟩
  arranged _ _ h := by cases h

/-- One more command goes into the script of its id. -/
theorem Groups.add {t : ScriptTable} {commands : List Command} (h : t.Groups commands)
    (c : Command) : (t.add c).Groups (commands ++ [c]) := by
  constructor
  · intro id
    rw [get?_add, List.filter_append, List.append_eq_nil_iff, ← h.absent id]
    by_cases hid : id = c.id
    · simp [hid]
    · simp [hid, Ne.symm hid]
  · intro id script hget
    rw [get?_add] at hget
    rw [List.filter_append]
    split at hget
    · next hid =>
      subst hid
      obtain rfl := Option.some.inj hget
      have hold : Script.Arranges ((t.get? c.id).getD []) (commands.filter (·.id = c.id)) := by
        cases hget : t.get? c.id with
        | none =>
          rw [(h.absent c.id).mp hget]
          exact Script.arranges_nil
        | some old => exact h.arranged c.id old hget
      simpa using hold.add c
    · next hid =>
      simpa [Ne.symm hid] using h.arranged id script hget

/-- A table that is built from commands groups them. -/
theorem ofCommands_groups (kind : TableKind) (name : String) (commands : List Command) :
    (ofCommands kind name commands).Groups commands := by
  suffices h : ∀ (commands before : List Command) (t : ScriptTable), t.Groups before →
      (commands.foldl add t).Groups (before ++ commands) from
    h commands [] _ (empty_groups kind name)
  intro commands
  induction commands with
  | nil => exact fun before t ht => (List.append_nil before).symm ▸ ht
  | cons c rest ih =>
    intro before t ht
    rw [List.append_cons]
    exact ih (before ++ [c]) (t.add c) (ht.add c)

/-- Adding commands leaves family and name. -/
theorem ofCommands_name (kind : TableKind) (name : String) (commands : List Command) :
    (ofCommands kind name commands).kind = kind ∧ (ofCommands kind name commands).name = name := by
  suffices h : ∀ (commands : List Command) (t : ScriptTable),
      (commands.foldl add t).kind = t.kind ∧ (commands.foldl add t).name = t.name from
    h commands (empty kind name)
  intro commands
  induction commands with
  | nil => exact fun t => ⟨rfl, rfl⟩
  | cons c rest ih => exact fun t => ih (t.add c)

/-- A command is a step of some script of a table just if it is among those that are grouped. -/
theorem Groups.mem_iff {t : ScriptTable} {commands : List Command} (h : t.Groups commands)
    (c : Command) : (∃ id script, t.get? id = some script ∧ c ∈ script) ↔ c ∈ commands := by
  constructor
  · rintro ⟨id, script, hget, hc⟩
    exact (List.mem_filter.mp ((h.arranged id script hget).perm.mem_iff.mp hc)).1
  · intro hc
    have hown : c ∈ commands.filter (·.id = c.id) := List.mem_filter.mpr ⟨hc, by simp⟩
    cases hget : t.get? c.id with
    | none =>
      rw [(h.absent c.id).mp hget] at hown
      cases hown
    | some script => exact ⟨c.id, script, hget, (h.arranged c.id script hget).perm.mem_iff.mpr hown⟩

/-- A table as it comes out of building one. -/
def Built (t : ScriptTable) : Prop := ∃ kind name commands, t = ofCommands kind name commands

/-- No script is empty, and all are in order. -/
def Tidy (t : ScriptTable) : Prop :=
  ∀ id script, t.get? id = some script → script ≠ [] ∧ Script.InOrder script

theorem Groups.tidy {t : ScriptTable} {commands : List Command} (h : t.Groups commands) :
    t.Tidy := by
  intro id script hget
  have harranged := h.arranged id script hget
  refine ⟨?_, harranged.inOrder⟩
  rintro rfl
  have hnone := (h.absent id).mpr harranged.perm.symm.eq_nil
  rw [hget] at hnone
  cases hnone

theorem Built.tidy {t : ScriptTable} (h : t.Built) : t.Tidy := by
  obtain ⟨kind, name, commands, rfl⟩ := h
  exact (ofCommands_groups kind name commands).tidy

end ScriptTable

namespace Loader

/-- A table is loaded just when its rows can be read. -/
theorem loadTable_eq_ok_iff {l : Loader} {source : RowSource} {kind : TableKind} {name : String}
    {loaded : ScriptTable × LoadReport} : (l.loadTable source kind name).result = .ok loaded ↔
      ∃ rows, source.rows name = .ok rows ∧ loaded = l.loadRows kind name rows := by
  simp only [loadTable, Logged.result_bind_eq_ok, Logged.result_write, Logged.result_read,
    Logged.result_pure, Except.ok.injEq]
  constructor
  · rintro ⟨_, _, rows, hrows, _, _, rfl⟩
    exact ⟨rows, hrows, rfl⟩
  · rintro ⟨rows, hrows, rfl⟩
    exact ⟨(), trivial, rows, hrows, (), trivial, rfl⟩

end Loader

namespace Registry

/-- All tables of the registry were built from commands. -/
def Built (r : Registry) : Prop := ∀ kind t, r.table? kind = some t → t.Built

theorem empty_built : ({} : Registry).Built := by
  intro kind t h
  cases h

theorem Built.withTable {r : Registry} (h : r.Built) {t : ScriptTable} (ht : t.Built) :
    (r.withTable t).Built := by
  intro kind u hu
  have hget := OrderedMap.get?_insert r.tables kind t.kind t
  rw [table?, Registry.withTable, hget] at hu
  split at hu
  · exact Option.some.inj hu ▸ ht
  · exact h kind u hu

theorem loadRows_built (l : Loader) (kind : TableKind) (name : String) (rows : List Row) :
    (l.loadRows kind name rows).1.Built :=
  ⟨kind, name, _, rfl⟩

variable {source : RowSource} {catalog : Catalog} {options : RegistryOptions}

/-- Reloading puts a built table into the registry. -/
theorem Built.reload {r : Registry} (h : r.Built) {kind : TableKind}
    {next : Registry × LoadReport}
    (hnext : (r.reload source catalog options kind).result = .ok next) : next.1.Built := by
  obtain ⟨loaded, hloaded, hnext⟩ := Logged.result_bind_eq_ok.mp hnext
  obtain rfl := Except.ok.inj hnext
  obtain ⟨rows, -, rfl⟩ := Loader.loadTable_eq_ok_iff.mp hloaded
  exact h.withTable (loadRows_built ..)

/-- Every table is loaded from rows. -/
theorem mem_loadTables {l : Loader} : ∀ {kinds : List TableKind}
    {loaded : List (ScriptTable × LoadReport)},
    (loadTables l source options kinds).result = .ok loaded →
      ∀ x ∈ loaded, ∃ kind name rows, x = l.loadRows kind name rows
  | [], loaded, h, x, hx => by
    obtain rfl : [] = loaded := Except.ok.inj h
    cases hx
  | kind :: rest, loaded, h, x, hx => by
    obtain ⟨one, hone, h⟩ := Logged.result_bind_eq_ok.mp h
    obtain ⟨more, hmore, h⟩ := Logged.result_bind_eq_ok.mp h
    obtain rfl := Except.ok.inj h
    rcases List.mem_cons.mp hx with rfl | hx
    · obtain ⟨rows, -, rfl⟩ := Loader.loadTable_eq_ok_iff.mp hone
      exact ⟨_, _, rows, rfl⟩
    · exact mem_loadTables hmore x hx

/-- What a build makes of the tables that were loaded and the bindings and names that were read. -/
def assemble (catalog : Catalog) (options : RegistryOptions)
    (loaded : List (ScriptTable × LoadReport)) (triggers events : List NamedScript)
    (names : List String) : Registry × RegistryReport :=
  let l : Loader := ⟨catalog, options.loader⟩
  let tables : OrderedMap TableKind ScriptTable := .ofList (loaded.map fun (t, _) => (t.kind, t))
  let names := allNames catalog names triggers events
  ({ tables, areaTriggerScripts := l.areaTriggerScripts names triggers,
     eventScripts := Loader.eventScripts names events, names },
    { tables := loaded.map (·.2), texts := l.textReport tables.values })

theorem build_eq_ok_iff {built : Registry × RegistryReport} :
    (build source catalog options).result = .ok built ↔
      ∃ loaded triggers events names,
        (loadTables ⟨catalog, options.loader⟩ source options TableKind.all).result = .ok loaded ∧
        source.areaTriggers = .ok triggers ∧ source.eventIds = .ok events ∧
        source.names = .ok names ∧
        built = assemble catalog options loaded triggers events names := by
  simp only [build, Logged.result_bind_eq_ok, Logged.result_write, Logged.result_read,
    Logged.result_pure, Except.ok.injEq]
  constructor
  · rintro ⟨loaded, hloaded, _, _, triggers, htriggers, events, hevents, names, hnames, _, _, _, _,
      rfl⟩
    exact ⟨loaded, triggers, events, names, hloaded, htriggers, hevents, hnames, rfl⟩
  · rintro ⟨loaded, triggers, events, names, hloaded, htriggers, hevents, hnames, rfl⟩
    exact ⟨loaded, hloaded, (), trivial, triggers, htriggers, events, hevents, names, hnames, (),
      trivial, (), trivial, rfl⟩

/-- Building makes a registry of built tables. -/
theorem build_built {built : Registry × RegistryReport}
    (h : (build source catalog options).result = .ok built) : built.1.Built := by
  obtain ⟨loaded, triggers, events, names, hloaded, -, -, -, rfl⟩ := build_eq_ok_iff.mp h
  intro kind t ht
  have hget := OrderedMap.get?_ofList (loaded.map fun x => (x.1.kind, x.1)) kind
  obtain ⟨front, back, hsplit, -⟩ := List.lookup_eq_some_iff.mp (hget.symm.trans ht)
  have hmem : (kind, t) ∈ loaded.map fun x => (x.1.kind, x.1) := by
    rw [← List.mem_reverse, hsplit]
    exact List.mem_append_right _ (List.mem_cons_self ..)
  obtain ⟨x, hx, hxt⟩ := List.mem_map.mp hmem
  obtain ⟨-, rfl⟩ := Prod.mk.inj hxt
  obtain ⟨kind, name, rows, rfl⟩ := mem_loadTables hloaded x hx
  exact loadRows_built ..

end Registry

end RegionScript
