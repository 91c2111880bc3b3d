import RegionScript.Load.Table
import RegionScript.Script.Names

/-!
Area triggers and events bound to named scripts.

A binding is kept as the number of the script's name; of several bindings of one id the last counts.
-/

namespace RegionScript.Loader

/-- Numbers the names of bindings. -/
def number (names : ScriptNames) (bindings : List NamedScript) : OrderedMap UInt32 UInt32 :=
  .ofList (bindings.map fun b => (b.id, names.idOf b.scriptName))

/-- Bindings of area triggers; unknown triggers are left out. -/
def areaTriggerScripts (l : Loader) (names : ScriptNames) (bindings : List NamedScript) :
    OrderedMap UInt32 UInt32 :=
  number names (bindings.filter fun b => l.catalog.areaTriggers.contains b.id)

/-- How many ids are bound. -/
def boundIds (bindings : List NamedScript) : Nat := (OrderedSet.ofList (bindings.map (·.id))).size

/-- What reading the bindings of area triggers logs. -/
def areaTriggerLog (l : Loader) (bindings : List NamedScript) : List LogLine :=
  let (known, unknown) := bindings.partition fun b => l.catalog.areaTriggers.contains b.id
  unknown.map (fun b =>
    ⟨.error, loadTarget,
      s!"Table `scripted_areatrigger` has area trigger (ID: {b.id}) not listed in the area trigger "
        ++ "catalog."⟩) ++
  [⟨.info, loadTarget, s!">> Loaded {boundIds known} areatrigger scripts"⟩]

/-- Bindings of events, those that nothing raises included. -/
def eventScripts (names : ScriptNames) (bindings : List NamedScript) : OrderedMap UInt32 UInt32 :=
  number names bindings

/-- What reading the bindings of events logs. -/
def eventLog (l : Loader) (bindings : List NamedScript) : List LogLine :=
  (bindings.filter fun b => !l.catalog.eventIds.contains b.id).map (fun b =>
    ⟨.warn, loadTarget,
      s!"Table `scripted_event_id` has id {b.id} ({Log.escape b.scriptName}) not referring to any "
        ++ "gameobject event, spell send-event effect or taxi node event"⟩) ++
  [⟨.info, loadTarget, s!">> Loaded {boundIds bindings} scripted event id"⟩]

end RegionScript.Loader
