import RegionScript.Module.Basic

/-!
Calling hooks.

The host is asked first, where it hears of the call at all. If it does not take the call, the bound
module is asked, provided that it declares the hook. If neither takes it, the answer is the default:
not handled, or no dialog status.
-/

namespace RegionScript

/-- Dialog status when nobody has an opinion. -/
def undefinedDialogStatus : UInt32 := 100

/-- The bound module and the host, where there are any. -/
structure Hooks (σ : Type) where
  module : Option (Module σ) := none
  host : Option (Handler σ) := none

namespace Hooks

variable {σ : Type}

/-- The bound module, if it declares a hook. -/
def moduleFor? (h : Hooks σ) (hook : Hook) : Option (Module σ) :=
  h.module.filter (·.manifest.hooks.contains hook)

/-- Asks the host, if there is one that hears of the call. -/
def askHost (h : Hooks σ) (call : HookCall) (w : World σ) : Bool × World σ :=
  match h.host, call.forHost? with
  | some host, some told => host.handle told w
  | _, _ => (false, w)

/-- Asks the module, if one is bound that declares the hook. -/
def askModule (h : Hooks σ) (call : HookCall) (w : World σ) : Bool × World σ :=
  match h.moduleFor? call.hook with
  | some m => m.handle call w
  | none => (false, w)

/-- Asks the host and then the module; whether one of them took the call. -/
def call (h : Hooks σ) (call : HookCall) (w : World σ) : Bool × World σ :=
  match h.askHost call w with
  | (true, w) => (true, w)
  | (false, w) => h.askModule call w

/-- The status that the host gives; zero is no opinion. -/
def hostStatus (h : Hooks σ) (player giver : Guid) (w : World σ) : UInt32 × σ :=
  match h.host with
  | some host => host.dialogStatus player giver w
  | none => (0, w.memory)

/-- The status that the module gives, if it declares the hook. -/
def moduleStatus (h : Hooks σ) (player giver : Guid) (w : World σ) : UInt32 × σ :=
  match h.moduleFor? (dialogHook giver) with
  | some m => m.dialogStatus player giver w
  | none => (undefinedDialogStatus, w.memory)

/-- The dialog status of a giver for a player, the host's opinion first. -/
def dialogStatus (h : Hooks σ) (player giver : Guid) (w : World σ) : UInt32 × World σ :=
  let (status, memory) := h.hostStatus player giver w
  let w := { w with memory }
  if status ≠ 0 then (status, w)
  else
    let (status, memory) := h.moduleStatus player giver w
    (status, { w with memory })

/-- Lets the bound module go. -/
def unload (h : Hooks σ) : Hooks σ := { h with module := none }

def unloadLog (h : Hooks σ) : List LogLine :=
  match h.module with
  | some m => [⟨.info, moduleTarget, s!"Unloaded script module {Log.escape m.manifest.name}"⟩]
  | none => []

/-- What came of binding a module. -/
structure Loading (σ : Type) where
  hooks : Hooks σ
  memory : σ
  result : Except ModuleError Unit
  log : List LogLine

/-- Binds a module in place of the bound one. If that fails no module is bound at all. -/
def load (h : Hooks σ) (modules : ModuleCatalog σ) (name revision : String) (memory : σ) :
    Loading σ :=
  match modules.negotiate name revision with
  | .ok m =>
    let hooks := ", ".intercalate (m.manifest.hooks.toList.map Hook.name)
    { hooks := { h with module := some m }
      memory := m.init memory
      result := .ok ()
      log := h.unloadLog ++
        [⟨.info, moduleTarget,
          s!"Loaded script module {Log.escape m.manifest.name} with hooks [{hooks}]"⟩] }
  | .error e =>
    { hooks := h.unload
      memory
      result := .error e
      log := h.unloadLog ++
        [⟨.warn, moduleTarget, s!"Script module {Log.escape name} not loaded: {e.message}"⟩] }

/-- The name of the bound module. -/
def moduleName? (h : Hooks σ) : Option String := h.module.map (·.manifest.name)

end Hooks

end RegionScript
