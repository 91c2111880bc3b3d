import RegionScript.Log
import RegionScript.Module.Hook
import RegionScript.Region.Basic

/-!
Script modules, the scripting host and the handlers of contested areas.

They are foreign code: whatever they do with the region is theirs to decide, and they may keep a
memory of their own, of any type `σ`. A module states in its manifest for which revision of the
engine it was made and for which hooks it may be called.
-/

namespace RegionScript

/-- What foreign code is called with. -/
inductive HookCall where
  | gossipHello (player speaker : Guid)
  | gossipSelect (player speaker : Guid) (sender action : UInt32) (code : Option String)
  | questAccept (player giver : Guid) (quest : UInt32)
  | questRewarded (player giver : Guid) (quest : UInt32)
  | goUse (player object : Guid)
  | itemUse (player item : Guid)
  | areaTrigger (player : Guid) (trigger : UInt32)
  | processEvent (event : UInt32) (source : Guid) (target : Option Guid) (isStart : Bool)
  | effectDummy (caster : Guid) (spell : UInt32) (index : Nat) (target : Guid)
      (firstCaster : Option Guid)
  | scriptEffect (caster : Guid) (spell : UInt32) (index : Nat) (target : Guid)
      (firstCaster : Option Guid)
  | auraDummy (holder : Guid) (spell : UInt32) (apply : Bool)
  deriving DecidableEq

namespace HookCall

/-- The hook that a module has to declare to be called. -/
def hook : HookCall → Hook
  | gossipHello _ speaker => if speaker.isCreature then .gossipHello else .goGossipHello
  | gossipSelect _ speaker _ _ none =>
    if speaker.isCreature then .gossipSelect else .goGossipSelect
  | gossipSelect _ speaker _ _ (some _) =>
    if speaker.isCreature then .gossipSelectWithCode else .goGossipSelectWithCode
  | questAccept _ giver _ =>
    if giver.isCreature then .questAccept
    else if giver.isItem then .itemQuestAccept
    else .goQuestAccept
  | questRewarded _ giver _ => if giver.isCreature then .questRewarded else .goQuestRewarded
  | goUse .. => .goUse
  | itemUse .. => .itemUse
  | areaTrigger .. => .areaTrigger
  | processEvent .. => .processEvent
  | effectDummy _ _ _ target _ =>
    if target.isCreature then .effectDummyCreature
    else if target.isItem then .effectDummyItem
    else .effectDummyGo
  | scriptEffect .. => .effectScriptEffectCreature
  | auraDummy .. => .auraDummy

/-- What the host is told of a call; the first caster of an effect it is not. The other calls it
does not hear of. -/
def forHost? : HookCall → Option HookCall
  | effectDummy caster spell index target _ => some (effectDummy caster spell index target none)
  | goUse .. | processEvent .. | scriptEffect .. | auraDummy .. => none
  | call => some call

end HookCall

/-- The hook that a module has to declare to be asked about a giver's dialog status. -/
def dialogHook (giver : Guid) : Hook :=
  if giver.isCreature then .npcDialogStatus else .goDialogStatus

/-- The region and what foreign code remembers. -/
structure World (σ : Type) where
  region : Region
  memory : σ

/-- Foreign code: it says whether it took a call, and what dialog status a giver has for a player.
The status is asked for without letting the region change. -/
structure Handler (σ : Type) where
  handle : HookCall → World σ → Bool × World σ
  dialogStatus : Guid → Guid → World σ → UInt32 × σ

/-- Takes no call, and has one status for all. -/
def Handler.silent {σ : Type} (status : UInt32) : Handler σ where
  handle _ w := (false, w)
  dialogStatus _ _ w := (status, w.memory)

/-- Handlers of battlegrounds and contested zones: they take the event of an object or not. -/
structure PvpHandler (σ : Type) where
  battleground : UInt32 → UInt32 → Guid → World σ → Bool × World σ
  outdoor : UInt32 → UInt32 → Guid → World σ → Bool × World σ

/-- Takes no event. -/
def PvpHandler.silent {σ : Type} : PvpHandler σ where
  battleground _ _ _ w := (false, w)
  outdoor _ _ _ w := (false, w)

/-- What a module states about itself. -/
structure Manifest where
  name : String
  /-- The revision of the engine that it was made for. -/
  revision : String
  hooks : HookSet
  deriving DecidableEq

/-- A script module; `init` is run once when it is bound. -/
structure Module (σ : Type) extends Handler σ where
  manifest : Manifest
  init : σ → σ

/-- Why a module was not bound. -/
inductive ModuleError where
  | notFound (name : String)
  | wrongApi (missing : List Hook)
  | outdated (expected found : String)
  deriving DecidableEq

/-- The reason in words. -/
def ModuleError.message : ModuleError → String
  | notFound name => s!"script module {name} not found"
  | wrongApi missing =>
    "script module does not provide required hooks: " ++ ", ".intercalate (missing.map Hook.name)
  | outdated expected found => s!"script module built for revision {found}, core is {expected}"

/-- The modules that can be bound, by the name they are known under. -/
abbrev ModuleCatalog (σ : Type) := OrderedMap String (Module σ)

/-- Where modules are logged. -/
def moduleTarget : String := "script_modules"

namespace ModuleCatalog

/-- Makes a module known under a name. -/
def register {σ : Type} (c : ModuleCatalog σ) (name : String) (m : Module σ) : ModuleCatalog σ :=
  OrderedMap.insert c name m

/-- What making a module known logs. -/
def registerLog (name : String) : List LogLine :=
  [⟨.debug, moduleTarget, s!"Registering script module factory: {Log.escape name}"⟩]

/-- The module of a name, if it declares the required hooks and was made for the revision. -/
def negotiate {σ : Type} (c : ModuleCatalog σ) (name revision : String) :
    Except ModuleError (Module σ) :=
  match OrderedMap.get? c name with
  | none => .error (.notFound name)
  | some m =>
    if m.manifest.hooks.missing ≠ [] then .error (.wrongApi m.manifest.hooks.missing)
    else if m.manifest.revision ≠ revision then .error (.outdated revision m.manifest.revision)
    else .ok m

theorem negotiate_eq_ok_iff {σ : Type} {c : ModuleCatalog σ} {name revision : String}
    {m : Module σ} :
    c.negotiate name revision = .ok m ↔ OrderedMap.get? c name = some m ∧
      (∀ h ∈ Hook.required, m.manifest.hooks.contains h = true) ∧
      m.manifest.revision = revision := by
  rw [← HookSet.missing_eq_nil_iff]
  unfold negotiate
  split
  · next hget => simp [hget]
  · next found hget =>
    rw [hget, Option.some.injEq]
    split
    · next hmissing =>
      refine iff_of_false nofun ?_
      rintro ⟨rfl, hnone, -⟩
      exact hmissing hnone
    · next hmissing =>
      split
      · next hrevision =>
        refine iff_of_false nofun ?_
        rintro ⟨rfl, -, hsame⟩
        exact hrevision hsame
      · next hrevision =>
        constructor
        · rintro ⟨⟩
          exact ⟨rfl, Decidable.not_not.mp hmissing, Decidable.not_not.mp hrevision⟩
        · rintro ⟨rfl, -, -⟩
          rfl

end ModuleCatalog

end RegionScript
