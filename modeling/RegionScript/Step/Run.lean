import RegionScript.Step.Creature
import RegionScript.Step.Fields
import RegionScript.Step.GameObject
import RegionScript.Step.Movement
import RegionScript.Step.Quest
import RegionScript.Step.Speech
import RegionScript.Step.Terminate

/-!
Running one step: its participants are found, then its command is applied to the region.
-/

namespace RegionScript.Step

/-- Applies a command to its participants. -/
def apply (ctx : StepContext) (r : Region) (c : Command) (p : Participants) : StepResult :=
  match c.payload with
  | .talk => talk ctx r c p
  | .emote e => emote ctx r c p e
  | .fieldSet field value => fieldSet r p field value
  | .moveTo speed => moveTo r c p speed
  | .flagSet field flag => flagSet r p field flag
  | .flagRemove field flag => flagRemove r p field flag
  | .teleportTo map => teleportTo r c p map
  | .questExplored quest distance => questExplored r p quest distance
  | .killCredit entry group => killCredit r p entry group
  | .respawnGameObject spawn delay => respawnGameObject ctx r c p spawn delay
  | .tempSummonCreature entry delay => tempSummonCreature ctx r c p entry delay
  | .openDoor spawn delay => useDoor ctx r c p .active spawn delay
  | .closeDoor spawn delay => useDoor ctx r c p .ready spawn delay
  | .activateObject => activateObject r p
  | .removeAura spell => removeAura r p spell
  | .castSpell spell => castSpell r c p spell
  | .playSound sound flags => playSound r p sound flags
  | .createItem item amount => createItem r p item amount
  | .despawnSelf delay => despawnSelf ctx r c p delay
  | .playMovie _ => fail r (.unsupported (UInt32.ofNat c.kind.number))
  | .movement motion distance => movement r c p motion distance
  | .setActiveObject active => setActiveObject r p active
  | .setFaction faction flags => setFaction r p faction flags
  | .morphToEntryOrModel value => morph ctx r c p value
  | .mountToEntryOrModel value => mount ctx r c p value
  | .setRun run => setRun r p run
  | .attackStart => attackStart ctx r p
  | .goLockState state => goLockState r p state
  | .standState state => standState r p state
  | .modifyNpcFlags flags change => modifyNpcFlags r p flags change
  | .sendTaxiPath path => sendTaxiPath r p path
  | .terminateScript entry distance => terminateScript ctx r c p entry distance
  | .pauseWaypoints pause => pauseWaypoints r p pause
  | .xpUser disable => xpUser r p disable
  | .terminateCondition condition quest => terminateCondition ctx r c p condition quest

/-- Runs a step of a script that was started with the given source and target. -/
def run (ctx : StepContext) (r : Region) (c : Command) (source target : Option Guid) :
    StepResult :=
  let result := attempt r (c.participants r source target) fun p => apply ctx r c p
  { result with log := c.participantsLog r source target ++ result.log }

section

variable {ctx : StepContext} {r : Region} {c : Command} {source target : Option Guid}

/-- A step whose participants are found applies its command to them. -/
theorem run_eq_of_found {p : Participants} (h : c.participants r source target = .ok p) :
    run ctx r c source target =
      { apply ctx r c p with
        log := c.participantsLog r source target ++ (apply ctx r c p).log } := by
  rw [run, h]
  rfl

/-- A step whose participants are not found does nothing. -/
theorem run_eq_of_lost {e : StepError} (h : c.participants r source target = .error e) :
    run ctx r c source target = { fail r e with log := c.participantsLog r source target } := by
  rw [run, h]
  show StepResult.mk _ _ (_ ++ []) = _
  rw [List.append_nil]
  rfl

end

end RegionScript.Step
