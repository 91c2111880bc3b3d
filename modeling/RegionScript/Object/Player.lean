import RegionScript.OrderedMap
import RegionScript.Object.Fields
import RegionScript.Object.Unit

/-!
Players and their quest logs.

A quest moves from incomplete to complete, and from either to failed; a failed or rewarded quest
stays.
-/

namespace RegionScript

inductive QuestStatus where
  | incomplete
  | complete
  | failed
  | rewarded
  deriving DecidableEq, Repr

/-- Credit for a kill, and the creature it came from. -/
structure KillCredit where
  entry : UInt32
  source : Option Guid
  deriving DecidableEq

/-- A player; `map` is where the player was last sent, which may be another region's map. -/
structure Player where
  guid : Guid
  name : String
  unit : UnitState
  fields : Fields := .zeros Fields.playerEnd
  level : UInt8 := 1
  zone : UInt32 := 0
  quests : OrderedMap UInt32 QuestStatus := ∅
  group : Option UInt32 := none
  battleground : Option UInt32 := none
  inventory : OrderedMap UInt32 UInt32 := ∅
  killCredits : List KillCredit := []
  taxiPath : Option UInt32 := none
  map : UInt32
  deriving DecidableEq

namespace Player

/-- A player of level one with an empty log and empty bags. -/
def new (counter : UInt32) (name : String) (position : Position) (map : UInt32) : Player :=
  { guid := .player counter, name, unit := { position, faction := 0 }, map }

def questStatus (p : Player) (quest : UInt32) : Option QuestStatus := p.quests.get? quest

/-- Completes an incomplete quest; none when the quest is not incomplete. -/
def explore? (p : Player) (quest : UInt32) : Option Player :=
  if p.questStatus quest = some .incomplete then
    some { p with quests := p.quests.insert quest .complete }
  else none

/-- Fails an open quest; none when the quest is not open. -/
def failQuest? (p : Player) (quest : UInt32) : Option Player :=
  if p.questStatus quest = some .incomplete ∨ p.questStatus quest = some .complete then
    some { p with quests := p.quests.insert quest .failed }
  else none

/-- How many of an item the bags hold. -/
def itemCount (p : Player) (item : UInt32) : UInt32 := (p.inventory.get? item).getD 0

/-- Puts `amount` more of an item into the bags. -/
def addItems (p : Player) (item amount : UInt32) : Player :=
  { p with inventory := p.inventory.insert item (p.itemCount item + amount) }

def xpDisabled (p : Player) : Bool := p.fields.hasFlag Fields.playerFlags Fields.xpDisabledFlag

end Player

end RegionScript
