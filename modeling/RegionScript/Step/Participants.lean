import RegionScript.Log
import RegionScript.Region.Search
import RegionScript.Step.Error

/-!
Who a step acts on.

A script is started with a source and a target, either of which may be missing or gone by the time a
step runs. A step may ask for a buddy, which is named by its spawn guid or is the nearest object of
an entry around the source. The buddy takes the place of the source, or of the target; then the two
may be exchanged, and at last the source may become its own target.
-/

namespace RegionScript

/-- The objects of one step. -/
structure Participants where
  source : Option Guid
  target : Option Guid
  /-- The source, or the item that started the script when there is no source. -/
  sourceOrItem : Option Guid
  deriving DecidableEq

/-- A buddy that was found. -/
inductive Buddy where
  | other (guid : Guid)
  /-- No other object of the entry is near, but the searcher itself is of that entry. -/
  | searcher (guid : Guid)
  deriving DecidableEq

def Buddy.guid : Buddy → Guid
  | other g | searcher g => g

/-- Around whom to search: the source or else the target, but rather a target that is no player than
a source that is one. -/
def searcher? (source target : Option Guid) : Option Guid :=
  match source.or target with
  | none => none
  | some s => if s.isPlayer then (target.filter (!·.isPlayer)).or (some s) else some s

namespace Command

/-- The buddy that is named by its spawn guid. -/
def buddyByGuid (c : Command) (region : Region) : Except StepError Buddy :=
  let missing := StepError.buddyNotLoaded c.buddyEntry c.buddyRadius region.id
  if c.isCreatureBuddy then
    let g := Guid.creature c.buddyEntry c.buddyRadius
    match region.creature? g with
    | none => .error missing
    | some creature =>
      if creature.unit.alive then .ok (.other g)
      else .error (.buddyDead c.buddyEntry c.buddyRadius)
  else
    match region.gameObject? (.gameObject c.buddyEntry c.buddyRadius) with
    | none => .error missing
    | some o => .ok (.other o.guid)

/-- Pets are seen only by those who ask for one. -/
def searchScope (c : Command) : SearchScope := if c.flags.buddyIsPet then .world else .grid

/-- The nearest buddy around a searcher. -/
def nearestBuddy (c : Command) (region : Region) (searcher : Guid) : Option Guid :=
  let radius := Single.ofUInt32 c.buddyRadius
  if c.isCreatureBuddy then region.nearestCreature searcher c.buddyEntry radius c.searchScope
  else region.nearestGameObject searcher c.buddyEntry radius

/-- Whether a searcher may stand in for the creature that it looks for. -/
def isOwnBuddy (c : Command) (region : Region) (searcher : Guid) : Bool :=
  c.isCreatureBuddy && (region.object? searcher).map Object.entry = some c.buddyEntry

/-- The buddy that is looked for by its entry. -/
def buddyByEntry (c : Command) (region : Region) (source target : Option Guid) :
    Except StepError Buddy :=
  match searcher? source target with
  | none => .error (.noSearcher c.buddyEntry)
  | some s =>
    match c.nearestBuddy region s with
    | some g => .ok (.other g)
    | none =>
      if c.isOwnBuddy region s then .ok (.searcher s)
      else .error (.buddyNotFound c.buddyEntry c.buddyRadius s)

/-- The buddy of a step, if it asks for one. -/
def buddy? (c : Command) (region : Region) (source target : Option Guid) :
    Except StepError (Option Buddy) :=
  if c.buddyEntry = 0 then .ok none
  else if c.flags.buddyByGuid then (c.buddyByGuid region).map some
  else (c.buddyByEntry region source target).map some

/-- What is logged when a searcher had to stand in for its buddy. -/
def buddyLog (c : Command) (region : Region) (source target : Option Guid) : List LogLine :=
  match c.buddy? region source target with
  | .ok (some (.searcher _)) =>
    [⟨.error, "db_scripts::exec",
      s!"Script id {c.id}, command {c.kind.describe} has no OTHER buddy {c.buddyEntry} found "
        ++ "- maybe you need to update the script?"⟩]
  | _ => []

end Command

namespace StepFlags

/-- Puts a buddy in the place of source or target. -/
def place (f : StepFlags) (buddy source target : Option Guid) : Option Guid × Option Guid :=
  if f.buddyAsTarget then (source, buddy) else (buddy.or source, target)

/-- Exchanges source and target if the direction is reversed. -/
def orient (f : StepFlags) (p : Option Guid × Option Guid) : Option Guid × Option Guid :=
  if f.reverseDirection then (p.2, p.1) else p

/-- Makes the source its own target if it targets itself. -/
def selfTarget (f : StepFlags) (p : Option Guid × Option Guid) : Option Guid × Option Guid :=
  if f.targetsSelf then (p.1, p.1) else p

/-- All three, in this order. -/
def wire (f : StepFlags) (buddy source target : Option Guid) : Option Guid × Option Guid :=
  f.selfTarget (f.orient (f.place buddy source target))

end StepFlags

namespace Command

/-- The source and the target of a step, given those that the script was started with. -/
def sourceAndTarget (c : Command) (region : Region) (source target : Option Guid) :
    Except StepError (Option Guid × Option Guid) :=
  (c.buddy? region source target).map fun buddy => c.flags.wire (buddy.map Buddy.guid) source target

/-- The live object that started a script. An item counts while its owner is here. -/
def starter? (region : Region) (source : Option Guid) : Option Object :=
  (source.bind region.object?).filter fun
    | .item i => region.players.contains i.owner
    | _ => true

/-- The live object that a script was started on; an item cannot be. -/
def goal? (region : Region) (target : Option Guid) : Except StepError (Option Object) :=
  match target with
  | none => .ok none
  | some g => if g.isItem then .error (.unsupportedGuid g) else .ok (region.object? g)

/-- The guid of an object in the world; items are none. -/
def worldGuid? (o : Option Object) : Option Guid := (o.filter Object.isWorldObject).map Object.guid

/-- The objects of a step whose script was started with the given source and target. -/
def participants (c : Command) (region : Region) (source target : Option Guid) :
    Except StepError Participants :=
  match goal? region target with
  | .error e => .error e
  | .ok goal =>
    let starter := starter? region source
    (c.sourceAndTarget region (worldGuid? starter) (worldGuid? goal)).map fun p =>
      { source := p.1
        target := p.2
        sourceOrItem := p.1.or ((starter.filter (!·.isWorldObject)).map Object.guid) }

/-- What is logged while the participants are found. -/
def participantsLog (c : Command) (region : Region) (source target : Option Guid) : List LogLine :=
  match goal? region target with
  | .error _ => []
  | .ok goal => c.buddyLog region (worldGuid? (starter? region source)) (worldGuid? goal)

end Command

end RegionScript
