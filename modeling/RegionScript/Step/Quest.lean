import RegionScript.Step.Basic

/-!
Steps that reward players: explored quests, kill credit and items.
-/

namespace RegionScript.Step

/-- Whether an exploration fails: the anchor is a dead creature, or the player is not within the
distance of it. Without a distance only the anchor's life counts. -/
def explorationFails (r : Region) (anchor : Option Object) (player : Guid) (distance : UInt32) :
    Bool :=
  match anchor with
  | none => false
  | some o =>
    let dead := match o with
      | .creature c => !c.unit.alive
      | _ => false
    let isNear := match r.object? player with
      | some explorer => o.isWithin explorer (.ofUInt32 distance)
      | none => false
    dead || (distance ≠ 0 && !isNear)

/-- Completes a quest for a player, or fails it when the exploration fails. -/
def questExplored (r : Region) (p : Participants) (quest distance : UInt32) : StepResult :=
  require r p.player? .notPlayer fun player =>
  let anchor := p.anchor?.bind r.object?
  demand r (distance = 0 || anchor.isSome) .noWorldObject <|
  demand r (r.players.contains player) .notPlayer <|
  if explorationFails r anchor player distance then applied ((r.failQuest? player quest).getD r)
  else applied ((r.exploreQuest? player quest).getD r)

/-- Whose death is credited: the given entry, or that of a creature taking part. -/
def creditEntry (p : Participants) (entry : UInt32) : Option UInt32 :=
  if entry = 0 then p.creature?.map Guid.entry else some entry

/-- Credits a kill to a player or to the player's group. -/
def killCredit (r : Region) (p : Participants) (entry : UInt32) (group : Bool) : StepResult :=
  require r p.player? .notPlayer fun player =>
  require r (creditEntry p entry) .noCreditSource fun entry =>
  let source := if group then p.creature?.or (p.source.or p.target) else p.creature?
  applied (r.creditKill player entry source group)

/-- Puts items into a player's bags; nothing happens when the player is gone. -/
def createItem (r : Region) (p : Participants) (item amount : UInt32) : StepResult :=
  require r p.player? .notPlayer fun player =>
  if r.players.contains player then
    applied <| (r.modifyPlayer player (·.addItems item amount)).record
      (.itemCreated player item amount)
  else applied r

end RegionScript.Step
