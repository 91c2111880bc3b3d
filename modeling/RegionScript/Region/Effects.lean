import RegionScript.Catalog.Basic
import RegionScript.Region.Basic

/-!
What scripts and the world do to a region's objects, each effect with the event it leaves in the
log.

An effect on an object that is not here is none, so that callers decide what its absence means.
-/

namespace RegionScript.Region

/-- Toggles a door or button. With a reset time its earlier state comes back after that many
seconds; without one a pending reset is forgotten. -/
def useDoor? (r : Region) (g : Guid) (reset : UInt32) : Option Region :=
  (r.gameObject? g).map fun door =>
    let state := door.state.toggle
    let pending : Option Reset :=
      if reset = 0 then none else some ⟨r.now + Clock.seconds reset, door.state⟩
    (r.modifyGameObject g fun o => { o with state, reset := pending }).record
      (.doorOrButtonUsed g state)

/-- `useDoor?`, leaving the region as it is when there is no such object. -/
def useDoor (r : Region) (g : Guid) (reset : UInt32) : Region := (r.useDoor? g reset).getD r

/-- Use of a game object by a unit; doors and buttons toggle for good. -/
def useGameObject? (r : Region) (g user : Guid) : Option Region :=
  (r.gameObject? g).map fun o =>
    let r := if o.type = .door ∨ o.type = .button then r.useDoor g 0 else r
    r.record (.gameObjectUsed g user)

/-- Spawns a game object for a number of seconds. -/
def respawn? (r : Region) (g : Guid) (seconds : UInt32) : Option Region :=
  (r.gameObject? g).map fun _ =>
    (r.modifyGameObject g fun o =>
      { o with spawned := true, despawnAt := some (r.now + Clock.seconds seconds) }).record
      (.respawned g seconds)

/-- Removes a creature, at once or when a delay in milliseconds has passed. -/
def despawn? (r : Region) (g : Guid) (delay : UInt32) : Option Region :=
  (r.creature? g).map fun _ =>
    if delay = 0 then { r with creatures := r.creatures.erase g }.record (.despawned g)
    else r.modifyCreature g fun c => { c with despawnAt := some (r.now + delay.toUInt64) }

/-- Summons a creature of a template under a fresh counter. -/
def summon (r : Region) (t : CreatureTemplate) (position : Position) (despawn : SummonDespawn)
    (active : Bool) (summoner : Guid) : Guid × Region :=
  let g := Guid.creature t.entry r.nextSummon
  let despawnAt : Option UInt64 :=
    match despawn with
    | .onDeath => none
    | .timedOrDead delay => some (r.now + delay.toUInt64)
  let c : Creature := { Creature.spawn g position t.faction t.chooseDisplay with
    active, summoned := some despawn, despawnAt }
  (g, ({ r with nextSummon := r.nextSummon + 1 }.addCreature c).record
    (.summoned g t.entry summoner))

/-- Casts a spell; a unit holds the aura of every spell cast on it. -/
def castSpell (r : Region) (caster target : Guid) (spell : UInt32) (triggered : Bool)
    (firstCaster : Option Guid) : Region :=
  (r.modifyUnit target (·.addAura spell)).record
    (.spellCast caster target spell triggered firstCaster)

/-- Sends a player to a place on a map. -/
def teleport? (r : Region) (g : Guid) (map : UInt32) (destination : Position) : Option Region :=
  (r.player? g).map fun _ =>
    (r.modifyPlayer g fun p =>
      { p with map, unit := { p.unit with position := destination } }).record
      (.teleported g map destination)

/-- Credits a kill to one player, if present. -/
def creditPlayer (r : Region) (entry : UInt32) (source : Option Guid) (g : Guid) : Region :=
  if r.players.contains g then
    (r.modifyPlayer g fun p => { p with killCredits := p.killCredits ++ [⟨entry, source⟩] }).record
      (.killCredit g entry)
  else r

/-- Credits a kill to a player, or to every member of the player's group. -/
def creditKill (r : Region) (player : Guid) (entry : UInt32) (source : Option Guid) (group : Bool) :
    Region :=
  (if group then r.groupMembers player else [player]).foldl (·.creditPlayer entry source) r

/-- Fails a player's quest with its event; none when the quest is not open. -/
def failQuest? (r : Region) (g : Guid) (quest : UInt32) : Option Region :=
  ((r.player? g).bind (·.failQuest? quest)).map fun p =>
    (r.modifyPlayer g fun _ => p).record (.questFailed g quest)

/-- Completes a player's quest with its event; none when the quest is not incomplete. -/
def exploreQuest? (r : Region) (g : Guid) (quest : UInt32) : Option Region :=
  ((r.player? g).bind (·.explore? quest)).map fun p =>
    (r.modifyPlayer g fun _ => p).record (.questExplored g quest)

section

variable {r r' : Region} {g : Guid} {quest : UInt32}

/-- A quest fails in the log of a player who is here and has it open. -/
theorem failQuest?_eq_some_iff : r.failQuest? g quest = some r' ↔
    ∃ p, r.player? g = some p ∧
      (p.questStatus quest = some .incomplete ∨ p.questStatus quest = some .complete) ∧
      (r.modifyPlayer g fun _ => { p with quests := p.quests.insert quest .failed }).record
        (.questFailed g quest) = r' := by
  unfold failQuest? Player.failQuest?
  cases r.player? g with
  | none => simp
  | some p => simp

/-- A quest completes in the log of a player who is here and has it incomplete. -/
theorem exploreQuest?_eq_some_iff : r.exploreQuest? g quest = some r' ↔
    ∃ p, r.player? g = some p ∧ p.questStatus quest = some .incomplete ∧
      (r.modifyPlayer g fun _ => { p with quests := p.quests.insert quest .complete }).record
        (.questExplored g quest) = r' := by
  unfold exploreQuest? Player.explore?
  cases r.player? g with
  | none => simp
  | some p => simp

end

end RegionScript.Region
