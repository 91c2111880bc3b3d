import RegionScript.Region.Basic

/-!
The passing of time.

When the clock moves on, used doors go back to their earlier state, respawned objects and creatures
whose time has come leave, and so do summoned creatures that died. All of it happens in one sweep,
objects before creatures, each in the order of guids.
-/

namespace RegionScript

/-- Whether a time that may be set has come. -/
def isDue (time : Option UInt64) (now : UInt64) : Bool :=
  match time with
  | some t => t ≤ now
  | none => false

namespace GameObject

/-- Fires a due reset. -/
def fireReset (o : GameObject) (now : UInt64) : GameObject × List WorldEvent :=
  match o.reset with
  | none => (o, [])
  | some reset =>
    if reset.due ≤ now then
      ({ o with state := reset.restore, reset := none }, [.doorOrButtonUsed o.guid reset.restore])
    else (o, [])

/-- Fires a due despawn. -/
def fireDespawn (o : GameObject) (now : UInt64) : GameObject × List WorldEvent :=
  if isDue o.despawnAt now then
    ({ o with spawned := false, despawnAt := none }, [.despawned o.guid])
  else (o, [])

/-- Fires what came due: the reset first, then the despawn. -/
def fire (o : GameObject) (now : UInt64) : GameObject × List WorldEvent :=
  let (o, reset) := o.fireReset now
  let (o, despawn) := o.fireDespawn now
  (o, reset ++ despawn)

end GameObject

/-- A creature leaves at its despawn time; a summoned one also when it is dead. -/
def Creature.leaves (c : Creature) (now : UInt64) : Bool :=
  isDue c.despawnAt now || (c.summoned.isSome && !c.unit.alive)

namespace Region

/-- The guids that the creatures go by that leave at a time. -/
def leaving (r : Region) (now : UInt64) : List Guid :=
  (r.creatures.values.filter (·.leaves now)).map (·.guid)

/-- Moves the clock on and fires everything that came due. -/
def advance (r : Region) (elapsed : UInt64) : Region :=
  let now := r.now + elapsed
  { r with
    now
    gameObjects := r.gameObjects.map fun _ o => (o.fire now).1
    creatures := r.creatures.eraseAll (r.leaving now)
    events := r.events
      ++ r.gameObjects.values.flatMap (fun o => (o.fire now).2)
      ++ (r.leaving now).map .despawned }

end Region

end RegionScript
