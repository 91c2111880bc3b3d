import RegionScript.Object.GameObject

/-!
What can be observed in a region, in the order in which it happened.
-/

namespace RegionScript

/-- Who hears a sound. -/
inductive SoundScope where
  /-- Everyone around the source, or one player. -/
  | direct (listener : Option Guid)
  /-- As `direct`, fading with distance. -/
  | distance (listener : Option Guid)
  | map
  | zone (zone : UInt32)
  deriving DecidableEq

inductive WorldEvent where
  | text (source : Guid) (target : Option Guid) (text : Int32)
  | emote (source : Guid) (emote : UInt32)
  | facingSet (guid : Guid) (orientation : Single)
  | movedTo (guid : Guid) (destination : Position) (speed : Option Single)
  | nearTeleport (guid : Guid) (destination : Position)
  | teleported (guid : Guid) (map : UInt32) (destination : Position)
  | questExplored (player : Guid) (quest : UInt32)
  | questFailed (player : Guid) (quest : UInt32)
  | killCredit (player : Guid) (entry : UInt32)
  | respawned (guid : Guid) (seconds : UInt32)
  | despawned (guid : Guid)
  | summoned (guid : Guid) (entry : UInt32) (summoner : Guid)
  | doorOrButtonUsed (guid : Guid) (state : UseState)
  | gameObjectUsed (guid user : Guid)
  | auraRemoved (guid : Guid) (spell : UInt32)
  | spellCast (caster target : Guid) (spell : UInt32) (triggered : Bool)
      (firstCaster : Option Guid)
  | sound (source : Guid) (sound : UInt32) (scope : SoundScope)
  | itemCreated (player : Guid) (item amount : UInt32)
  | attackStarted (attacker victim : Guid)
  | taxiStarted (player : Guid) (path : UInt32)
  deriving DecidableEq

end RegionScript
