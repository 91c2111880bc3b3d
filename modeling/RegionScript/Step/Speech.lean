import RegionScript.Step.Basic

/-!
Steps that are heard or seen: texts, emotes and sounds.
-/

namespace RegionScript.Step

/-- Says one of the texts that are set. A whisper needs a player to hear it. -/
def talk (ctx : StepContext) (r : Region) (c : Command) (p : Participants) : StepResult :=
  require r p.source .noSource fun speaker =>
  let text := (ctx.pick c.populatedTexts).getD c.firstText
  require r (ctx.catalog.texts.get? text) (.textNotDisplayed text) fun t =>
  demand r (!t.chatType.needsPlayerTarget || (p.target.filter Guid.isPlayer).isSome)
    (.textNotDisplayed text) <|
  applied (r.record (.text speaker p.targetUnit? text))

/-- Plays the emote or one of its alternatives. -/
def emote (ctx : StepContext) (r : Region) (c : Command) (p : Participants) (emote : UInt32) :
    StepResult :=
  require r p.sourceUnit? .notUnit fun actor =>
  applied (r.record (.emote actor ((ctx.pick (emote :: c.emoteAlternatives)).getD emote)))

/-- The zone of a player or game object; zero when it has none. -/
def zoneOf (r : Region) (g : Guid) : UInt32 :=
  match r.object? g with
  | some (.player p) => p.zone
  | some (.gameObject o) => o.zone
  | _ => 0

/-- Who hears a sound with the given flags; a zone-wide sound outside any zone is heard map-wide. -/
def soundScope (r : Region) (emitter : Guid) (flags : UInt32) (listener : Option Guid) :
    SoundScope :=
  if flags &&& SoundFlag.distance ≠ 0 then .distance listener
  else if flags &&& (SoundFlag.mapWide ||| SoundFlag.zoneWide) ≠ 0 then
    let zone := zoneOf r emitter
    if flags &&& SoundFlag.zoneWide ≠ 0 ∧ zone ≠ 0 then .zone zone else .map
  else .direct listener

/-- Plays a sound, to a player only if the flags say so. -/
def playSound (r : Region) (p : Participants) (sound flags : UInt32) : StepResult :=
  require r p.source .noSource fun emitter =>
  let personal : Bool := flags &&& SoundFlag.targetPlayer ≠ 0
  demand r (!personal || p.player?.isSome) .notPlayer <|
  let listener := if personal then p.player? else none
  applied (r.record (.sound emitter sound (soundScope r emitter flags listener)))

end RegionScript.Step
