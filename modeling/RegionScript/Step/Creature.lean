import RegionScript.Step.Basic

/-!
Steps that make creatures appear, disappear, change their looks or fight.
-/

namespace RegionScript.Step

/-- Summons a creature at the command's position. With a delay it leaves after that time. -/
def tempSummonCreature (ctx : StepContext) (r : Region) (c : Command) (p : Participants)
    (entry delay : UInt32) : StepResult :=
  require r p.source .noSource fun summoner =>
  require r (ctx.catalog.creatureTemplates.get? entry) (.summonFailed entry) fun t =>
  let despawn : SummonDespawn := if delay = 0 then .onDeath else .timedOrDead delay
  applied (r.summon t c.position despawn c.flags.additional summoner).2

/-- Whether only the source, and not the target, is a creature. -/
def onlySourceIsCreature (p : Participants) : Bool :=
  p.target.isSome && (p.target.filter Guid.isCreature).isNone && p.sourceCreature?.isSome

/-- Removes the target, or the source when only it is a creature. -/
def despawnSelf (ctx : StepContext) (r : Region) (c : Command) (p : Participants)
    (delay : UInt32) : StepResult :=
  let victim := if onlySourceIsCreature p then p.source else p.target
  let result := require r (victim.filter Guid.isCreature) .notCreature fun g =>
    applied ((r.despawn? g delay).getD r)
  let log :=
    if onlySourceIsCreature p then
      [ctx.complaint c
        " target must be creature, but (only) source is, use data_flags to fix"]
    else []
  { result with log }

def setActiveObject (r : Region) (p : Participants) (active : Bool) : StepResult :=
  require r p.sourceCreature? .notCreature fun g =>
  applied (r.modifyCreature g fun x => { x with active })

/-- Gives a creature another faction for a while; zero ends that. -/
def setFaction (r : Region) (p : Participants) (faction flags : UInt32) : StepResult :=
  require r p.sourceCreature? .notCreature fun g =>
  let temporaryFaction : Option TemporaryFaction :=
    if faction = 0 then none else some { faction, flags }
  applied (r.modifyCreature g fun x => { x with temporaryFaction })

/-- The display that a number asks for: itself if the command is additional, and that of a template
otherwise. Zero asks for none. -/
def displayFor (catalog : Catalog) (c : Command) (value : UInt32) :
    Except StepError (Option UInt32) :=
  if value = 0 then .ok none
  else if c.flags.additional then .ok (some value)
  else
    match catalog.creatureTemplates.get? value with
    | some t => .ok (some t.chooseDisplay)
    | none => .error (.unknownTemplate value)

/-- Changes the looks of a creature; zero gives its own back. -/
def morph (ctx : StepContext) (r : Region) (c : Command) (p : Participants) (value : UInt32) :
    StepResult :=
  require r p.sourceCreature? .notCreature fun g =>
  attempt r (displayFor ctx.catalog c value) fun display =>
  applied (r.modifyCreature g fun x => { x with display := display.getD x.nativeDisplay })

/-- Mounts a creature; zero dismounts it. -/
def mount (ctx : StepContext) (r : Region) (c : Command) (p : Participants) (value : UInt32) :
    StepResult :=
  require r p.sourceCreature? .notCreature fun g =>
  attempt r (displayFor ctx.catalog c value) fun display =>
  applied (r.modifyCreature g fun x => { x with mountDisplay := display })

/-- The faction that a unit shows. -/
def factionOf? (r : Region) (g : Guid) : Option UInt32 :=
  match r.object? g with
  | some (.creature c) => some c.effectiveFaction
  | some (.player p) => some p.unit.faction
  | _ => none

/-- Whether a faction is friendly to another; of an unknown faction only its own members are. -/
def isFriendly (catalog : Catalog) (attacker victim : UInt32) : Bool :=
  match catalog.factions.get? attacker with
  | some f => f.isFriendlyTo victim
  | none => attacker = victim

/-- Lets a creature attack a unit to which it is not friendly. -/
def attackStart (ctx : StepContext) (r : Region) (p : Participants) : StepResult :=
  require r p.sourceCreature? .notCreature fun attacker =>
  require r p.targetUnit? .notUnit fun victim =>
  require r (r.creature? attacker) .notCreature fun a =>
  require r (factionOf? r victim) .notUnit fun faction =>
  demand r (!isFriendly ctx.catalog a.effectiveFaction faction) (.friendlyTarget attacker victim) <|
  applied <| (r.modifyCreature attacker fun x => { x with victim := some victim }).record
    (.attackStarted attacker victim)

/-- Takes the auras of a spell off a unit. -/
def removeAura (r : Region) (p : Participants) (spell : UInt32) : StepResult :=
  require r p.sourceUnit? .notUnit fun actor =>
  match r.unit? actor with
  | some unit =>
    if unit.hasAura spell then
      applied ((r.modifyUnit actor (·.removeAura spell)).record (.auraRemoved actor spell))
    else applied r
  | none => applied r

/-- Casts a spell on the target. A game object as source lets the target cast on itself. -/
def castSpell (r : Region) (c : Command) (p : Participants) (spell : UInt32) : StepResult :=
  require r p.targetUnit? .notUnit fun victim =>
  match p.sourceGameObject? with
  | some o => applied (r.castSpell victim victim spell true (some o))
  | none =>
    require r p.sourceUnit? .notUnit fun caster =>
    applied (r.castSpell caster victim spell c.flags.additional none)

end RegionScript.Step
