import RegionScript.OrderedMap.Lemmas
import RegionScript.Region.Effects

/-!
What the effects on a region leave alone.

`Frame` lists it: the clock, the groups and the schedule stay, the log only grows, nobody but a
creature comes or goes, and a player stays who the player is. Every effect keeps to it, and so does
every effect after another.
-/

namespace RegionScript

/-- Level, zone, group and battleground of a player. -/
def Player.standing (p : Player) : UInt8 × UInt32 × Option UInt32 × Option UInt32 :=
  (p.level, p.zone, p.group, p.battleground)

namespace Region

/-- What stays between two states of a region; of the creatures only those that are `mobile` may
come or go. -/
structure Frame (mobile : Guid → Prop) (r r' : Region) : Prop where
  id : r'.id = r.id
  battleground : r'.battleground = r.battleground
  now : r'.now = r.now
  groups : r'.groups = r.groups
  schedule : r'.schedule = r.schedule
  events : r.events <+: r'.events
  standing : ∀ g, (r'.player? g).map Player.standing = (r.player? g).map Player.standing
  gameObjects : ∀ g, r'.gameObjects.contains g = r.gameObjects.contains g
  corpses : ∀ g, r'.corpses.contains g = r.corpses.contains g
  items : ∀ g, r'.items.contains g = r.items.contains g
  creatures : ∀ g, ¬ mobile g → r'.creatures.contains g = r.creatures.contains g

namespace Frame

variable {mobile : Guid → Prop} {r r' r'' : Region}

theorem refl (mobile : Guid → Prop) (r : Region) : r.Frame mobile r where
  id := rfl
  battleground := rfl
  now := rfl
  groups := rfl
  schedule := rfl
  events := List.prefix_refl _
  standing _ := rfl
  gameObjects _ := rfl
  corpses _ := rfl
  items _ := rfl
  creatures _ _ := rfl

theorem trans (h : r.Frame mobile r') (h' : r'.Frame mobile r'') : r.Frame mobile r'' where
  id := h'.id.trans h.id
  battleground := h'.battleground.trans h.battleground
  now := h'.now.trans h.now
  groups := h'.groups.trans h.groups
  schedule := h'.schedule.trans h.schedule
  events := h.events.trans h'.events
  standing g := (h'.standing g).trans (h.standing g)
  gameObjects g := (h'.gameObjects g).trans (h.gameObjects g)
  corpses g := (h'.corpses g).trans (h.corpses g)
  items g := (h'.items g).trans (h.items g)
  creatures g hg := (h'.creatures g hg).trans (h.creatures g hg)

/-- More creatures may be mobile. -/
theorem mono {mobile' : Guid → Prop} (h : r.Frame mobile r') (hle : ∀ g, mobile g → mobile' g) :
    r.Frame mobile' r' :=
  { h with creatures := fun g hg => h.creatures g fun hm => hg (hle g hm) }

/-- An effect that may find nothing to work on. -/
theorem getD {effect : Option Region} (h : ∀ r', effect = some r' → r.Frame mobile r') :
    r.Frame mobile (effect.getD r) := by
  cases heffect : effect with
  | none => exact refl mobile r
  | some r' => exact h r' heffect

/-- One effect after another. -/
theorem foldl {α : Type} {f : Region → α → Region}
    (hf : ∀ (r : Region) (a : α), r.Frame mobile (f r a)) (l : List α) (r : Region) :
    r.Frame mobile (l.foldl f r) := by
  induction l generalizing r with
  | nil => exact refl mobile r
  | cons a rest ih => exact (hf r a).trans (ih (f r a))

/-! ### Changing objects -/

theorem record (h : r.Frame mobile r') (e : WorldEvent) : r.Frame mobile (r'.record e) :=
  h.trans { refl mobile r' with events := List.prefix_append .. }

theorem modifyCreature (r : Region) (g : Guid) (f : Creature → Creature) :
    r.Frame mobile (r.modifyCreature g f) :=
  { refl mobile r with creatures := fun j _ => OrderedMap.contains_modify r.creatures j g f }

theorem modifyPlayer {g : Guid} {f : Player → Player}
    (hf : ∀ p, r.player? g = some p → (f p).standing = p.standing) :
    r.Frame mobile (r.modifyPlayer g f) := by
  refine { refl mobile r with standing := fun j => ?_ }
  show ((r.players.modify g f).get? j).map _ = (r.players.get? j).map _
  rw [OrderedMap.get?_modify]
  split
  · next hj =>
    subst hj
    cases hp : r.players.get? j with
    | none => rfl
    | some p => exact congrArg some (hf p hp)
  · rfl

theorem modifyGameObject (r : Region) (g : Guid) (f : GameObject → GameObject) :
    r.Frame mobile (r.modifyGameObject g f) :=
  { refl mobile r with gameObjects := fun j => OrderedMap.contains_modify r.gameObjects j g f }

theorem modifyFields (r : Region) (g : Guid) (f : Fields → Fields) :
    r.Frame mobile (r.modifyFields g f) := by
  unfold Region.modifyFields
  cases g.kind with
  | creature => exact modifyCreature r g _
  | pet => exact modifyCreature r g _
  | player => exact modifyPlayer fun _ _ => rfl
  | gameObject => exact modifyGameObject r g _
  | corpse =>
    exact { refl mobile r with corpses := fun j => OrderedMap.contains_modify r.corpses j g _ }
  | item => exact { refl mobile r with items := fun j => OrderedMap.contains_modify r.items j g _ }

theorem modifyUnit (r : Region) (g : Guid) (f : UnitState → UnitState) :
    r.Frame mobile (r.modifyUnit g f) := by
  unfold Region.modifyUnit
  split
  · exact modifyCreature r g _
  · exact modifyCreature r g _
  · exact modifyPlayer fun _ _ => rfl
  · exact refl mobile r

/-! ### Effects -/

theorem useDoor (r : Region) (g : Guid) (reset : UInt32) : r.Frame mobile (r.useDoor g reset) := by
  refine getD fun r' h => ?_
  obtain ⟨door, -, rfl⟩ := Option.map_eq_some_iff.mp h
  exact (modifyGameObject r g _).record _

theorem useGameObject? {g user : Guid} (h : r.useGameObject? g user = some r') :
    r.Frame mobile r' := by
  obtain ⟨o, -, rfl⟩ := Option.map_eq_some_iff.mp h
  refine Frame.record ?_ _
  split
  · exact useDoor r g 0
  · exact refl mobile r

theorem respawn? {g : Guid} {seconds : UInt32} (h : r.respawn? g seconds = some r') :
    r.Frame mobile r' := by
  obtain ⟨o, -, rfl⟩ := Option.map_eq_some_iff.mp h
  exact (modifyGameObject r g _).record _

/-- A creature that is removed at once is mobile. -/
theorem despawn? {g : Guid} {delay : UInt32} (hmobile : delay = 0 → mobile g)
    (h : r.despawn? g delay = some r') : r.Frame mobile r' := by
  obtain ⟨c, -, rfl⟩ := Option.map_eq_some_iff.mp h
  split
  · next hdelay =>
    have herase : r.Frame mobile { r with creatures := r.creatures.erase g } := by
      refine { refl mobile r with creatures := fun j hj => ?_ }
      refine OrderedMap.contains_erase r.creatures ?_
      rintro rfl
      exact hj (hmobile hdelay)
    exact herase.record _
  · exact modifyCreature r g _

/-- The creature that is summoned is mobile. -/
theorem summon {t : CreatureTemplate} {position : Position} {despawn : SummonDespawn}
    {active : Bool} {summoner : Guid} (hmobile : mobile (.creature t.entry r.nextSummon)) :
    r.Frame mobile (r.summon t position despawn active summoner).2 := by
  have hinsert : ∀ c : Creature, c.guid = .creature t.entry r.nextSummon →
      r.Frame mobile ({ r with nextSummon := r.nextSummon + 1 }.addCreature c) := fun c hc => by
    refine { refl mobile r with creatures := fun j hj => ?_ }
    refine OrderedMap.contains_insert r.creatures c ?_
    rintro rfl
    exact hj (hc ▸ hmobile)
  exact (hinsert _ rfl).record _

theorem castSpell (r : Region) (caster target : Guid) (spell : UInt32) (triggered : Bool)
    (firstCaster : Option Guid) :
    r.Frame mobile (r.castSpell caster target spell triggered firstCaster) :=
  (modifyUnit r target _).record _

theorem teleport? {g : Guid} {map : UInt32} {destination : Position}
    (h : r.teleport? g map destination = some r') : r.Frame mobile r' := by
  obtain ⟨p, -, rfl⟩ := Option.map_eq_some_iff.mp h
  refine Frame.record ?_ _
  exact modifyPlayer fun _ _ => rfl

theorem creditPlayer (r : Region) (entry : UInt32) (source : Option Guid) (g : Guid) :
    r.Frame mobile (r.creditPlayer entry source g) := by
  unfold Region.creditPlayer
  split
  · refine Frame.record ?_ _
    exact modifyPlayer fun _ _ => rfl
  · exact refl mobile r

theorem creditKill (r : Region) (player : Guid) (entry : UInt32) (source : Option Guid)
    (group : Bool) : r.Frame mobile (r.creditKill player entry source group) :=
  foldl (fun r g => creditPlayer r entry source g) _ r

/-! ### Quests -/

/-- A player whose quest log changed is put back in place. -/
theorem replacePlayer {g : Guid} {p p' : Player} (hp : r.player? g = some p)
    (hstanding : p'.standing = p.standing) (e : WorldEvent) :
    r.Frame mobile ((r.modifyPlayer g fun _ => p').record e) := by
  refine Frame.record (modifyPlayer fun q hq => ?_) e
  obtain rfl := Option.some.inj (hp.symm.trans hq)
  exact hstanding

theorem failQuest? {g : Guid} {quest : UInt32} (h : r.failQuest? g quest = some r') :
    r.Frame mobile r' := by
  obtain ⟨p, hp, -, rfl⟩ := failQuest?_eq_some_iff.mp h
  refine replacePlayer hp ?_ _
  rfl

theorem exploreQuest? {g : Guid} {quest : UInt32} (h : r.exploreQuest? g quest = some r') :
    r.Frame mobile r' := by
  obtain ⟨p, hp, -, rfl⟩ := exploreQuest?_eq_some_iff.mp h
  refine replacePlayer hp ?_ _
  rfl

end Frame

end Region

end RegionScript
