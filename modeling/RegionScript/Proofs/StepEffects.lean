import Mathlib.Logic.Relation
import RegionScript.Proofs.Outcomes

/-!
What a step does to its region.

`Effect` lists the ways in which a region is changed by a step, each with what it keeps of the
object that it changes and, where only some commands do it, with which. Every step is a chain of
effects of its command, possibly an empty one, so that what no effect of a command disturbs is not
disturbed by its steps.
-/

namespace RegionScript

namespace Payload

/-- The commands that write update fields. -/
def WritesFields : Payload → Prop
  | fieldSet .. | flagSet .. | flagRemove .. | goLockState _ | modifyNpcFlags .. | xpUser _ => True
  | _ => False

/-- The command that summons a creature. -/
def Summons : Payload → Prop
  | tempSummonCreature .. => True
  | _ => False

/-- The commands that change the quests of players. -/
def ChangesQuests : Payload → Prop
  | questExplored .. | terminateCondition .. => True
  | _ => False

/-- After how many milliseconds a timer is due that a command sets. -/
def timer? : Payload → Option UInt64
  | openDoor _ delay | closeDoor _ delay => some (Clock.seconds (max delay Step.minDoorReset))
  | respawnGameObject _ delay => some (Clock.seconds (max delay Step.minRespawnDelay))
  | tempSummonCreature _ delay | despawnSelf delay => some delay.toUInt64
  | _ => none

theorem Summons.exists_eq {d : Payload} (h : d.Summons) :
    ∃ entry delay, d = .tempSummonCreature entry delay := by
  cases d with
  | tempSummonCreature entry delay => exact ⟨entry, delay, rfl⟩
  | _ => exact h.elim

end Payload

namespace Step

/-- One change that a command makes to a region. -/
inductive Effect (d : Payload) (r : Region) : Region → Prop
  | record (e : WorldEvent) : Effect d r (r.record e)
  | creature (g : Guid) {f : Creature → Creature}
      (keeps : ∀ x, (f x).fields = x.fields ∧ (f x).despawnAt = x.despawnAt ∧
        (f x).guid = x.guid) :
      Effect d r (r.modifyCreature g f)
  | unit (g : Guid) (f : UnitState → UnitState) : Effect d r (r.modifyUnit g f)
  | player (g : Guid) {f : Player → Player}
      (keeps : ∀ x, (f x).fields = x.fields ∧ (f x).quests = x.quests) :
      Effect d r (r.modifyPlayer g f)
  | fields (g : Guid) (f : Fields → Fields) (writes : d.WritesFields) :
      Effect d r (r.modifyFields g f)
  | door (g : Guid) {reset : UInt32}
      (sets : reset ≠ 0 → d.timer? = some (Clock.seconds reset)) : Effect d r (r.useDoor g reset)
  | respawn {g : Guid} {seconds : UInt32} {r' : Region} (stays : minRespawnDelay ≤ seconds)
      (sets : d.timer? = some (Clock.seconds seconds))
      (changed : r.respawn? g seconds = some r') : Effect d r r'
  | despawn {g : Guid} {delay : UInt32} {r' : Region} (sets : d.timer? = some delay.toUInt64)
      (changed : r.despawn? g delay = some r') : Effect d r r'
  | summon (summons : d.Summons) (t : CreatureTemplate) (position : Position)
      {despawn : SummonDespawn} (active : Bool) (summoner : Guid)
      (sets : ∀ delay, despawn = .timedOrDead delay →
        delay ≠ 0 ∧ d.timer? = some delay.toUInt64) :
      Effect d r (r.summon t position despawn active summoner).2
  | quest {g : Guid} {quest : UInt32} {r' : Region} (changes : d.ChangesQuests)
      (changed : r.failQuest? g quest = some r' ∨ r.exploreQuest? g quest = some r') :
      Effect d r r'

/-- Any number of effects, one after the other. -/
def Effects (d : Payload) : Region → Region → Prop := Relation.ReflTransGen (Effect d)

namespace Effects

variable {d : Payload} {r r' r'' : Region}

theorem refl (d : Payload) (r : Region) : Effects d r r := Relation.ReflTransGen.refl

theorem trans (h : Effects d r r') (h' : Effects d r' r'') : Effects d r r'' :=
  Relation.ReflTransGen.trans h h'

theorem single (h : Effect d r r') : Effects d r r' := Relation.ReflTransGen.single h

theorem record (h : Effects d r r') (e : WorldEvent) : Effects d r (r'.record e) :=
  h.trans (single (.record e))

/-- An effect that may find nothing to work on. -/
theorem getD {effect : Option Region} (h : ∀ r', effect = some r' → Effects d r r') :
    Effects d r (effect.getD r) := by
  cases heffect : effect with
  | none => exact refl d r
  | some r' => exact h r' heffect

theorem foldl {α : Type} {f : Region → α → Region}
    (hf : ∀ (r : Region) (a : α), Effects d r (f r a)) (l : List α) (r : Region) :
    Effects d r (l.foldl f r) := by
  induction l generalizing r with
  | nil => exact refl d r
  | cons a rest ih => exact (hf r a).trans (ih (f r a))

/-- What every effect keeps is kept by all together. -/
theorem keeps {R : Region → Region → Prop} (hrefl : ∀ r, R r r)
    (htrans : ∀ {r r' r''}, R r r' → R r' r'' → R r r'')
    (heffect : ∀ {r r'}, Effect d r r' → R r r') (h : Effects d r r') : R r r' := by
  induction h with
  | refl => exact hrefl r
  | tail _ last ih => exact htrans ih (heffect last)

end Effects

/-- A result that has come about by effects of a command, unless it failed. -/
def Does (d : Payload) (r : Region) (x : StepResult) : Prop :=
  x.Meets (fun _ => True) (Effects d r)

variable {d : Payload} {r r' : Region}

/-! ### Changing one object -/

theorem does_applied (h : Effects d r r') : Does d r (applied r') := meets_applied h

theorem does_require {α : Type} {value : Option α} {e : StepError} {next : α → StepResult}
    (h : ∀ a, Does d r (next a)) : Does d r (require r value e next) :=
  meets_require (fun _ => trivial) fun a _ => h a

theorem does_attempt {α : Type} {value : Except StepError α} {next : α → StepResult}
    (h : ∀ a, Does d r (next a)) : Does d r (attempt r value next) :=
  meets_attempt (fun _ _ => trivial) fun a _ => h a

theorem does_demand {condition : Bool} {e : StepError} {next : StepResult} (h : Does d r next) :
    Does d r (demand r condition e next) :=
  meets_demand (fun _ => trivial) fun _ => h

theorem does_modifyCreature {holder : Option Guid} {e : StepError}
    {f : Guid → Creature → Creature}
    (keeps : ∀ g x, (f g x).fields = x.fields ∧ (f g x).despawnAt = x.despawnAt ∧
      (f g x).guid = x.guid) :
    Does d r (require r holder e fun g => applied (r.modifyCreature g (f g))) := by
  refine does_require fun g => ?_
  exact does_applied (.single (.creature g (keeps g)))

theorem does_modifyFields (hd : d.WritesFields) {holder : Option Guid} {e e' : StepError}
    {f : Guid → Fields → Fields} :
    Does d r (require r holder e fun g =>
      require r (r.fields? g) e' fun _ => applied (r.modifyFields g (f g))) := by
  refine does_require fun g => does_require fun _ => ?_
  exact does_applied (.single (.fields g (f g) hd))

theorem does_display {holder : Option Guid} {e : StepError}
    {display : Except StepError (Option UInt32)} {f : Option UInt32 → Creature → Creature}
    (keeps : ∀ i x, (f i x).fields = x.fields ∧ (f i x).despawnAt = x.despawnAt ∧
      (f i x).guid = x.guid) :
    Does d r (require r holder e fun g =>
      attempt r display fun i => applied (r.modifyCreature g (f i))) := by
  refine does_require fun g => does_attempt fun i => ?_
  exact does_applied (.single (.creature g (keeps i)))

variable (ctx : StepContext) (c : Command) (p : Participants)

theorem writeField_does (hd : d.WritesFields) (field : UInt32) (change : Fields → Fields) :
    Does d r (writeField r p field change) := by
  refine does_require fun holder => ?_
  refine does_require fun fields => does_demand ?_
  exact does_applied (.single (.fields holder change hd))

/-! ### Texts, emotes and sounds -/

theorem talk_does : Does d r (talk ctx r c p) := by
  refine does_require fun speaker => ?_
  refine does_require fun text => does_demand ?_
  exact does_applied (.single (.record _))

theorem emote_does (first : UInt32) : Does d r (emote ctx r c p first) := by
  refine does_require fun actor => ?_
  exact does_applied (.single (.record _))

theorem playSound_does (sound flags : UInt32) : Does d r (playSound r p sound flags) := by
  refine does_require fun emitter => does_demand ?_
  exact does_applied (.single (.record _))

/-! ### Movement -/

theorem moveTo_does (speed : UInt32) : Does d r (moveTo r c p speed) := by
  refine does_require fun actor => does_require fun unit => ?_
  dsimp only
  split
  · exact does_applied (.record (.single (.unit actor _)) _)
  · split
    · exact does_applied (.record (.single (.unit actor _)) _)
    · exact does_applied (.record (.single (.unit actor _)) _)

theorem teleportTo_does (map : UInt32) : Does d r (teleportTo r c p map) := by
  refine does_require fun player => does_applied (.getD fun r' h => ?_)
  obtain ⟨x, -, rfl⟩ := Option.map_eq_some_iff.mp h
  refine .record (.single (.player player ?_)) _
  exact fun _ => ⟨rfl, rfl⟩

theorem movement_does (change : MotionChange) (distance : UInt32) :
    Does d r (movement r c p change distance) := by
  refine does_require fun g => does_require fun creature => ?_
  exact does_applied (.single (.creature g fun _ => ⟨rfl, rfl, rfl⟩))

theorem sendTaxiPath_does (path : UInt32) : Does d r (sendTaxiPath r p path) := by
  refine does_require fun player => ?_
  split
  · refine does_applied (.record (.single (.player player ?_)) _)
    exact fun _ => ⟨rfl, rfl⟩
  · exact does_applied (.refl d r)

/-! ### Quests and items -/

theorem questExplored_does (hd : d.ChangesQuests) (quest distance : UInt32) :
    Does d r (questExplored r p quest distance) := by
  refine does_require fun player => does_demand (does_demand ?_)
  split
  · exact does_applied (.getD fun r' h => .single (.quest hd (.inl h)))
  · exact does_applied (.getD fun r' h => .single (.quest hd (.inr h)))

theorem killCredit_does (entry : UInt32) (group : Bool) :
    Does d r (killCredit r p entry group) := by
  refine does_require fun player => does_require fun entry => does_applied ?_
  refine .foldl (fun r g => ?_) _ r
  unfold Region.creditPlayer
  split
  · refine .record (.single (.player g ?_)) _
    exact fun _ => ⟨rfl, rfl⟩
  · exact .refl d r

theorem createItem_does (item amount : UInt32) : Does d r (createItem r p item amount) := by
  refine does_require fun player => ?_
  split
  · refine does_applied (.record (.single (.player player ?_)) _)
    exact fun _ => ⟨rfl, rfl⟩
  · exact does_applied (.refl d r)

/-! ### Game objects -/

theorem minRespawnDelay_le (delay : UInt32) : minRespawnDelay ≤ max delay minRespawnDelay := by
  show minRespawnDelay ≤ if delay ≤ minRespawnDelay then minRespawnDelay else delay
  split
  · exact UInt32.le_refl _
  · next hlonger => exact UInt32.le_of_lt (UInt32.not_le.mp hlonger)

theorem respawnGameObject_does {spawn delay : UInt32}
    (hd : d.timer? = some (Clock.seconds (max delay minRespawnDelay))) :
    Does d r (respawnGameObject ctx r c p spawn delay) := by
  refine does_attempt fun g => does_require fun o => does_demand ?_
  split
  · exact does_applied (.refl d r)
  · exact does_applied (.getD fun r' h => .single (.respawn (minRespawnDelay_le delay) hd h))

theorem useDoor_does (state : UseState) {spawn delay : UInt32}
    (hd : d.timer? = some (Clock.seconds (max delay minDoorReset))) :
    Does d r (useDoor ctx r c p state spawn delay) := by
  refine does_attempt fun g => does_require fun door => does_demand ?_
  split
  · exact does_applied (.refl d r)
  · refine does_applied ?_
    cases button? r p with
    | none => exact .single (.door g fun _ => hd)
    | some b => exact Effects.trans (.single (.door g fun _ => hd)) (.single (.door b fun _ => hd))

theorem activateObject_does : Does d r (activateObject r p) := by
  refine does_require fun user => does_require fun o => does_applied (.getD fun r' h => ?_)
  obtain ⟨x, -, rfl⟩ := Option.map_eq_some_iff.mp h
  refine Effects.record ?_ _
  split
  · exact .single (.door o fun h => absurd rfl h)
  · exact .refl d r

/-! ### Creatures and fights -/

theorem tempSummonCreature_does {entry delay : UInt32} (hd : d.Summons)
    (hsets : d.timer? = some delay.toUInt64) :
    Does d r (tempSummonCreature ctx r c p entry delay) := by
  refine does_require fun summoner => does_require fun t => ?_
  refine does_applied (.single (.summon hd t c.position _ summoner fun n hn => ?_))
  split at hn
  · cases hn
  · next hdelay =>
    cases hn
    exact ⟨hdelay, hsets⟩

theorem despawnSelf_does {delay : UInt32} (hd : d.timer? = some delay.toUInt64) :
    Does d r (despawnSelf ctx r c p delay) := by
  refine meets_log (does_require fun victim => ?_) _
  exact does_applied (.getD fun r' h => .single (.despawn hd h))

theorem attackStart_does : Does d r (attackStart ctx r p) := by
  refine does_require fun attacker => does_require fun victim => ?_
  refine does_require fun a => does_require fun faction => does_demand ?_
  refine does_applied (.record (.single (.creature attacker ?_)) _)
  exact fun _ => ⟨rfl, rfl, rfl⟩

theorem removeAura_does (spell : UInt32) : Does d r (removeAura r p spell) := by
  refine does_require fun actor => ?_
  split
  · split
    · exact does_applied (.record (.single (.unit actor _)) _)
    · exact does_applied (.refl d r)
  · exact does_applied (.refl d r)

theorem castSpell_does (spell : UInt32) : Does d r (castSpell r c p spell) := by
  refine does_require fun victim => ?_
  split
  · exact does_applied (.record (.single (.unit victim _)) _)
  · refine does_require fun caster => ?_
    exact does_applied (.record (.single (.unit victim _)) _)

/-! ### Endings -/

theorem terminateScript_does (entry distance : UInt32) :
    Does d r (terminateScript ctx r c p entry distance) := by
  unfold terminateScript
  split
  · split
    · exact meets_ok (.refl d r) _ _
    · split
      · exact meets_ok (.single (.creature _ fun _ => ⟨rfl, rfl, rfl⟩)) _ _
      · exact meets_ok (.refl d r) _ _
  · exact does_applied (.refl d r)

theorem failGroupQuest_effects (hd : d.ChangesQuests) (player : Option Guid) (quest : UInt32) :
    Effects d r (failGroupQuest r player quest) := by
  unfold failGroupQuest
  split
  · exact .refl d r
  · split
    · exact .refl d r
    · refine Effects.foldl (fun r g => ?_) _ r
      split
      · exact .getD fun r' h => .single (.quest hd (.inl h))
      · exact .refl d r

theorem terminateCondition_does (hd : d.ChangesQuests) (condition quest : UInt32) :
    Does d r (terminateCondition ctx r c p condition quest) := by
  unfold terminateCondition
  dsimp only
  split
  · exact meets_ok (failGroupQuest_effects hd _ quest) _ _
  · exact meets_ok (.refl d r) _ _

/-! ### Any step -/

/-- Every command, on whatever participants, does what its effects are. -/
theorem apply_does : Does c.payload r (apply ctx r c p) := by
  unfold apply
  cases c.payload with
  | talk => exact talk_does ctx c p
  | emote e => exact emote_does ctx c p e
  | fieldSet field value => exact writeField_does p (by trivial) field _
  | moveTo speed => exact moveTo_does c p speed
  | flagSet field flag => exact writeField_does p (by trivial) field _
  | flagRemove field flag => exact writeField_does p (by trivial) field _
  | teleportTo map => exact teleportTo_does c p map
  | questExplored quest distance => exact questExplored_does p (by trivial) quest distance
  | killCredit entry group => exact killCredit_does p entry group
  | respawnGameObject spawn delay => exact respawnGameObject_does ctx c p rfl
  | tempSummonCreature entry delay => exact tempSummonCreature_does ctx c p (by trivial) rfl
  | openDoor spawn delay => exact useDoor_does ctx c p .active rfl
  | closeDoor spawn delay => exact useDoor_does ctx c p .ready rfl
  | activateObject => exact activateObject_does p
  | removeAura spell => exact removeAura_does p spell
  | castSpell spell => exact castSpell_does c p spell
  | playSound sound flags => exact playSound_does p sound flags
  | createItem item amount => exact createItem_does p item amount
  | despawnSelf delay => exact despawnSelf_does ctx c p rfl
  | playMovie movie => exact meets_fail trivial
  | movement change distance => exact movement_does c p change distance
  | setActiveObject active => exact does_modifyCreature fun _ _ => ⟨rfl, rfl, rfl⟩
  | setFaction faction flags => exact does_modifyCreature fun _ _ => ⟨rfl, rfl, rfl⟩
  | morphToEntryOrModel value => exact does_display fun _ _ => ⟨rfl, rfl, rfl⟩
  | mountToEntryOrModel value => exact does_display fun _ _ => ⟨rfl, rfl, rfl⟩
  | setRun run => exact does_modifyCreature fun _ _ => ⟨rfl, rfl, rfl⟩
  | attackStart => exact attackStart_does ctx p
  | goLockState state => exact does_modifyFields (by trivial)
  | standState state => exact does_modifyCreature fun _ _ => ⟨rfl, rfl, rfl⟩
  | modifyNpcFlags flags change => exact does_modifyFields (by trivial)
  | sendTaxiPath path => exact sendTaxiPath_does p path
  | terminateScript entry distance => exact terminateScript_does ctx c p entry distance
  | pauseWaypoints pause => exact does_modifyCreature fun _ _ => ⟨rfl, rfl, rfl⟩
  | xpUser disable => exact does_modifyFields (by trivial)
  | terminateCondition condition quest =>
    exact terminateCondition_does ctx c p (by trivial) condition quest

/-- A step is a chain of effects of its command, whether it fails or not. -/
theorem run_effects (source target : Option Guid) :
    Effects c.payload r (run ctx r c source target).region :=
  region_of_apply (.refl _ r) fun p _ => apply_does ctx c p

end Step

end RegionScript
