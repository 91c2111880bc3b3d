import RegionScript.Region.Condition
import RegionScript.Region.Effects

/-!
Regions that differ in nothing but what was said in them.

Texts and emotes are only ever written to the log, and nothing that happens in a region reads the
log. So two regions that are alike up to them stay so under every effect, and whatever is asked of
the one has the same answer in the other.
-/

namespace RegionScript

/-- Whether an event is something said or acted out. -/
def WorldEvent.isSpeech : WorldEvent → Bool
  | .text .. | .emote .. => true
  | _ => false

namespace Region

/-- The region with another log. -/
def withLog (r : Region) (es : List WorldEvent) : Region := { r with events := es }

/-- The region without its log. -/
def unlogged (r : Region) : Region := r.withLog []

/-- The log without what was said. -/
def deeds (r : Region) : List WorldEvent := r.events.filter fun e => !e.isSpeech

/-- Two regions with the same objects, groups, clock, counter and schedule, and the same deeds in
their logs. -/
structure Alike (r r' : Region) : Prop where
  unlogged : r.unlogged = r'.unlogged
  deeds : r.deeds = r'.deeds

namespace Alike

variable {r r' r'' : Region}

theorem refl (r : Region) : r.Alike r := ⟨rfl, rfl⟩

theorem symm (h : r.Alike r') : r'.Alike r := ⟨h.unlogged.symm, h.deeds.symm⟩

theorem trans (h : r.Alike r') (h' : r'.Alike r'') : r.Alike r'' :=
  ⟨h.unlogged.trans h'.unlogged, h.deeds.trans h'.deeds⟩

/-- Of two that are alike, one is the other with another log; so what is looked up in them is the
same by definition. -/
theorem exists_log (h : r.Alike r') : ∃ es, r' = r.withLog es := by
  refine ⟨r'.events, ?_⟩
  have hunlogged := h.unlogged
  cases r
  cases r'
  simp only [Region.unlogged, Region.withLog, Region.mk.injEq] at hunlogged ⊢
  obtain ⟨rfl, rfl, rfl, rfl, rfl, rfl, rfl, rfl, rfl, -, rfl, rfl⟩ := hunlogged
  simp

/-- What is said leaves a region as it was. -/
theorem speak (r : Region) {e : WorldEvent} (he : e.isSpeech = true) : r.Alike (r.record e) where
  unlogged := rfl
  deeds := by simp [Region.deeds, Region.record, he]

theorem record (h : r.Alike r') (e : WorldEvent) : (r.record e).Alike (r'.record e) where
  unlogged := h.unlogged
  deeds := by
    have hdeeds := h.deeds
    unfold Region.deeds at hdeeds ⊢
    simp only [Region.record, List.filter_append, hdeeds]

/-- A change that neither reads nor writes the log. -/
theorem change (h : r.Alike r') (f : Region → Region)
    (hblind : ∀ r es, f (r.withLog es) = (f r).withLog es) : (f r).Alike (f r') := by
  obtain ⟨es, rfl⟩ := h.exists_log
  have hevents : (f r).events = r.events :=
    (congrArg Region.events (hblind r r.events)).trans rfl
  rw [hblind]
  refine ⟨rfl, ?_⟩
  have hdeeds := h.deeds
  unfold Region.deeds at hdeeds ⊢
  rw [hevents]
  exact hdeeds

/-- A change that is made of what is found, if anything is. -/
theorem getD_map {α : Type} {value : Option α} {f f' : α → Region} (h : r.Alike r')
    (hf : ∀ a, (f a).Alike (f' a)) : ((value.map f).getD r).Alike ((value.map f').getD r') := by
  cases value with
  | none => exact h
  | some a => exact hf a

/-- A change that depends on what holds in both. -/
theorem ite {c : Prop} [Decidable c] {s s' : Region} (hpos : r.Alike r') (hneg : s.Alike s') :
    (if c then r else s).Alike (if c then r' else s') := by
  by_cases hc : c
  · rwa [if_pos hc, if_pos hc]
  · rwa [if_neg hc, if_neg hc]

/-- One change after another. -/
theorem foldl {α : Type} {f : Region → α → Region}
    (hf : ∀ {r r' : Region} (a : α), r.Alike r' → (f r a).Alike (f r' a)) (l : List α)
    (h : r.Alike r') : (l.foldl f r).Alike (l.foldl f r') := by
  induction l generalizing r r' with
  | nil => exact h
  | cons a rest ih => exact ih (hf a h)

/-! ### Changing objects -/

theorem modifyCreature (h : r.Alike r') (g : Guid) (f : Creature → Creature) :
    (r.modifyCreature g f).Alike (r'.modifyCreature g f) :=
  h.change (·.modifyCreature g f) fun _ _ => rfl

theorem modifyPlayer (h : r.Alike r') (g : Guid) (f : Player → Player) :
    (r.modifyPlayer g f).Alike (r'.modifyPlayer g f) :=
  h.change (·.modifyPlayer g f) fun _ _ => rfl

theorem modifyGameObject (h : r.Alike r') (g : Guid) (f : GameObject → GameObject) :
    (r.modifyGameObject g f).Alike (r'.modifyGameObject g f) :=
  h.change (·.modifyGameObject g f) fun _ _ => rfl

theorem modifyFields (h : r.Alike r') (g : Guid) (f : Fields → Fields) :
    (r.modifyFields g f).Alike (r'.modifyFields g f) := by
  refine h.change (·.modifyFields g f) fun r es => ?_
  unfold Region.modifyFields
  cases g.kind <;> rfl

theorem modifyUnit (h : r.Alike r') (g : Guid) (f : UnitState → UnitState) :
    (r.modifyUnit g f).Alike (r'.modifyUnit g f) := by
  refine h.change (·.modifyUnit g f) fun r es => ?_
  unfold Region.modifyUnit
  cases g.kind <;> rfl

/-! ### Effects -/

theorem useDoor (h : r.Alike r') (g : Guid) (reset : UInt32) :
    (r.useDoor g reset).Alike (r'.useDoor g reset) := by
  obtain ⟨es, rfl⟩ := h.exists_log
  exact getD_map h fun door => (h.modifyGameObject g _).record _

theorem useGameObject? (h : r.Alike r') (g user : Guid) :
    ((r.useGameObject? g user).getD r).Alike ((r'.useGameObject? g user).getD r') := by
  obtain ⟨es, rfl⟩ := h.exists_log
  exact getD_map h fun o => (ite (h.useDoor g 0) h).record _

theorem respawn? (h : r.Alike r') (g : Guid) (seconds : UInt32) :
    ((r.respawn? g seconds).getD r).Alike ((r'.respawn? g seconds).getD r') := by
  obtain ⟨es, rfl⟩ := h.exists_log
  exact getD_map h fun o => (h.modifyGameObject g _).record _

theorem despawn? (h : r.Alike r') (g : Guid) (delay : UInt32) :
    ((r.despawn? g delay).getD r).Alike ((r'.despawn? g delay).getD r') := by
  obtain ⟨es, rfl⟩ := h.exists_log
  have herase := h.change (fun r => { r with creatures := r.creatures.erase g }) fun _ _ => rfl
  exact getD_map h fun c => ite (herase.record _) (h.modifyCreature g _)

theorem summon (h : r.Alike r') (t : CreatureTemplate) (position : Position)
    (despawn : SummonDespawn) (active : Bool) (summoner : Guid) :
    (r.summon t position despawn active summoner).2.Alike
      (r'.summon t position despawn active summoner).2 := by
  obtain ⟨es, rfl⟩ := h.exists_log
  have hadd := fun c : Creature =>
    h.change (fun r => { r with nextSummon := r.nextSummon + 1 }.addCreature c) fun _ _ => rfl
  exact (hadd _).record _

theorem castSpell (h : r.Alike r') (caster target : Guid) (spell : UInt32) (triggered : Bool)
    (firstCaster : Option Guid) :
    (r.castSpell caster target spell triggered firstCaster).Alike
      (r'.castSpell caster target spell triggered firstCaster) :=
  (h.modifyUnit target _).record _

theorem teleport? (h : r.Alike r') (g : Guid) (map : UInt32) (destination : Position) :
    ((r.teleport? g map destination).getD r).Alike ((r'.teleport? g map destination).getD r') := by
  obtain ⟨es, rfl⟩ := h.exists_log
  exact getD_map h fun p => (h.modifyPlayer g _).record _

theorem creditPlayer (h : r.Alike r') (entry : UInt32) (source : Option Guid) (g : Guid) :
    (r.creditPlayer entry source g).Alike (r'.creditPlayer entry source g) := by
  obtain ⟨es, rfl⟩ := h.exists_log
  exact ite ((h.modifyPlayer g _).record _) h

theorem creditKill (h : r.Alike r') (player : Guid) (entry : UInt32) (source : Option Guid)
    (group : Bool) :
    (r.creditKill player entry source group).Alike (r'.creditKill player entry source group) := by
  obtain ⟨es, rfl⟩ := h.exists_log
  exact foldl (fun g h => h.creditPlayer entry source g) _ h

theorem failQuest? (h : r.Alike r') (g : Guid) (quest : UInt32) :
    ((r.failQuest? g quest).getD r).Alike ((r'.failQuest? g quest).getD r') := by
  obtain ⟨es, rfl⟩ := h.exists_log
  exact getD_map h fun p => (h.modifyPlayer g _).record _

theorem exploreQuest? (h : r.Alike r') (g : Guid) (quest : UInt32) :
    ((r.exploreQuest? g quest).getD r).Alike ((r'.exploreQuest? g quest).getD r') := by
  obtain ⟨es, rfl⟩ := h.exists_log
  exact getD_map h fun p => (h.modifyPlayer g _).record _

end Alike

end Region

namespace Condition

/-- A condition holds in both or in neither. -/
theorem holds_alike {r r' : Region} (h : r.Alike r') (catalog : Catalog)
    (subject : ConditionSubject) (levels : Nat) (id : UInt32) :
    holds catalog r' subject levels id = holds catalog r subject levels id := by
  obtain ⟨es, rfl⟩ := h.exists_log
  induction levels generalizing id with
  | zero => rfl
  | succ levels ih =>
    rw [holds_succ, holds_succ, funext ih]
    cases catalog.conditions.get? id with
    | none => rfl
    | some c => cases c <;> rfl

end Condition

end RegionScript
