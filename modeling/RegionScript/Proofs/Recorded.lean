import RegionScript.OrderedMap.Lemmas
import RegionScript.Region.Effects

/-!
What the effects on a region add to its log.

`Logs P` says of two states of a region that the log grew by events that satisfy `P`, and by nothing
else. Each effect adds the event that it is known by; those that change objects alone add none.
-/

namespace RegionScript.Region

/-- The log grew, and only by events that satisfy `P`. -/
def Logs (P : WorldEvent → Prop) (r r' : Region) : Prop :=
  ∃ new, r'.events = r.events ++ new ∧ ∀ e ∈ new, P e

@[simp] theorem events_modifyUnit (r : Region) (g : Guid) (f : UnitState → UnitState) :
    (r.modifyUnit g f).events = r.events := by
  unfold modifyUnit
  split <;> rfl

@[simp] theorem events_modifyFields (r : Region) (g : Guid) (f : Fields → Fields) :
    (r.modifyFields g f).events = r.events := by
  unfold modifyFields
  split <;> rfl

namespace Logs

variable {P : WorldEvent → Prop} {r r' r'' : Region} {g : Guid}

/-- A change that leaves the log as it is. -/
theorem quiet (h : r'.events = r.events) : r.Logs P r' := by
  refine ⟨[], ?_, fun e he => ?_⟩
  · rw [h, List.append_nil]
  · cases he

theorem refl (P : WorldEvent → Prop) (r : Region) : r.Logs P r := quiet rfl

theorem trans (h : r.Logs P r') (h' : r'.Logs P r'') : r.Logs P r'' := by
  obtain ⟨new, hnew, hP⟩ := h
  obtain ⟨new', hnew', hP'⟩ := h'
  refine ⟨new ++ new', ?_, fun e he => ?_⟩
  · rw [hnew', hnew, List.append_assoc]
  · rcases List.mem_append.mp he with he | he
    · exact hP e he
    · exact hP' e he

theorem record (h : r.Logs P r') {e : WorldEvent} (he : P e) : r.Logs P (r'.record e) := by
  refine h.trans ⟨[e], rfl, fun x hx => ?_⟩
  obtain rfl := List.mem_singleton.mp hx
  exact he

/-- An effect that may find nothing to work on. -/
theorem getD {effect : Option Region} (h : ∀ r', effect = some r' → r.Logs P r') :
    r.Logs P (effect.getD r) := by
  cases heffect : effect with
  | none => exact refl P r
  | some r' => exact h r' heffect

/-- One effect after another. -/
theorem foldl {α : Type} {f : Region → α → Region} (hf : ∀ (r : Region) (a : α), r.Logs P (f r a))
    (l : List α) (r : Region) : r.Logs P (l.foldl f r) := by
  induction l generalizing r with
  | nil => exact refl P r
  | cons a rest ih => exact (hf r a).trans (ih (f r a))

/-! ### Effects -/

theorem useDoor {reset : UInt32} (h : ∀ state, P (.doorOrButtonUsed g state)) :
    r.Logs P (r.useDoor g reset) := by
  refine getD fun r' hr' => ?_
  obtain ⟨door, -, rfl⟩ := Option.map_eq_some_iff.mp hr'
  refine Logs.record ?_ (h _)
  exact quiet rfl

theorem useGameObject? {user : Guid} (hdoor : ∀ state, P (.doorOrButtonUsed g state))
    (huse : P (.gameObjectUsed g user)) (h : r.useGameObject? g user = some r') : r.Logs P r' := by
  obtain ⟨o, -, rfl⟩ := Option.map_eq_some_iff.mp h
  refine Logs.record ?_ huse
  split
  · exact useDoor hdoor
  · exact refl P r

theorem respawn? {seconds : UInt32} (hP : ∀ n, P (.respawned g n))
    (h : r.respawn? g seconds = some r') : r.Logs P r' := by
  obtain ⟨o, -, rfl⟩ := Option.map_eq_some_iff.mp h
  refine Logs.record ?_ (hP _)
  exact quiet rfl

theorem despawn? {delay : UInt32} (hP : P (.despawned g)) (h : r.despawn? g delay = some r') :
    r.Logs P r' := by
  obtain ⟨c, -, rfl⟩ := Option.map_eq_some_iff.mp h
  split
  · refine Logs.record ?_ hP
    exact quiet rfl
  · exact quiet rfl

theorem castSpell {caster target : Guid} {spell : UInt32} {triggered : Bool}
    {firstCaster : Option Guid} (hP : P (.spellCast caster target spell triggered firstCaster)) :
    r.Logs P (r.castSpell caster target spell triggered firstCaster) :=
  (quiet (events_modifyUnit r target _)).record hP

theorem teleport? {map : UInt32} {destination : Position} (hP : P (.teleported g map destination))
    (h : r.teleport? g map destination = some r') : r.Logs P r' := by
  obtain ⟨p, -, rfl⟩ := Option.map_eq_some_iff.mp h
  refine Logs.record ?_ hP
  exact quiet rfl

theorem creditKill {player : Guid} {entry : UInt32} {source : Option Guid} {group : Bool}
    (hP : ∀ g, P (.killCredit g entry)) : r.Logs P (r.creditKill player entry source group) := by
  refine foldl (fun r g => ?_) _ r
  unfold creditPlayer
  split
  · refine Logs.record ?_ (hP g)
    exact quiet rfl
  · exact refl P r

theorem failQuest? {quest : UInt32} (hP : P (.questFailed g quest))
    (h : r.failQuest? g quest = some r') : r.Logs P r' := by
  obtain ⟨p, -, -, rfl⟩ := failQuest?_eq_some_iff.mp h
  refine Logs.record ?_ hP
  exact quiet rfl

theorem exploreQuest? {quest : UInt32} (hP : P (.questExplored g quest))
    (h : r.exploreQuest? g quest = some r') : r.Logs P r' := by
  obtain ⟨p, -, -, rfl⟩ := exploreQuest?_eq_some_iff.mp h
  refine Logs.record ?_ hP
  exact quiet rfl

end Logs

/-- A summoned creature stands where it was summoned. -/
theorem creature?_summon (r : Region) (t : CreatureTemplate) (position : Position)
    (despawn : SummonDespawn) (active : Bool) (summoner : Guid) :
    ∃ c, (r.summon t position despawn active summoner).2.creature?
        (.creature t.entry r.nextSummon) = some c ∧ c.unit.position = position := by
  refine ⟨_, (OrderedMap.get?_insert r.creatures _ _ _).trans (if_pos rfl), rfl⟩

end RegionScript.Region
