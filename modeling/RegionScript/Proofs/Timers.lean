import RegionScript.Proofs.Elapsing
import RegionScript.Proofs.FieldChanges
import RegionScript.Proofs.StepEffects
import RegionScript.Proofs.Summons

/-!
Armed timers lie ahead of the clock.

Doors are armed with a reset, respawned objects and creatures with a despawn. A step arms timers of
a positive delay only, and a use takes the reset of an earlier one away or puts its own in place, so
that what is to be restored is always the other state. When time passes, what came due fires and is
no longer armed. So after any steps and moves of the clock all timers lie ahead, where they did at
the beginning. Only a timer whose time is past the end of the clock is armed for one that by the
numbers is over, and only a creature under another guid than its own stays when it has to leave.
-/

namespace RegionScript

/-- A reset comes after some time and restores the other state, and a despawn comes after it too. -/
@[mk_iff]
structure GameObject.TimedAt (o : GameObject) (now : UInt64) : Prop where
  reset : ∀ reset, o.reset = some reset → now < reset.due ∧ reset.restore = o.state.toggle
  despawn : ∀ due, o.despawnAt = some due → now < due

/-- A despawn comes after some time. -/
def Creature.TimedAt (c : Creature) (now : UInt64) : Prop :=
  ∀ due, c.despawnAt = some due → now < due

instance (o : GameObject) (now : UInt64) : Decidable (o.TimedAt now) :=
  decidable_of_iff
    (o.reset.all (fun reset => now < reset.due ∧ reset.restore = o.state.toggle) = true ∧
      o.despawnAt.all (now < ·) = true)
    (by simp [Option.all_eq_true, GameObject.timedAt_iff])

instance (c : Creature) (now : UInt64) : Decidable (c.TimedAt now) :=
  decidable_of_iff (c.despawnAt.all (now < ·) = true)
    (by simp [Creature.TimedAt, Option.all_eq_true])

theorem Creature.TimedAt.of_eq {c c' : Creature} {now : UInt64} (h : c.TimedAt now)
    (hsame : c'.despawnAt = c.despawnAt) : c'.TimedAt now :=
  fun due hdue => h due (hsame.symm.trans hdue)

/-- The timer of a command is due before the clock starts over. -/
def Payload.FitsAt (d : Payload) (now : UInt64) : Prop :=
  ∀ delay, d.timer? = some delay → Clock.Fits now delay

instance (d : Payload) (now : UInt64) : Decidable (d.FitsAt now) :=
  decidable_of_iff (d.timer?.all (Clock.Fits now ·) = true)
    (by simp [Payload.FitsAt, Option.all_eq_true])

theorem UseState.toggle_toggle (s : UseState) : s.toggle.toggle = s := by
  cases s <;> rfl

namespace Region

/-- All timers lie ahead. -/
structure Timed (r : Region) : Prop where
  objects : ∀ g o, r.gameObject? g = some o → o.TimedAt r.now
  creatures : ∀ g c, r.creature? g = some c → c.TimedAt r.now

/-! ### Steps -/

/-- At the same time, objects come of the objects that were here, and creatures of the creatures or
under their own guid. If what is set in between `fits`, they all have their timers still ahead. -/
structure Rearms (fits : Prop) (r r' : Region) : Prop where
  now : r'.now = r.now
  objects : r'.gameObjects.StemsFrom r.gameObjects fun _ o o' =>
    fits → o.TimedAt r.now → o'.TimedAt r.now
  creatures : ∀ g c', r'.creature? g = some c' →
    (c'.guid = g ∧ (fits → c'.TimedAt r.now)) ∨
    ∃ c, r.creature? g = some c ∧ c'.guid = c.guid ∧
      (fits → c.TimedAt r.now → c'.TimedAt r.now)

namespace Rearms

variable {fits : Prop} {r r' r'' : Region} {g : Guid}

theorem refl (r : Region) : r.Rearms fits r where
  now := rfl
  objects := .refl (fun _ _ _ h => h) _
  creatures _ c hc := .inr ⟨c, hc, rfl, fun _ h => h⟩

theorem trans (h : r.Rearms fits r') (h' : r'.Rearms fits r'') : r.Rearms fits r'' where
  now := h'.now.trans h.now
  objects := h'.objects.trans h.objects fun hab hbc hfits ha => by
    rw [h.now] at hbc
    exact hbc hfits (hab hfits ha)
  creatures g c'' hc'' := by
    have hlast := h'.creatures g c'' hc''
    rw [h.now] at hlast
    rcases hlast with hnew | ⟨c', hc', hguid', htimed'⟩
    · exact .inl hnew
    · rcases h.creatures g c' hc' with ⟨hguid, htimed⟩ | ⟨c, hc, hguid, htimed⟩
      · exact .inl ⟨hguid'.trans hguid, fun hfits => htimed' hfits (htimed hfits)⟩
      · exact .inr ⟨c, hc, hguid'.trans hguid, fun hfits h => htimed' hfits (htimed hfits h)⟩

theorem of_creatures (hnow : r'.now = r.now) (hobjects : r'.gameObjects = r.gameObjects)
    (h : r'.creatures.StemsFrom r.creatures fun _ c c' =>
      c'.guid = c.guid ∧ (fits → c.TimedAt r.now → c'.TimedAt r.now)) : r.Rearms fits r' where
  now := hnow
  objects := hobjects ▸ (refl r).objects
  creatures g c' hc' := .inr (h g c' hc')

theorem modifyCreature {f : Creature → Creature}
    (hf : ∀ c, (f c).guid = c.guid ∧ (fits → c.TimedAt r.now → (f c).TimedAt r.now)) :
    r.Rearms fits (r.modifyCreature g f) :=
  of_creatures rfl rfl (.modify (fun _ _ => ⟨rfl, fun _ h => h⟩) fun c _ => hf c)

theorem modifyGameObject {f : GameObject → GameObject}
    (hf : ∀ o, fits → o.TimedAt r.now → (f o).TimedAt r.now) :
    r.Rearms fits (r.modifyGameObject g f) :=
  { refl r with objects := .modify (fun _ _ _ h => h) fun o _ => hf o }

theorem record (h : r.Rearms fits r') (e : WorldEvent) : r.Rearms fits (r'.record e) :=
  h.trans { refl r' with }

theorem modifyUnit (r : Region) (g : Guid) (f : UnitState → UnitState) :
    r.Rearms fits (r.modifyUnit g f) := by
  unfold Region.modifyUnit
  split
  · exact modifyCreature fun _ => ⟨rfl, fun _ h => h⟩
  · exact modifyCreature fun _ => ⟨rfl, fun _ h => h⟩
  · exact { refl r with }
  · exact refl r

theorem modifyFields (r : Region) (g : Guid) (f : Fields → Fields) :
    r.Rearms fits (r.modifyFields g f) := by
  unfold Region.modifyFields
  cases g.kind with
  | creature | pet => exact modifyCreature fun _ => ⟨rfl, fun _ h => h⟩
  | gameObject => exact modifyGameObject fun _ _ h => ⟨h.reset, h.despawn⟩
  | player | corpse | item => exact { refl r with }

/-- The reset of a use lies ahead and restores the state before it, or there is none. -/
theorem useDoor {reset : UInt32}
    (hsets : fits → reset ≠ 0 → Clock.Fits r.now (Clock.seconds reset)) :
    r.Rearms fits (r.useDoor g reset) := by
  unfold Region.useDoor
  cases h : r.useDoor? g reset with
  | none => exact refl r
  | some r' =>
    obtain ⟨door, -, rfl⟩ := Option.map_eq_some_iff.mp h
    refine record (modifyGameObject ?_) _
    refine fun o hfits ho => ⟨fun pending hpending => ?_, ho.despawn⟩
    dsimp only at hpending
    split at hpending
    · cases hpending
    · next hreset =>
      obtain rfl := Option.some.inj hpending
      refine ⟨Clock.lt_add_iff.mpr ⟨hsets hfits hreset, ?_⟩, ?_⟩
      · exact mt Clock.seconds_eq_zero_iff.mp hreset
      · exact door.state.toggle_toggle.symm

theorem respawn? {seconds : UInt32} (hstays : Step.minRespawnDelay ≤ seconds)
    (hsets : fits → Clock.Fits r.now (Clock.seconds seconds))
    (h : r.respawn? g seconds = some r') : r.Rearms fits r' := by
  obtain ⟨o, -, rfl⟩ := Option.map_eq_some_iff.mp h
  refine record (modifyGameObject ?_) _
  refine fun o hfits ho => ⟨ho.reset, fun due hdue => ?_⟩
  obtain rfl := Option.some.inj hdue
  refine Clock.lt_add_iff.mpr ⟨hsets hfits, mt Clock.seconds_eq_zero_iff.mp ?_⟩
  rintro rfl
  exact absurd hstays (by decide)

/-- Without a delay a creature goes at once. -/
theorem despawn? {delay : UInt32} (hsets : fits → Clock.Fits r.now delay.toUInt64)
    (h : r.despawn? g delay = some r') : r.Rearms fits r' := by
  obtain ⟨c, -, rfl⟩ := Option.map_eq_some_iff.mp h
  split
  · have herase : r.Rearms fits { r with creatures := r.creatures.erase g } :=
      of_creatures rfl rfl (.erase (fun _ _ => ⟨rfl, fun _ h => h⟩) r.creatures g)
    exact herase.record _
  · next hdelay =>
    refine modifyCreature fun c => ⟨rfl, fun hfits _ due hdue => ?_⟩
    obtain rfl := Option.some.inj hdue
    exact Clock.lt_add_iff.mpr ⟨hsets hfits, mt Clock.toUInt64_eq_zero_iff.mp hdelay⟩

theorem summon (t : CreatureTemplate) (position : Position) {despawn : SummonDespawn}
    (active : Bool) (summoner : Guid)
    (hsets : ∀ delay, despawn = .timedOrDead delay →
      delay ≠ 0 ∧ (fits → Clock.Fits r.now delay.toUInt64)) :
    r.Rearms fits (r.summon t position despawn active summoner).2 := by
  refine { refl r with creatures := ?_ }
  refine OrderedMap.forall_insert (fun g c hc => .inr ⟨c, hc, rfl, fun _ h => h⟩) ?_
  refine .inl ⟨rfl, fun hfits due hdue => ?_⟩
  dsimp only at hdue
  split at hdue
  · cases hdue
  · next delay =>
    obtain ⟨hdelay, hset⟩ := hsets delay rfl
    obtain rfl := Option.some.inj hdue
    exact Clock.lt_add_iff.mpr ⟨hset hfits, mt Clock.toUInt64_eq_zero_iff.mp hdelay⟩

theorem quest {quest : UInt32}
    (h : r.failQuest? g quest = some r' ∨ r.exploreQuest? g quest = some r') :
    r.Rearms fits r' := by
  rcases h with h | h
  · obtain ⟨p, -, rfl⟩ := Option.map_eq_some_iff.mp h
    exact { refl r with }
  · obtain ⟨p, -, rfl⟩ := Option.map_eq_some_iff.mp h
    exact { refl r with }

theorem effect {d : Payload} (h : Step.Effect d r r') : r.Rearms (d.FitsAt r.now) r' := by
  cases h with
  | record e => exact (refl r).record e
  | creature g keeps =>
    exact modifyCreature fun c => ⟨(keeps c).2.2, fun _ hc => hc.of_eq (keeps c).2.1⟩
  | unit g f => exact modifyUnit r g f
  | player => exact { refl r with }
  | fields g f => exact modifyFields r g f
  | door g sets => exact useDoor fun hfits hreset => hfits _ (sets hreset)
  | respawn stays sets changed => exact respawn? stays (fun hfits => hfits _ sets) changed
  | despawn sets changed => exact despawn? (fun hfits => hfits _ sets) changed
  | summon summons t position active summoner sets =>
    exact summon t position active summoner fun delay hdelay =>
      (sets delay hdelay).imp_right fun hset hfits => hfits _ hset
  | quest changes changed => exact quest changed

theorem run (ctx : StepContext) (r : Region) (c : Command) (source target : Option Guid) :
    r.Rearms (c.payload.FitsAt r.now) (Step.run ctx r c source target).region :=
  (Step.run_effects ctx c source target).keeps
    (R := fun r r' => r.Rearms (c.payload.FitsAt r.now) r')
    (fun r => refl r) (fun h h' => h.trans (h.now ▸ h')) effect

theorem timed (h : r.Rearms fits r') (hfits : fits) (hr : r.Timed) : r'.Timed where
  objects g o' ho' := by
    obtain ⟨o, ho, htimed⟩ := h.objects g o' ho'
    exact h.now ▸ htimed hfits (hr.objects g o ho)
  creatures g c' hc' := by
    rcases h.creatures g c' hc' with ⟨-, htimed⟩ | ⟨c, hc, -, htimed⟩
    · exact h.now ▸ htimed hfits
    · exact h.now ▸ htimed hfits (hr.creatures g c hc)

end Rearms

end Region

/-! ### Time -/

/-- What is still armed after it fired lies ahead, and a reset that is still armed has not changed
the state. -/
theorem GameObject.TimedAt.fire {o : GameObject} {before : UInt64} (h : o.TimedAt before)
    (now : UInt64) :
    (o.fire now).1.TimedAt now := by
  rw [o.fire_fst]
  constructor
  · intro reset hreset
    obtain ⟨harmed, hlater⟩ := Option.filter_eq_some_iff.mp hreset
    have hahead : ¬ reset.due ≤ now := by simpa using hlater
    refine ⟨UInt64.not_le.mp hahead, ?_⟩
    simp [past, harmed, Option.filter_some, hahead, (h.reset reset harmed).2]
  · intro due hdue
    obtain ⟨-, hlater⟩ := Option.filter_eq_some_iff.mp hdue
    simpa using hlater

theorem Creature.leaves_eq_false_iff {c : Creature} {now : UInt64} : c.leaves now = false ↔
    c.TimedAt now ∧ (c.summoned.isSome = true → c.unit.alive = true) := by
  unfold leaves TimedAt
  cases c.despawnAt <;> simp [isDue]

namespace Region

/-- Whoever has to leave at a time is called by the guid it is stored under. -/
def NamesLeaving (r : Region) (now : UInt64) : Prop :=
  ∀ g c, r.creature? g = some c → c.leaves now = true → g ∈ r.leaving now

/-- No creature that was summoned is dead. -/
def DeadDismissed (r : Region) : Prop :=
  ∀ g c, r.creature? g = some c → c.summoned.isSome = true → c.unit.alive = true

variable {r : Region}

theorem CreaturesKeyed.namesLeaving (h : r.CreaturesKeyed) (now : UInt64) : r.NamesLeaving now :=
  fun _ c hc hleaves => (mem_leaving_iff h).mpr ⟨c, hc, hleaves⟩

theorem creature?_advance (r : Region) (elapsed : UInt64) (g : Guid) :
    (r.advance elapsed).creature? g =
      if g ∈ r.leaving (r.now + elapsed) then none else r.creature? g :=
  OrderedMap.get?_eraseAll ..

/-- All timers lie ahead after a move of the clock, and no summoned creature is dead, just if all
were found who had to leave. -/
theorem Timed.advance_iff (h : r.Timed) (elapsed : UInt64) :
    (r.advance elapsed).Timed ∧ (r.advance elapsed).DeadDismissed ↔
      r.NamesLeaving (r.now + elapsed) := by
  constructor
  · rintro ⟨htimed, hdead⟩ g c hc hleaves
    -- whoever is not found stays, and neither the timers nor the dead allow that
    by_contra hstays
    have hafter : (r.advance elapsed).creature? g = some c := by
      rw [creature?_advance, if_neg hstays, hc]
    have hhere : c.leaves (r.now + elapsed) = false :=
      Creature.leaves_eq_false_iff.mpr ⟨htimed.creatures g c hafter, hdead g c hafter⟩
    rw [hleaves] at hhere
    cases hhere
  · intro hnames
    have hstays : ∀ g c, (r.advance elapsed).creature? g = some c →
        c.TimedAt (r.now + elapsed) ∧ (c.summoned.isSome = true → c.unit.alive = true) := by
      intro g c hafter
      rw [creature?_advance] at hafter
      split at hafter
      · cases hafter
      · next hnot =>
        refine Creature.leaves_eq_false_iff.mp (Bool.eq_false_iff.mpr fun hleaves => ?_)
        exact hnot (hnames g c hafter hleaves)
    refine ⟨⟨fun g o ho => ?_, fun g c hc => (hstays g c hc).1⟩, fun g c hc => (hstays g c hc).2⟩
    have hfired : (r.gameObjects.map fun _ o => (o.fire (r.now + elapsed)).1).get? g = some o := ho
    rw [OrderedMap.get?_map] at hfired
    obtain ⟨before, hbefore, rfl⟩ := Option.map_eq_some_iff.mp hfired
    exact (h.objects g before hbefore).fire (r.now + elapsed)

theorem Timed.advance (h : r.Timed) (hkeyed : r.CreaturesKeyed) (elapsed : UInt64) :
    (r.advance elapsed).Timed ∧ (r.advance elapsed).DeadDismissed :=
  (h.advance_iff elapsed).mpr (hkeyed.namesLeaving _)

theorem Timed.addGameObject (h : r.Timed) {o : GameObject} (ho : o.TimedAt r.now) :
    (r.addGameObject o).Timed where
  objects := OrderedMap.forall_insert h.objects ho
  creatures := h.creatures

theorem Timed.addCreature (h : r.Timed) {c : Creature} (hc : c.TimedAt r.now) :
    (r.addCreature c).Timed where
  objects := h.objects
  creatures := OrderedMap.forall_insert h.creatures hc

/-! ### Steps and time -/

/-- What may happen to a region next. -/
inductive Turn where
  | step (ctx : StepContext) (c : Command) (source target : Option Guid)
  | wait (elapsed : UInt64)

/-- A step that fails, or whose timer is due before the clock starts over; any wait. -/
def Turn.Fits (r : Region) : Turn → Prop
  | .step ctx c source target =>
    ∀ o, (Step.run ctx r c source target).outcome = .ok o → c.payload.FitsAt r.now
  | .wait _ => True

/-- A step that fails has set nothing. -/
theorem Timed.run (h : r.Timed) {ctx : StepContext} {c : Command} {source target : Option Guid}
    (hfits : (Turn.step ctx c source target).Fits r) :
    (Step.run ctx r c source target).region.Timed := by
  cases houtcome : (Step.run ctx r c source target).outcome with
  | ok o => exact (Rearms.run ctx r c source target).timed (hfits o houtcome) h
  | error e =>
    rw [(Step.run_within ctx r c source target).failed e houtcome]
    exact h

end Region

end RegionScript
