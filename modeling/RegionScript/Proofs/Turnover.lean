import RegionScript.Proofs.Outcomes

/-!
Who comes and goes in a step.

A step stays within the frame of its region, and of the creatures it moves at most one. `Turnover`
says which and when: a summoning that is applied adds just the creature that it summons, a despawn
without delay takes just its victim, and in every other step all creatures stay.
-/

namespace RegionScript

namespace Region

/-- The same creatures are here. -/
def SameCreatures (r r' : Region) : Prop :=
  ∀ g, r'.creatures.contains g = r.creatures.contains g

/-- One creature is here now, and otherwise the same ones. -/
def Joins (r r' : Region) (newcomer : Guid) : Prop :=
  ∀ g, r'.creatures.contains g = (decide (g = newcomer) || r.creatures.contains g)

/-- One creature is here no more, and otherwise the same ones. -/
def Leaves (r r' : Region) (victim : Guid) : Prop :=
  ∀ g, r'.creatures.contains g = (decide (g ≠ victim) && r.creatures.contains g)

theorem joins_summon (r : Region) (t : CreatureTemplate) (position : Position)
    (despawn : SummonDespawn) (active : Bool) (summoner : Guid) :
    r.Joins (r.summon t position despawn active summoner).2 (.creature t.entry r.nextSummon) := by
  intro g
  show (r.creatures.insert (.creature t.entry r.nextSummon) _).contains g = _
  by_cases hg : g = .creature t.entry r.nextSummon
  · subst hg
    simp [OrderedMap.contains, OrderedMap.get?_insert]
  · rw [OrderedMap.contains_insert r.creatures _ hg]
    simp [hg]

/-- A despawn without delay; of a creature that is not here nothing changes. -/
theorem leaves_despawn (r : Region) (victim : Guid) :
    r.Leaves ((r.despawn? victim 0).getD r) victim := by
  intro g
  cases hvictim : r.creature? victim with
  | none =>
    have heffect : r.despawn? victim 0 = none := by rw [despawn?, hvictim]; rfl
    rw [heffect, Option.getD_none]
    by_cases hg : g = victim
    · subst hg
      have hgone : r.creatures.contains g = false := by
        rw [OrderedMap.contains, show r.creatures.get? g = none from hvictim]
        rfl
      simp [hgone]
    · simp [hg]
  | some c =>
    have heffect : r.despawn? victim 0 =
        some ({ r with creatures := r.creatures.erase victim }.record (.despawned victim)) := by
      rw [despawn?, hvictim]
      rfl
    rw [heffect, Option.getD_some]
    show (r.creatures.erase victim).contains g = _
    by_cases hg : g = victim
    · subst hg
      simp [OrderedMap.contains, OrderedMap.get?_erase]
    · rw [OrderedMap.contains_erase r.creatures hg]
      simp [hg]

/-- Without a mobile creature all creatures stay. -/
theorem Frame.sameCreatures {r r' : Region} (h : r.Frame (fun _ => False) r') :
    r.SameCreatures r' :=
  fun g => h.creatures g fun hmobile => hmobile

/-- A player whose standing is kept is still here. -/
theorem Frame.players {mobile : Guid → Prop} {r r' : Region} (h : r.Frame mobile r') (g : Guid) :
    r'.players.contains g = r.players.contains g := by
  have hsome := congrArg Option.isSome (h.standing g)
  rwa [Option.isSome_map, Option.isSome_map] at hsome

end Region

namespace Step

open Region (Frame)

/-- Which creatures came or went in a step, by its command and by whether it failed. -/
def Turnover (ctx : StepContext) (r : Region) (c : Command) (source target : Option Guid)
    (x : StepResult) : Prop :=
  match c.payload, x.outcome with
  | .tempSummonCreature entry _, .ok _ =>
    ∃ t summoner, ctx.catalog.creatureTemplates.get? entry = some t ∧
      x.region.events =
        r.events ++ [.summoned (.creature t.entry r.nextSummon) t.entry summoner] ∧
      r.Joins x.region (.creature t.entry r.nextSummon)
  | .despawnSelf delay, .ok _ =>
    if delay = 0 then
      ∃ p victim, c.participants r source target = .ok p ∧ victim? p = some victim ∧
        r.Leaves x.region victim
    else r.SameCreatures x.region
  | _, _ => r.SameCreatures x.region

variable {ctx : StepContext} {r : Region} {c : Command} {source target : Option Guid}
  {p : Participants}

/-- A step that does not fail applied its command to its participants. -/
theorem of_run_eq_ok {o : Outcome} (h : (run ctx r c source target).outcome = .ok o) :
    ∃ p, c.participants r source target = .ok p ∧ (apply ctx r c p).outcome = .ok o ∧
      (run ctx r c source target).region = (apply ctx r c p).region := by
  cases hp : c.participants r source target with
  | error e =>
    rw [run_eq_of_lost hp] at h
    cases h
  | ok p =>
    rw [run_eq_of_found hp] at h ⊢
    exact ⟨p, rfl, h, rfl⟩

/-- A command that moves no creature leaves them all. -/
theorem sameCreatures_of_not_moves (hmoves : ∀ p g, ¬ Moves ctx c p r g) :
    r.SameCreatures (run ctx r c source target).region := by
  refine Frame.sameCreatures ((run_within ctx r c source target).frame.mono fun g hg => ?_)
  obtain ⟨p, -, hg⟩ := hg
  exact hmoves p g hg

theorem tempSummonCreature_joins (entry delay : UInt32) :
    (tempSummonCreature ctx r c p entry delay).Meets (fun _ => True) fun r' =>
      ∃ t summoner, ctx.catalog.creatureTemplates.get? entry = some t ∧
        r'.events = r.events ++ [.summoned (.creature t.entry r.nextSummon) t.entry summoner] ∧
        r.Joins r' (.creature t.entry r.nextSummon) := by
  refine meets_require (fun _ => trivial) fun summoner _ => ?_
  refine meets_require (fun _ => trivial) fun t ht => meets_applied ?_
  exact ⟨t, summoner, ht, rfl, Region.joins_summon r t c.position _ _ summoner⟩

theorem despawnSelf_leaves :
    (despawnSelf ctx r c p 0).Meets (fun _ => True) fun r' =>
      ∃ victim, victim? p = some victim ∧ r.Leaves r' victim := by
  refine meets_log (meets_require (fun _ => trivial) fun victim hvictim => meets_applied ?_) _
  exact ⟨victim, hvictim, Region.leaves_despawn r victim⟩

/-- Whatever the command and the outcome, the creatures change as `Turnover` says. -/
theorem run_turnover (ctx : StepContext) (r : Region) (c : Command) (source target : Option Guid) :
    Turnover ctx r c source target (run ctx r c source target) := by
  have hwithin := run_within ctx r c source target
  unfold Turnover
  split
  · next entry delay o hpayload houtcome =>
    obtain ⟨p, -, hok, hregion⟩ := of_run_eq_ok houtcome
    rw [hregion]
    have happly : apply ctx r c p = tempSummonCreature ctx r c p entry delay := by
      rw [apply, hpayload]
    rw [happly] at hok ⊢
    exact (tempSummonCreature_joins entry delay).done o hok
  · next delay o hpayload houtcome =>
    split
    · next hdelay =>
      subst hdelay
      obtain ⟨p, hp, hok, hregion⟩ := of_run_eq_ok houtcome
      rw [hregion]
      have happly : apply ctx r c p = despawnSelf ctx r c p 0 := by rw [apply, hpayload]
      rw [happly] at hok ⊢
      obtain ⟨victim, hvictim, hleaves⟩ := despawnSelf_leaves.done o hok
      exact ⟨p, victim, hp, hvictim, hleaves⟩
    · next hdelay =>
      refine sameCreatures_of_not_moves fun p g hmoves => ?_
      rw [Moves, hpayload] at hmoves
      exact hdelay hmoves.1
  · next hsummon hdespawn =>
    cases houtcome : (run ctx r c source target).outcome with
    | error e =>
      -- a failed step left the region as it was
      rw [hwithin.failed e houtcome]
      exact fun g => rfl
    | ok o =>
      refine sameCreatures_of_not_moves fun p g hmoves => ?_
      unfold Moves at hmoves
      split at hmoves
      · next entry delay hpayload => exact hsummon entry delay o hpayload houtcome
      · next delay hpayload => exact hdespawn delay o hpayload houtcome
      · exact hmoves

/-- Whatever a step does, it leaves the region's number, battleground, clock, groups and schedule,
only adds to the log, and lets no player, game object, corpse or item come or go; of the creatures
at most the one summoned comes and the one despawned goes; and no player's level, zone, group or
battleground changes. -/
theorem step_stays_in_frame (ctx : StepContext) (r : Region) (c : Command)
    (source target : Option Guid) :
    let x := run ctx r c source target
    (x.region.id = r.id ∧ x.region.battleground = r.battleground ∧ x.region.now = r.now ∧
      x.region.groups = r.groups ∧ x.region.schedule = r.schedule) ∧
    r.events <+: x.region.events ∧
    (∀ g, x.region.players.contains g = r.players.contains g ∧
      x.region.gameObjects.contains g = r.gameObjects.contains g ∧
      x.region.corpses.contains g = r.corpses.contains g ∧
      x.region.items.contains g = r.items.contains g) ∧
    Turnover ctx r c source target x ∧
    ∀ g, (x.region.player? g).map (fun p => (p.level, p.zone, p.group, p.battleground)) =
      (r.player? g).map fun p => (p.level, p.zone, p.group, p.battleground) := by
  intro x
  have hframe := (run_within ctx r c source target).frame
  refine ⟨⟨hframe.id, hframe.battleground, hframe.now, hframe.groups, hframe.schedule⟩,
    hframe.events, fun g => ?_, run_turnover ctx r c source target, hframe.standing⟩
  exact ⟨hframe.players g, hframe.gameObjects g, hframe.corpses g, hframe.items g⟩

end Step

end RegionScript
