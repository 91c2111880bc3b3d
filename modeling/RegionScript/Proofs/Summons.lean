import RegionScript.Engine
import RegionScript.Proofs.StepEffects
import RegionScript.Proofs.Turnover

/-!
Whence the creatures are, and what a summoning does to those who are here.

A creature is added to a region under a guid of its own, or it is summoned under the region's next
number. The numbers begin at a million, and after 2³² of them they begin anew. It is not looked
whether a guid is taken: `Peopled` follows which guids were given to creatures that were added, and
how many were summoned, and where the new guid is none of theirs, nobody is here under it. Otherwise
the summoned creature takes the place of the one that was.
-/

namespace RegionScript

/-! ### Numbers -/

/-- The number of the creature that is summoned after `k` others. -/
def summonNumber (k : Nat) : UInt32 := 1000000 + UInt32.ofNat k

theorem summonNumber_succ (k : Nat) : summonNumber (k + 1) = summonNumber k + 1 := by
  unfold summonNumber
  rw [UInt32.ofNat_add, UInt32.add_assoc]
  rfl

/-- A number is not given again before all of them were. -/
theorem le_of_summonNumber_eq {k n : Nat} (hk : k < n) (h : summonNumber n = summonNumber k) :
    UInt32.size ≤ n := by
  have hnat := congrArg UInt32.toNat h
  unfold summonNumber at hnat
  rw [UInt32.toNat_add, UInt32.toNat_add, UInt32.toNat_ofNat', UInt32.toNat_ofNat'] at hnat
  have hfirst : (1000000 : UInt32).toNat = 1000000 := rfl
  have hsize : UInt32.size = 4294967296 := rfl
  omega

namespace Region

open Step (Effect Effects)

variable {r r' r'' : Region}

/-! ### What brings nobody -/

/-- No creature comes, and no number is given. -/
structure NobodyComes (r r' : Region) : Prop where
  next : r'.nextSummon = r.nextSummon
  creatures : ∀ g, r'.creatures.contains g = true → r.creatures.contains g = true

namespace NobodyComes

theorem refl (r : Region) : r.NobodyComes r := ⟨rfl, fun _ h => h⟩

theorem trans (h : r.NobodyComes r') (h' : r'.NobodyComes r'') : r.NobodyComes r'' :=
  ⟨h'.next.trans h.next, fun g hg => h.creatures g (h'.creatures g hg)⟩

/-- Creatures may change, as long as they are the same. -/
theorem of_frame (h : r.Frame (fun _ => False) r') (hnext : r'.nextSummon = r.nextSummon) :
    r.NobodyComes r' :=
  ⟨hnext, fun g hg => (h.creatures g fun hno => hno).symm.trans hg⟩

theorem modifyUnit (r : Region) (g : Guid) (f : UnitState → UnitState) :
    r.NobodyComes (r.modifyUnit g f) := by
  refine of_frame (.modifyUnit r g f) ?_
  unfold Region.modifyUnit
  split <;> rfl

theorem modifyFields (r : Region) (g : Guid) (f : Fields → Fields) :
    r.NobodyComes (r.modifyFields g f) := by
  refine of_frame (.modifyFields r g f) ?_
  unfold Region.modifyFields
  split <;> rfl

theorem useDoor (r : Region) (g : Guid) (reset : UInt32) : r.NobodyComes (r.useDoor g reset) := by
  refine of_frame (.useDoor r g reset) ?_
  unfold Region.useDoor useDoor?
  cases r.gameObject? g <;> rfl

theorem respawn? {g : Guid} {seconds : UInt32} (h : r.respawn? g seconds = some r') :
    r.NobodyComes r' := by
  refine of_frame (.respawn? h) ?_
  obtain ⟨o, -, rfl⟩ := Option.map_eq_some_iff.mp h
  rfl

theorem despawn? {g : Guid} {delay : UInt32} (h : r.despawn? g delay = some r') :
    r.NobodyComes r' := by
  obtain ⟨c, -, rfl⟩ := Option.map_eq_some_iff.mp h
  split
  · refine ⟨rfl, fun j hj => ?_⟩
    by_cases hjg : j = g
    · subst hjg
      simp [record, OrderedMap.contains, OrderedMap.get?_erase] at hj
    · rwa [← OrderedMap.contains_erase r.creatures hjg]
  · exact of_frame (.modifyCreature r g _) rfl

theorem quest {g : Guid} {quest : UInt32}
    (h : r.failQuest? g quest = some r' ∨ r.exploreQuest? g quest = some r') :
    r.NobodyComes r' := by
  rcases h with h | h
  · refine of_frame (.failQuest? h) ?_
    obtain ⟨p, -, rfl⟩ := Option.map_eq_some_iff.mp h
    rfl
  · refine of_frame (.exploreQuest? h) ?_
    obtain ⟨p, -, rfl⟩ := Option.map_eq_some_iff.mp h
    rfl

theorem advance (r : Region) (elapsed : UInt64) : r.NobodyComes (r.advance elapsed) := by
  refine ⟨rfl, fun g hg => ?_⟩
  obtain ⟨c, hc⟩ := (OrderedMap.contains_iff _ g).mp hg
  have hstays : (r.creatures.eraseAll _).get? g = some c := hc
  rw [OrderedMap.get?_eraseAll] at hstays
  split at hstays
  · cases hstays
  · exact (r.creatures.contains_iff g).mpr ⟨c, hstays⟩

/-- Only a summoning brings a creature. -/
theorem effect {d : Payload} (hd : ¬ d.Summons) (h : Effect d r r') : r.NobodyComes r' := by
  cases h with
  | record e => exact of_frame ((Frame.refl _ r).record e) rfl
  | creature g => exact of_frame (.modifyCreature r g _) rfl
  | unit g f => exact modifyUnit r g f
  | player => exact ⟨rfl, fun _ h => h⟩
  | fields g f => exact modifyFields r g f
  | door g sets => exact useDoor r g _
  | respawn stays sets changed => exact respawn? changed
  | despawn sets changed => exact despawn? changed
  | summon summons => exact absurd summons hd
  | quest changes changed => exact quest changed

end NobodyComes

end Region

namespace Step

open Region (NobodyComes)

variable {ctx : StepContext} {r : Region} {c : Command} {source target : Option Guid}

/-- A step that is no summoning, or that fails, brings nobody. -/
theorem run_nobodyComes
    (h : c.payload.Summons → ∀ o, (run ctx r c source target).outcome ≠ .ok o) :
    r.NobodyComes (run ctx r c source target).region := by
  by_cases hsummons : c.payload.Summons
  · cases houtcome : (run ctx r c source target).outcome with
    | ok o => exact absurd houtcome (h hsummons o)
    | error e =>
      rw [(run_within ctx r c source target).failed e houtcome]
      exact .refl r
  · exact (run_effects ctx c source target).keeps NobodyComes.refl NobodyComes.trans
      (NobodyComes.effect hsummons)

/-- The creature that a command summons of a template. With a delay it leaves after that time. -/
def summoned (r : Region) (c : Command) (t : CreatureTemplate) (delay : UInt32) : Creature :=
  { Creature.spawn (.creature t.entry r.nextSummon) c.position t.faction t.chooseDisplay with
    active := c.flags.additional
    summoned := some (if delay = 0 then .onDeath else .timedOrDead delay)
    despawnAt := if delay = 0 then none else some (r.now + delay.toUInt64) }

theorem tempSummonCreature_inserts (p : Participants) (entry delay : UInt32) :
    (tempSummonCreature ctx r c p entry delay).Meets (fun _ => True) fun r' =>
      ∃ t, ctx.catalog.creatureTemplates.get? entry = some t ∧
        r'.nextSummon = r.nextSummon + 1 ∧
        r'.creatures =
          r.creatures.insert (.creature t.entry r.nextSummon) (summoned r c t delay) := by
  refine meets_require (fun _ => trivial) fun summoner _ => ?_
  refine meets_require (fun _ => trivial) fun t ht => meets_applied ⟨t, ht, rfl, ?_⟩
  unfold summoned
  by_cases hdelay : delay = 0
  · simp only [if_pos hdelay]
    rfl
  · simp only [if_neg hdelay]
    rfl

/-- A summoning that is applied takes a number and puts its creature under it. -/
theorem run_inserts {entry delay : UInt32} (hpayload : c.payload = .tempSummonCreature entry delay)
    {o : Outcome} (hok : (run ctx r c source target).outcome = .ok o) :
    ∃ t, ctx.catalog.creatureTemplates.get? entry = some t ∧
      (run ctx r c source target).region.nextSummon = r.nextSummon + 1 ∧
      (run ctx r c source target).region.creatures =
        r.creatures.insert (.creature t.entry r.nextSummon) (summoned r c t delay) := by
  obtain ⟨p, -, happlied, hregion⟩ := of_run_eq_ok hok
  have happly : apply ctx r c p = tempSummonCreature ctx r c p entry delay := by
    rw [apply, hpayload]
  rw [happly] at happlied hregion
  rw [hregion]
  exact (tempSummonCreature_inserts p entry delay).done o happlied

end Step

namespace Region

/-! ### Runs -/

/-- What comes of an empty region when objects are added, steps are run, scripts are scheduled and
time passes; with the guids of the creatures that were added, and the number of those that were
summoned. -/
inductive Peopled : Region → List Guid → Nat → Prop
  | empty (id : UInt32) (battleground : Option UInt32) : Peopled { id, battleground } [] 0
  | creature {r added n} (h : Peopled r added n) (c : Creature) :
      Peopled (r.addCreature c) (c.guid :: added) n
  | player {r added n} (h : Peopled r added n) (p : Player) : Peopled (r.addPlayer p) added n
  | gameObject {r added n} (h : Peopled r added n) (o : GameObject) :
      Peopled (r.addGameObject o) added n
  | corpse {r added n} (h : Peopled r added n) (c : Corpse) : Peopled (r.addCorpse c) added n
  | item {r r' added n} (h : Peopled r added n) {i : Item} (owned : r.addItem? i = some r') :
      Peopled r' added n
  | summoning {r added n} (h : Peopled r added n) {ctx : StepContext} {c : Command}
      {source target : Option Guid} {o : Outcome} (summons : c.payload.Summons)
      (done : (Step.run ctx r c source target).outcome = .ok o) :
      Peopled (Step.run ctx r c source target).region added (n + 1)
  | step {r added n} (h : Peopled r added n) {ctx : StepContext} {c : Command}
      {source target : Option Guid}
      (other : c.payload.Summons → ∀ o, (Step.run ctx r c source target).outcome ≠ .ok o) :
      Peopled (Step.run ctx r c source target).region added n
  | rescheduled {r added n} (h : Peopled r added n) (schedule : Schedule) :
      Peopled { r with schedule } added n
  | advance {r added n} (h : Peopled r added n) (elapsed : UInt64) :
      Peopled (r.advance elapsed) added n

variable {r : Region} {added : List Guid} {n : Nat}

/-- The next number is that of the count, and whoever is here was added or has one of the numbers
before. -/
structure Numbered (r : Region) (added : List Guid) (n : Nat) : Prop where
  next : r.nextSummon = summonNumber n
  known : ∀ g, r.creatures.contains g = true →
    g ∈ added ∨ ∃ k < n, g.counter = summonNumber k

theorem Numbered.nobodyComes {r' : Region} (h : r.Numbered added n) (hnobody : r.NobodyComes r') :
    r'.Numbered added n :=
  ⟨hnobody.next.trans h.next, fun g hg => h.known g (hnobody.creatures g hg)⟩

theorem contains_insert_creature {g j : Guid} {x : Creature}
    (h : (r.creatures.insert g x).contains j = true) : j = g ∨ r.creatures.contains j = true := by
  by_cases hj : j = g
  · exact .inl hj
  · exact .inr ((OrderedMap.contains_insert r.creatures x hj).symm.trans h)

theorem Numbered.addCreature (h : r.Numbered added n) (c : Creature) :
    (r.addCreature c).Numbered (c.guid :: added) n := by
  refine ⟨h.next, fun g hg => ?_⟩
  rcases contains_insert_creature hg with rfl | hold
  · exact .inl List.mem_cons_self
  · exact (h.known g hold).imp_left (List.mem_cons_of_mem _)

theorem Numbered.inserted {r' : Region} (h : r.Numbered added n) {entry : UInt32} {x : Creature}
    (hnext : r'.nextSummon = r.nextSummon + 1)
    (hcreatures : r'.creatures = r.creatures.insert (.creature entry r.nextSummon) x) :
    r'.Numbered added (n + 1) := by
  refine ⟨?_, fun g hg => ?_⟩
  · rw [hnext, h.next, summonNumber_succ]
  · rw [hcreatures] at hg
    rcases contains_insert_creature hg with rfl | hold
    · exact .inr ⟨n, Nat.lt_succ_self n, h.next⟩
    · refine (h.known g hold).imp_right ?_
      rintro ⟨k, hk, hcounter⟩
      exact ⟨k, Nat.lt_succ_of_lt hk, hcounter⟩

theorem Peopled.numbered (h : r.Peopled added n) : r.Numbered added n := by
  induction h with
  | empty => exact ⟨rfl, fun _ hg => (nomatch hg)⟩
  | creature _ c ih => exact ih.addCreature c
  | player _ _ ih | gameObject _ _ ih | corpse _ _ ih | rescheduled _ _ ih =>
    exact ⟨ih.next, ih.known⟩
  | item _ owned ih =>
    obtain ⟨owner, -, rfl⟩ := Option.map_eq_some_iff.mp owned
    exact ⟨ih.next, ih.known⟩
  | @summoning r added n _ ctx c source target o summons done ih =>
    obtain ⟨entry, delay, hpayload⟩ := summons.exists_eq
    obtain ⟨t, -, hnext, hcreatures⟩ := Step.run_inserts hpayload done
    exact ih.inserted hnext hcreatures
  | step _ other ih => exact ih.nobodyComes (Step.run_nobodyComes other)
  | advance _ elapsed ih => exact ih.nobodyComes (.advance _ elapsed)

/-- Nobody is here under the guid that is next, unless a creature was added under it or all numbers
were given. -/
theorem Numbered.unknown (h : r.Numbered added n) {entry : UInt32}
    (hhere : r.creatures.contains (.creature entry r.nextSummon) = true) :
    .creature entry r.nextSummon ∈ added ∨ UInt32.size ≤ n := by
  refine (h.known _ hhere).imp_right ?_
  rintro ⟨k, hk, hcounter⟩
  exact le_of_summonNumber_eq hk (h.next.symm.trans hcounter)

/-! ### Runs of an engine -/

/-- Any step, whether it summons or not. -/
theorem Peopled.ran (h : r.Peopled added n) (ctx : StepContext) (c : Command)
    (source target : Option Guid) :
    ∃ m, n ≤ m ∧ (Step.run ctx r c source target).region.Peopled added m := by
  by_cases hsummoning : c.payload.Summons ∧ ∃ o, (Step.run ctx r c source target).outcome = .ok o
  · obtain ⟨hsummons, o, hdone⟩ := hsummoning
    exact ⟨n + 1, Nat.le_succ n, h.summoning hsummons hdone⟩
  · refine ⟨n, Nat.le_refl n, h.step fun hsummons o hdone => ?_⟩
    exact hsummoning ⟨hsummons, o, hdone⟩

theorem Peopled.runNext {σ : Type} {e : Engine σ} {draw : Nat} {p p' : Progress}
    (h : p.region.Peopled added n) (hnext : e.runNext draw p = some p') :
    ∃ m, n ≤ m ∧ p'.region.Peopled added m := by
  unfold Engine.runNext at hnext
  split at hnext
  · cases hnext
  · next key step schedule hpop =>
    obtain rfl := Option.some.inj hnext
    obtain ⟨m, hm, hran⟩ := (h.rescheduled schedule).ran (e.context step draw) step.command
      step.source step.target
    refine ⟨m, hm, ?_⟩
    dsimp only
    unfold Engine.settle
    split
    · exact hran.rescheduled _
    · exact hran

theorem Peopled.runSteps {σ : Type} (e : Engine σ) (draws : Nat → Nat) (limit : Nat) {p : Progress}
    (h : p.region.Peopled added n) :
    ∃ m, n ≤ m ∧ (e.runSteps draws limit p).region.Peopled added m := by
  induction limit generalizing p n with
  | zero => exact ⟨n, Nat.le_refl n, h⟩
  | succ limit ih =>
    unfold Engine.runSteps
    cases hnext : e.runNext (draws p.executed.length) p with
    | none => exact ⟨n, Nat.le_refl n, h⟩
    | some p' =>
      obtain ⟨m, hm, hp'⟩ := h.runNext hnext
      obtain ⟨m', hm', hlast⟩ := ih hp'
      exact ⟨m', Nat.le_trans hm hm', hlast⟩

/-- What an engine makes of a region comes about in the same way. -/
theorem Peopled.update (h : r.Peopled added n) {σ : Type} (e : Engine σ) (draws : Nat → Nat)
    (elapsed : UInt64) : ∃ m, n ≤ m ∧ (e.update draws r elapsed).region.Peopled added m :=
  Peopled.runSteps e draws _ (p := { region := r.advance elapsed }) (h.advance elapsed)

end Region

namespace Step

variable {ctx : StepContext} {r : Region} {c : Command} {source target : Option Guid}

/-- A summoning that is applied puts one creature under the next guid, as its template and the
command say, and leaves all others as they are. Guids are numbered by the summonings, from a million
on, and after 2³² of them anew; under the next one nobody was here, unless a creature had been added
under it, or the numbers have come round. Such a creature is gone. -/
theorem summoning_adds_one {added : List Guid} {n : Nat} (hr : r.Peopled added n)
    {entry delay : UInt32} (hpayload : c.payload = .tempSummonCreature entry delay) {o : Outcome}
    (hok : (run ctx r c source target).outcome = .ok o) :
    ∃ t, ctx.catalog.creatureTemplates.get? entry = some t ∧
      let g : Guid := .creature t.entry r.nextSummon
      let after := (run ctx r c source target).region
      (r.nextSummon = summonNumber n ∧ after.nextSummon = summonNumber (n + 1)) ∧
      (r.creature? g ≠ none → g ∈ added ∨ UInt32.size ≤ n) ∧
      (∀ j, j ≠ g → after.creature? j = r.creature? j) ∧
      after.creature? g = some { Creature.spawn g c.position t.faction t.chooseDisplay with
        active := c.flags.additional
        summoned := some (if delay = 0 then .onDeath else .timedOrDead delay)
        despawnAt := if delay = 0 then none else some (r.now + delay.toUInt64) } := by
  obtain ⟨t, ht, hnext, hcreatures⟩ := run_inserts hpayload hok
  have hnumber : r.nextSummon = summonNumber n := hr.numbered.next
  refine ⟨t, ht, ?_⟩
  intro g after
  have hcreature (j : Guid) :
      after.creature? j = if j = g then some (summoned r c t delay) else r.creature? j := by
    show after.creatures.get? j = _
    rw [hcreatures, OrderedMap.get?_insert]
    rfl
  refine ⟨⟨hnumber, ?_⟩, fun hhere => ?_, fun j hj => ?_, ?_⟩
  · rw [summonNumber_succ, ← hnumber]
    exact hnext
  · obtain ⟨x, hx⟩ := Option.ne_none_iff_exists'.mp hhere
    exact hr.numbered.unknown ((r.creatures.contains_iff g).mpr ⟨x, hx⟩)
  · rw [hcreature, if_neg hj]
  · rw [hcreature, if_pos rfl]
    rfl

/-- A template of a wolf. -/
def wolf : CreatureTemplate := ⟨10, "Wolf", [0, 31], 35, ""⟩

/-- Where wolves can be summoned. -/
def wild : StepContext where
  catalog := { creatureTemplates := .ofList [(10, wolf)] }
  table := "dbscripts_on_event"
  draw := 0

def callWolf : Command := .plain 5 0 (.tempSummonCreature 10 5000)

theorem guarded_peopled : Region.Peopled guarded [.creature 12 1] 0 :=
  (Region.Peopled.empty 0 none).creature (.spawn (.creature 12 1) .origin 7 30)

/-- A guard calls a wolf; nobody was here under its guid, and the guard stays. -/
theorem summoning_adds_one_guarded :
    (run wild guarded callWolf (some (.creature 12 1)) none).outcome = .ok .applied ∧
      guarded.creature? (.creature 10 1000000) = none ∧
      (run wild guarded callWolf (some (.creature 12 1)) none).region.creature? (.creature 12 1) =
        guarded.creature? (.creature 12 1) ∧
      ((run wild guarded callWolf (some (.creature 12 1)) none).region.creature?
        (.creature 10 1000000)).map (fun x => (x.unit.faction, x.display, x.despawnAt)) =
          some (35, 31, some 5000) := by
  have hok : (run wild guarded callWolf (some (.creature 12 1)) none).outcome = .ok .applied := rfl
  obtain ⟨t, ht, -, hfresh, hothers, hwolf⟩ := summoning_adds_one guarded_peopled rfl hok
  obtain rfl : wolf = t := Option.some.inj ht
  refine ⟨hok, ?_, hothers _ (by decide), ?_⟩
  · by_contra hhere
    rcases hfresh hhere with hadded | hround
    · exact absurd hadded (by decide)
    · exact absurd hround (by decide)
  · exact congrArg (Option.map fun x => (x.unit.faction, x.display, x.despawnAt)) hwolf

/-- Somebody was put into the region under the guid of the wolf that is to be summoned. -/
def squatted : Region := guarded.addCreature (.spawn (.creature 10 1000000) .origin 7 30)

/-- The wolf takes the place of a creature that was added under its guid. -/
theorem squatter_is_replaced :
    squatted.Peopled [.creature 10 1000000, .creature 12 1] 0 ∧
      callWolf.payload = .tempSummonCreature 10 5000 ∧
      (run wild squatted callWolf (some (.creature 12 1)) none).outcome = .ok .applied ∧
      (squatted.creature? (.creature 10 1000000)).map (fun x => (x.unit.faction, x.despawnAt)) =
        some (7, none) ∧
      ((run wild squatted callWolf (some (.creature 12 1)) none).region.creature?
        (.creature 10 1000000)).map (fun x => (x.unit.faction, x.despawnAt)) =
          some (35, some 5000) := by
  refine ⟨guarded_peopled.creature _, rfl, rfl, rfl, rfl⟩

end Step

end RegionScript
