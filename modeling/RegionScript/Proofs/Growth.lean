import RegionScript.Proofs.Scripts

/-!
What more game data does to rows that are accepted.

A check asks whether what a row names is there, and almost never whether anything is absent. So a
row that is accepted stays accepted, as the same command, when entries are added to the catalog and
the range of text ids is widened: each part of the check is monotone. The exception is made by
strictness. A taxi path is refused if a spell starts it, and such a spell may be among the entries
that are added.
-/

namespace RegionScript

/-! ### More game data -/

namespace OrderedMap

variable {κ α : Type} [Ord κ] {m n : OrderedMap κ α}

/-- Every entry of a map is an entry of another one. -/
def Within (m n : OrderedMap κ α) : Prop := ∀ k a, m.get? k = some a → n.get? k = some a

theorem Within.refl (m : OrderedMap κ α) : m.Within m := fun _ _ h => h

theorem empty_within (n : OrderedMap κ α) : (empty : OrderedMap κ α).Within n := nofun

theorem Within.contains (h : m.Within n) {k : κ} (hk : m.contains k = true) :
    n.contains k = true := by
  obtain ⟨a, ha⟩ := (m.contains_iff k).mp hk
  exact (n.contains_iff k).mpr ⟨a, h k a ha⟩

end OrderedMap

/-- All that a catalog has another one has too, and has it alike. -/
structure Catalog.Within (c c' : Catalog) : Prop where
  creatureTemplates : c.creatureTemplates.Within c'.creatureTemplates
  creatureSpawns : c.creatureSpawns.Within c'.creatureSpawns
  gameObjectTemplates : c.gameObjectTemplates.Within c'.gameObjectTemplates
  gameObjectSpawns : c.gameObjectSpawns.Within c'.gameObjectSpawns
  quests : c.quests.Within c'.quests
  spells : c.spells.Within c'.spells
  itemTemplates : c.itemTemplates.Within c'.itemTemplates
  maps : c.maps.Within c'.maps
  factions : c.factions.Within c'.factions
  taxiPaths : c.taxiPaths.Within c'.taxiPaths
  areaTriggers : c.areaTriggers.Within c'.areaTriggers
  conditions : c.conditions.Within c'.conditions
  texts : c.texts.Within c'.texts
  emotes : c.emotes.Within c'.emotes
  sounds : c.sounds.Within c'.sounds
  displayModels : c.displayModels.Within c'.displayModels
  instanceScripts : c.instanceScripts.Within c'.instanceScripts
  worldScripts : c.worldScripts.Within c'.worldScripts

theorem Catalog.Within.refl (c : Catalog) : c.Within c := by
  constructor <;> exact .refl _

/-- All text ids in the range of some options are in the range of others. -/
def LoaderOptions.RangeWithin (o o' : LoaderOptions) : Prop :=
  ∀ text, o.admits text = true → o'.admits text = true

theorem LoaderOptions.rangeWithin_of_le {o o' : LoaderOptions} (hmin : o'.minText ≤ o.minText)
    (hmax : o.maxText ≤ o'.maxText) : o.RangeWithin o' := by
  intro text h
  obtain ⟨hlow, hhigh⟩ : o.minText ≤ text ∧ text < o.maxText := by simpa [admits] using h
  simpa [admits] using
    And.intro (Int32.le_trans hmin hlow) (Int32.lt_of_lt_of_le hhigh hmax)

namespace Loader

/-- A loader knows all that another one knows, and admits all texts that it admits. How strict the
two are does not matter. -/
structure Within (l l' : Loader) : Prop where
  catalog : l.catalog.Within l'.catalog
  range : l.options.RangeWithin l'.options

variable {l l' : Loader} {row : Row} {c : Command}

/-! ### Each part of the check -/

theorem or_mono {a a' b b' : Option Rejection} (ha : a = none → a' = none)
    (hb : b = none → b' = none) (hnone : a.or b = none) : a'.or b' = none := by
  obtain ⟨hfirst, hsecond⟩ := Option.or_eq_none_iff.mp hnone
  exact Option.or_eq_none_iff.mpr ⟨ha hfirst, hb hsecond⟩

section Unknown

variable {κ α : Type} [Ord κ] {m n : OrderedMap κ α} {k : κ} {fault : Rejection}

/-- What is known stays known. -/
theorem unknown_mono (h : m.Within n) (hnone : faultIf (!m.contains k) fault = none) :
    faultIf (!n.contains k) fault = none := by
  simp only [faultIf_eq_none, Bool.not_eq_false'] at hnone ⊢
  exact h.contains hnone

/-- The same of what is only looked up on a condition, such as a number that is not zero. -/
theorem unknownIf_mono {asked : Bool} (h : m.Within n)
    (hnone : faultIf (asked && !m.contains k) fault = none) :
    faultIf (asked && !n.contains k) fault = none := by
  cases asked with
  | false => rfl
  | true => exact unknown_mono h hnone

end Unknown

theorem buddyFault_mono (h : l.Within l') (hnone : l.buddyFault c = none) :
    l'.buddyFault c = none := by
  unfold buddyFault at hnone ⊢
  split
  · rfl
  · next hsought =>
    rw [if_neg hsought] at hnone
    obtain ⟨hknown, hradius⟩ := Option.or_eq_none_iff.mp hnone
    refine Option.or_eq_none_iff.mpr ⟨?_, hradius⟩
    cases hkind : c.isCreatureBuddy with
    | true =>
      simp only [hkind, if_true] at hknown ⊢
      exact unknown_mono h.catalog.creatureTemplates hknown
    | false =>
      simp only [hkind, Bool.false_eq_true, if_false] at hknown ⊢
      exact unknown_mono h.catalog.gameObjectTemplates hknown

theorem spawnedBuddy_mono (h : l.Within l') {entry : UInt32}
    (hfound : l.spawnedBuddy? c = some entry) : l'.spawnedBuddy? c = some entry := by
  unfold spawnedBuddy? at hfound ⊢
  obtain ⟨spawn, hspawn, rfl⟩ := Option.map_eq_some_iff.mp hfound
  refine Option.map_eq_some_iff.mpr ⟨spawn, ?_, rfl⟩
  split
  · next hkind =>
    rw [if_pos hkind] at hspawn
    exact h.catalog.creatureSpawns _ _ hspawn
  · next hkind =>
    rw [if_neg hkind] at hspawn
    exact h.catalog.gameObjectSpawns _ _ hspawn

theorem flagFault_mono (h : l.Within l') (hnone : l.flagFault c = none) :
    l'.flagFault c = none := by
  -- the first two parts do not look at game data
  obtain ⟨hadditional, hrest⟩ := Option.or_eq_none_iff.mp hnone
  obtain ⟨hrequired, hspawned⟩ := Option.or_eq_none_iff.mp hrest
  refine Option.or_eq_none_iff.mpr ⟨hadditional, Option.or_eq_none_iff.mpr ⟨hrequired, ?_⟩⟩
  split
  · next hguid =>
    rw [if_pos hguid, spawnedBuddyFault] at hspawned
    rw [spawnedBuddyFault]
    cases hfound : l.spawnedBuddy? c with
    | none => simp [hfound] at hspawned
    | some entry =>
      rw [hfound] at hspawned
      rw [spawnedBuddy_mono h hfound]
      exact hspawned
  · rfl

theorem objectEntry_mono (h : l.Within l') {entry : UInt32} (hok : l.objectEntry c = .ok entry) :
    l'.objectEntry c = .ok entry := by
  unfold objectEntry at hok ⊢
  cases hspawn : c.payload.spawn? with
  | none =>
    rw [hspawn] at hok
    exact hok
  | some guid =>
    rw [hspawn] at hok
    dsimp only at hok ⊢
    cases hfound : l.catalog.gameObjectSpawns.get? guid with
    | none => simp [hfound] at hok
    | some spawn =>
      rw [hfound] at hok
      rw [h.catalog.gameObjectSpawns _ _ hfound]
      exact hok

theorem objectType_mono (h : l.Within l') {type : GameObjectType}
    (hok : l.objectType c = .ok type) : l'.objectType c = .ok type := by
  unfold objectType at hok ⊢
  cases hentry : l.objectEntry c with
  | error e => simp [hentry] at hok
  | ok entry =>
    rw [hentry] at hok
    rw [objectEntry_mono h hentry]
    dsimp only at hok ⊢
    cases hfound : l.catalog.gameObjectTemplates.get? entry with
    | none => simp [hfound] at hok
    | some t =>
      rw [hfound] at hok
      rw [h.catalog.gameObjectTemplates _ _ hfound]
      exact hok

theorem objectFault_mono (h : l.Within l') {allowed : GameObjectType → Bool}
    (hnone : l.objectFault c allowed = none) : l'.objectFault c allowed = none := by
  unfold objectFault at hnone ⊢
  cases htype : l.objectType c with
  | error e => simp [htype] at hnone
  | ok type =>
    rw [htype] at hnone
    rw [objectType_mono h htype]
    exact hnone

theorem textFault_mono (h : l.Within l') (hnone : l.textFault c = none) :
    l'.textFault c = none := by
  obtain ⟨hfirst, hslots⟩ := Option.or_eq_none_iff.mp hnone
  refine Option.or_eq_none_iff.mpr ⟨hfirst, List.findSome?_eq_none_iff.mpr fun x hx => ?_⟩
  have hslot := List.findSome?_eq_none_iff.mp hslots x hx
  simp only [faultIf_eq_none, Bool.and_eq_false_imp, Bool.not_eq_false'] at hslot ⊢
  exact fun hset => h.range x.1 (hslot hset)

theorem emoteFault_mono (h : l.Within l') {emote : UInt32} (hnone : l.emoteFault c emote = none) :
    l'.emoteFault c emote = none := by
  obtain ⟨hfirst, hslots⟩ := Option.or_eq_none_iff.mp hnone
  refine Option.or_eq_none_iff.mpr
    ⟨unknown_mono h.catalog.emotes hfirst, List.findSome?_eq_none_iff.mpr fun slot hslot => ?_⟩
  have hknown := List.findSome?_eq_none_iff.mp hslots slot hslot
  simp only [faultIf_eq_none, Bool.not_eq_false', knowsEmote, Bool.and_eq_true] at hknown ⊢
  exact ⟨hknown.1, h.catalog.emotes.contains hknown.2⟩

theorem creatureFault_mono (h : l.Within l') {entry : UInt32}
    (hnone : l.creatureFault entry = none) : l'.creatureFault entry = none :=
  unknownIf_mono h.catalog.creatureTemplates hnone

theorem displayFault_mono (h : l.Within l') {value : UInt32}
    (hnone : l.displayFault c value = none) : l'.displayFault c value = none := by
  unfold displayFault at hnone ⊢
  split
  · next hadditional =>
    rw [if_pos hadditional] at hnone
    exact unknownIf_mono h.catalog.displayModels hnone
  · next hentry =>
    rw [if_neg hentry] at hnone
    exact creatureFault_mono h hnone

/-! ### All parts -/

/-- The one fault that more game data can bring about: a taxi path that a spell starts. -/
def ambiguityFault (l : Loader) (c : Command) : Option Rejection :=
  match c.payload with
  | .sendTaxiPath path => l.taxiSpellFault path
  | _ => none

theorem ambiguityFault_of_lenient (h : l.options.strict = false) (c : Command) :
    l.ambiguityFault c = none := by
  unfold ambiguityFault taxiSpellFault
  rw [h]
  cases c.payload <;> rfl

theorem ambiguityFault_eq_some {reason : Rejection} (h : l.ambiguityFault c = some reason) :
    ∃ path spell, c.payload = .sendTaxiPath path ∧ l.options.strict = true ∧
      l.catalog.taxiSpell? path = some spell ∧ reason = .ambiguousTaxiPath path spell := by
  unfold ambiguityFault at h
  split at h
  · next path hpayload =>
    unfold taxiSpellFault at h
    split at h
    · next hstrict =>
      obtain ⟨spell, hspell, rfl⟩ := Option.map_eq_some_iff.mp h
      exact ⟨path, spell, hpayload, hstrict, hspell, rfl⟩
    · cases h
  · cases h

/-- Of an accepted command nothing else comes to be at fault. -/
theorem payloadFault_mono (h : l.Within l') (hnone : l.payloadFault c = none) :
    l'.payloadFault c = l'.ambiguityFault c := by
  unfold payloadFault at hnone ⊢
  unfold ambiguityFault
  generalize c.payload = payload at hnone ⊢
  cases payload with
  | talk => exact textFault_mono h hnone
  | emote => exact emoteFault_mono h hnone
  | teleportTo => exact or_mono (unknown_mono h.catalog.maps) id hnone
  | questExplored => exact or_mono (unknown_mono h.catalog.quests) id hnone
  | killCredit | terminateScript => exact creatureFault_mono h hnone
  | respawnGameObject | openDoor | closeDoor => exact objectFault_mono h hnone
  | tempSummonCreature => exact or_mono id (unknown_mono h.catalog.creatureTemplates) hnone
  | removeAura | castSpell => exact unknown_mono h.catalog.spells hnone
  | playSound => exact unknown_mono h.catalog.sounds hnone
  | createItem => exact or_mono (unknown_mono h.catalog.itemTemplates) id hnone
  | playMovie => cases hnone
  | setFaction => exact unknownIf_mono h.catalog.factions hnone
  | morphToEntryOrModel | mountToEntryOrModel => exact displayFault_mono h hnone
  | goLockState | standState => exact hnone
  | sendTaxiPath =>
    -- the path is still there, which leaves the spells that start it
    have hknown := unknown_mono h.catalog.taxiPaths (Option.or_eq_none_iff.mp hnone).1
    exact Option.or_eq_right_of_none hknown
  | terminateCondition =>
    exact or_mono (unknown_mono h.catalog.conditions) (unknownIf_mono h.catalog.quests) hnone
  | _ => rfl

theorem fault_mono (h : l.Within l') (hnone : l.fault c = none) :
    l'.fault c = l'.ambiguityFault c := by
  obtain ⟨hbuddy, hrest⟩ := Option.or_eq_none_iff.mp hnone
  obtain ⟨hflag, hpayload⟩ := Option.or_eq_none_iff.mp hrest
  rw [fault, buddyFault_mono h hbuddy, flagFault_mono h hflag, payloadFault_mono h hpayload]
  rfl

theorem check_mono (h : l.Within l') (hok : l.check row = .ok c) :
    l'.check row = (l'.ambiguityFault c).elim (.ok c) .error := by
  obtain ⟨hrow, hnone⟩ := check_eq_ok_iff.mp hok
  rw [check_of_ofRow hrow, fault_mono h hnone]

/-! ### Strictness -/

/-- The loader without strict checks. -/
def lenient (l : Loader) : Loader := { l with options := { l.options with strict := false } }

theorem within_lenient (l : Loader) : l.Within l.lenient :=
  ⟨.refl l.catalog, fun _ h => h⟩

/-- No spell starts a taxi path that strict checks accepted. -/
theorem taxiSpell_of_check (hstrict : l.options.strict = true) (hok : l.check row = .ok c)
    {path : UInt32} (hpayload : c.payload = .sendTaxiPath path) :
    l.catalog.taxiSpell? path = none := by
  have hnone := fault_mono ⟨.refl l.catalog, fun _ h => h⟩ (check_eq_ok_iff.mp hok).2
  rw [(check_eq_ok_iff.mp hok).2] at hnone
  simpa [ambiguityFault, hpayload, taxiSpellFault, hstrict] using hnone.symm

/-- A spell that starts a path which none started before is a new one. -/
theorem taxiSpell_isNew {c c' : Catalog} (h : c.Within c') {path spell : UInt32}
    (hbefore : c.taxiSpell? path = none) (hafter : c'.taxiSpell? path = some spell) :
    ∃ number s, s.id = spell ∧ c'.spells.get? number = some s ∧ c.spells.get? number = none := by
  obtain ⟨s, hfound, hid⟩ := Option.map_eq_some_iff.mp hafter
  obtain ⟨number, hs⟩ := (c'.spells.mem_values_iff s).mp (List.mem_of_find?_eq_some hfound)
  refine ⟨number, s, hid, hs, Option.eq_none_iff_forall_ne_some.mpr fun old hold => ?_⟩
  -- an entry that was there before is the same now
  obtain rfl : old = s := Option.some.inj ((h.spells number old hold).symm.trans hs)
  have hmem : old ∈ c.spells.values := (c.spells.mem_values_iff old).mpr ⟨number, hold⟩
  have hstarts := List.find?_some hfound
  exact List.find?_eq_none.mp (Option.map_eq_none_iff.mp hbefore) old hmem hstarts

/-- Checks are monotone. A row that is accepted is accepted, as the same command, by the same checks
without strictness, and by any checks without strictness over more game data and a wider range of
text ids. If those are strict, a row can come to be refused for one reason alone: it sends a player
along a taxi path that a spell starts, and where it had been accepted by strict checks too, that
spell is not in the game data of these. -/
theorem growth_keeps_rows (h : l.Within l') (hok : l.check row = .ok c) :
    l.lenient.check row = .ok c ∧
      (l'.options.strict = false → l'.check row = .ok c) ∧
      (l'.check row = .ok c ∨
        ∃ path spell, c.payload = .sendTaxiPath path ∧ l'.options.strict = true ∧
          l'.catalog.taxiSpell? path = some spell ∧
          l'.check row = .error (.ambiguousTaxiPath path spell) ∧
          (l.options.strict = true → ∃ number s, s.id = spell ∧
            l'.catalog.spells.get? number = some s ∧ l.catalog.spells.get? number = none)) := by
  have hkept : ∀ {k : Loader}, l.Within k → k.options.strict = false → k.check row = .ok c := by
    intro k hk hlenient
    rw [check_mono hk hok, ambiguityFault_of_lenient hlenient]
    rfl
  refine ⟨hkept l.within_lenient rfl, hkept h, ?_⟩
  cases hambiguous : l'.ambiguityFault c with
  | none =>
    left
    rw [check_mono h hok, hambiguous]
    rfl
  | some reason =>
    right
    obtain ⟨path, spell, hpayload, hstrict, hspell, rfl⟩ := ambiguityFault_eq_some hambiguous
    refine ⟨path, spell, hpayload, hstrict, hspell, ?_, fun hbefore => ?_⟩
    · rw [check_mono h hok, hambiguous]
      rfl
    · exact taxiSpell_isNew h.catalog (taxiSpell_of_check hbefore hok hpayload) hspell

/-- A taxi path that no spell starts. -/
def routes : Loader := ⟨{ taxiPaths := .ofList [(4, ⟨4, []⟩)] }, {}⟩

/-- The same path with a spell that starts it, and a wider range of text ids. -/
def flights : Loader :=
  let flight : Spell := ⟨70, "Flight", #v[⟨.sendTaxi, 4, 0⟩, .blank, .blank]⟩
  ⟨{ routes.catalog with spells := .ofList [(70, flight)] }, { maxText := 2000020000 }⟩

/-- A taxi path is refused once there is a spell that starts it, unless strictness is given up. -/
theorem growth_keeps_rows_flight :
    let row := (Row.new 1 0 30).withData 4 0
    let c : Command := .plain 1 0 (.sendTaxiPath 4)
    routes.Within flights ∧ routes.check row = .ok c ∧
      flights.check row = .error (.ambiguousTaxiPath 4 70) ∧ flights.lenient.check row = .ok c := by
  have hrow : Command.ofRow ((Row.new 1 0 30).withData 4 0) = .ok (.plain 1 0 (.sendTaxiPath 4)) :=
    rfl
  intro row c
  have hok : routes.check row = .ok c := check_eq_ok_iff.mpr ⟨hrow, by decide +kernel⟩
  have hrefused : flights.check row ≠ .ok c := fun h =>
    absurd (check_eq_ok_iff.mp h).2 (by decide +kernel)
  have hcatalog : routes.catalog.Within flights.catalog :=
    { Catalog.Within.refl routes.catalog with spells := OrderedMap.empty_within _ }
  have hrange : routes.options.RangeWithin flights.options :=
    LoaderOptions.rangeWithin_of_le (by decide) (by decide)
  have hwithin : routes.Within flights := ⟨hcatalog, hrange⟩
  have hgiven : routes.Within flights.lenient := ⟨hcatalog, hrange⟩
  have hlenient : flights.lenient.check row = .ok c := (growth_keeps_rows hgiven hok).2.1 rfl
  obtain ⟨-, -, hkept | ⟨path, spell, hpayload, -, hspell, hcheck, -⟩⟩ :=
    growth_keeps_rows hwithin hok
  · exact absurd hkept hrefused
  · obtain rfl : 4 = path := by injection hpayload
    have hflight : flights.catalog.taxiSpell? 4 = some 70 := by decide +kernel
    obtain rfl : 70 = spell := Option.some.inj (hflight.symm.trans hspell)
    exact ⟨hwithin, hok, hcheck, hlenient⟩

end Loader

end RegionScript
