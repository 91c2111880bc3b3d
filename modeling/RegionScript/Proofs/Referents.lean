import Mathlib.Data.Nat.Find
import RegionScript.Proofs.Scripts

/-!
What the ids of a table refer to.

Each family of scripts has ids of its own kind, and a table is searched for ids that refer to
nothing: `HasReferent` says for each family what there has to be. A spell has to have an effect that
starts its script. Of the effects that could, it is the first one of the highest priority, and there
is one as soon as any priority is not zero, which is all that the search looks at.
-/

namespace RegionScript

namespace Catalog

variable {c : Catalog} {s : Spell} {index : Nat}

/-! ### The effect that starts a script -/

/-- The first effect of the highest priority, if that is not zero. -/
structure IsFirstStarter (c : Catalog) (s : Spell) (index : Nat) : Prop where
  starts : c.startPriority s index ≠ 0
  highest : ∀ other, c.startPriority s other ≤ c.startPriority s index
  first : ∀ other < index, c.startPriority s other < c.startPriority s index

/-- Behind the last effect there is nothing to start a script. -/
theorem startPriority_eq_zero (h : effectCount ≤ index) : c.startPriority s index = 0 := by
  have hnone : s.effects[index]? = none := by simpa using h
  rw [startPriority, hnone]

theorem lt_of_startPriority_ne_zero (h : c.startPriority s index ≠ 0) : index < effectCount := by
  by_contra hbehind
  exact h (startPriority_eq_zero (Nat.le_of_not_lt hbehind))

theorem startsScript_iff : c.startsScript s index = true ↔ c.IsFirstStarter s index := by
  simp only [startsScript, Bool.and_eq_true, decide_eq_true_eq, List.all_eq_true, List.mem_range,
    Bool.or_eq_true]
  constructor
  · rintro ⟨hstarts, hall⟩
    refine ⟨hstarts, fun other => ?_, fun other hbefore => ?_⟩
    · by_cases hother : other < effectCount
      · rcases hall other hother with hless | ⟨hsame, -⟩
        · exact Nat.le_of_lt hless
        · exact Nat.le_of_eq hsame
      · rw [startPriority_eq_zero (Nat.le_of_not_lt hother)]
        exact Nat.zero_le _
    · have hother := Nat.lt_trans hbefore (lt_of_startPriority_ne_zero hstarts)
      rcases hall other hother with hless | ⟨-, hbehind⟩
      · exact hless
      · omega
  · intro h
    refine ⟨h.starts, fun other _ => ?_⟩
    by_cases hbefore : other < index
    · exact .inl (h.first other hbefore)
    · rcases Nat.lt_or_eq_of_le (h.highest other) with hless | hsame
      · exact .inl hless
      · exact .inr ⟨hsame, Nat.le_of_not_lt hbefore⟩

/-- Of two effects only one can come first. -/
theorem IsFirstStarter.unique {other : Nat} (h : c.IsFirstStarter s index)
    (h' : c.IsFirstStarter s other) : index = other := by
  rcases Nat.lt_trichotomy index other with hlt | heq | hgt
  · exact absurd (h'.first index hlt) (Nat.not_lt.mpr (h.highest other))
  · exact heq
  · exact absurd (h.first other hgt) (Nat.not_lt.mpr (h'.highest index))

/-- Some effect has the highest priority of all. -/
theorem exists_highest (c : Catalog) (s : Spell) :
    ∃ index, ∀ other, c.startPriority s other ≤ c.startPriority s index := by
  have hne : List.range effectCount ≠ [] := by decide
  refine ⟨(List.range effectCount).maxOn (c.startPriority s) hne, fun other => ?_⟩
  by_cases hother : other < effectCount
  · exact List.le_apply_maxOn_of_mem (List.mem_range.mpr hother)
  · rw [startPriority_eq_zero (Nat.le_of_not_lt hother)]
    exact Nat.zero_le _

open Classical in
/-- Where any effect has a priority, one of them comes first. -/
theorem exists_isFirstStarter (h : c.startPriority s index ≠ 0) :
    ∃ first, c.IsFirstStarter s first := by
  -- the least index that nothing is above
  have hexists := exists_highest c s
  have hhighest := Nat.find_spec hexists
  refine ⟨Nat.find hexists, fun hzero => ?_, hhighest, fun other hbefore => ?_⟩
  · have hless := hhighest index
    omega
  · obtain ⟨higher, hhigher⟩ := not_forall.mp (Nat.find_min hexists hbefore)
    exact Nat.lt_of_lt_of_le (Nat.lt_of_not_le hhigher) (hhighest higher)

/-- A spell can start its script just if one of its effects does. -/
theorem isStarter_iff : c.isStarter s = true ↔ ∃ index, c.startsScript s index = true := by
  simp only [isStarter, List.any_eq_true, List.mem_range, decide_eq_true_eq, startsScript_iff]
  constructor
  · rintro ⟨index, -, hstarts⟩
    exact exists_isFirstStarter hstarts
  · rintro ⟨index, hfirst⟩
    exact ⟨index, lt_of_startPriority_ne_zero hfirst.starts, hfirst.starts⟩

/-! ### Events -/

/-- The events that something raises. -/
inductive Raises (c : Catalog) : UInt32 → Prop
  | object {entry event : UInt32} {t : GameObjectTemplate}
      (found : c.gameObjectTemplates.get? entry = some t)
      (type : t.type = .goober ∨ t.type = .chest ∨ t.type = .camera ∨ t.type = .capturePoint)
      (listed : event ∈ t.eventIds) (nonzero : event ≠ 0) : Raises c event
  | spell {id : UInt32} {s : Spell} {e : SpellEffect} (found : c.spells.get? id = some s)
      (effect : e ∈ s.effects) (sends : e.kind = .sendEvent) (positive : 0 < e.miscValue) :
      Raises c e.miscValue.toUInt32
  | taxi {id event : UInt32} {p : TaxiPath} {n : TaxiNode} (found : c.taxiPaths.get? id = some p)
      (node : n ∈ p.nodes) (listed : event = n.arrivalEvent ∨ event = n.departureEvent)
      (nonzero : event ≠ 0) : Raises c event

theorem raisesEvents_iff {type : GameObjectType} : type.raisesEvents = true ↔
    type = .goober ∨ type = .chest ∨ type = .camera ∨ type = .capturePoint := by
  cases type <;> decide

/-- A positive number is not zero as a word. -/
theorem toUInt32_ne_zero {n : Int32} (h : 0 < n) : n.toUInt32 ≠ 0 := by
  intro hzero
  have hn : n = 0 := congrArg Int32.ofUInt32 hzero
  exact absurd (hn ▸ h) (by decide)

theorem contains_eventIds_iff {event : UInt32} :
    c.eventIds.contains event = true ↔ c.Raises event := by
  rw [eventIds, OrderedSet.contains_ofList_iff, List.mem_filter, List.mem_append, List.mem_append,
    decide_eq_true_eq]
  constructor
  · rintro ⟨(hobject | hspell) | htaxi, hnonzero⟩
    · obtain ⟨t, ht, hlisted⟩ := List.mem_flatMap.mp hobject
      obtain ⟨hmem, htype⟩ := List.mem_filter.mp ht
      obtain ⟨entry, hfound⟩ := (OrderedMap.mem_values_iff _ t).mp hmem
      exact .object hfound (raisesEvents_iff.mp htype) hlisted hnonzero
    · obtain ⟨s, hs, hsent⟩ := List.mem_flatMap.mp hspell
      obtain ⟨id, hfound⟩ := (OrderedMap.mem_values_iff _ s).mp hs
      obtain ⟨e, he, rfl⟩ := List.mem_map.mp hsent
      obtain ⟨hmem, hsends⟩ := List.mem_filter.mp he
      obtain ⟨hkind, hpositive⟩ := Bool.and_eq_true_iff.mp hsends
      exact .spell hfound (by simpa using hmem) (of_decide_eq_true hkind)
        (of_decide_eq_true hpositive)
    · obtain ⟨p, hp, hlisted⟩ := List.mem_flatMap.mp htaxi
      obtain ⟨id, hfound⟩ := (OrderedMap.mem_values_iff _ p).mp hp
      obtain ⟨n, hn, hends⟩ := List.mem_flatMap.mp hlisted
      exact .taxi hfound hn (by simpa using hends) hnonzero
  · intro h
    cases h with
    | @object entry event t found type listed nonzero =>
      have ht : t ∈ c.gameObjectTemplates.values :=
        (OrderedMap.mem_values_iff _ t).mpr ⟨entry, found⟩
      refine ⟨.inl (.inl (List.mem_flatMap.mpr ⟨t, ?_, listed⟩)), nonzero⟩
      exact List.mem_filter.mpr ⟨ht, raisesEvents_iff.mpr type⟩
    | @spell id s e found effect sends positive =>
      have hs : s ∈ c.spells.values := (OrderedMap.mem_values_iff _ s).mpr ⟨id, found⟩
      refine ⟨.inl (.inr (List.mem_flatMap.mpr ⟨s, hs, ?_⟩)), toUInt32_ne_zero positive⟩
      refine List.mem_map.mpr ⟨e, List.mem_filter.mpr ⟨by simpa using effect, ?_⟩, rfl⟩
      simp [sends, positive]
    | @taxi id event p n found node listed nonzero =>
      have hp : p ∈ c.taxiPaths.values := (OrderedMap.mem_values_iff _ p).mpr ⟨id, found⟩
      refine ⟨.inr (List.mem_flatMap.mpr ⟨p, hp, ?_⟩), nonzero⟩
      exact List.mem_flatMap.mpr ⟨n, node, by simpa using listed⟩

/-! ### Ids of any family -/

/-- What there has to be for an id of a family. -/
def HasReferent (c : Catalog) (id : UInt32) : TableKind → Prop
  | .gameObjectUse => ∃ spawn, c.gameObjectSpawns.get? id = some spawn
  | .gameObjectTemplateUse => ∃ t, c.gameObjectTemplates.get? id = some t
  | .questStart | .questEnd => ∃ quest, c.quests.get? id = some quest
  | .spell => ∃ s, c.spells.get? id = some s ∧ ∃ index, c.startsScript s index = true
  | .event => c.Raises id
  | .creatureDeath => ∃ t, c.creatureTemplates.get? id = some t
  | .gossip | .creatureMovement => True

end Catalog

namespace Loader

theorem isKnownId_iff {l : Loader} {kind : TableKind} {id : UInt32} :
    l.isKnownId kind id = true ↔ l.catalog.HasReferent id kind := by
  cases kind with
  | gameObjectUse | gameObjectTemplateUse | questStart | questEnd | creatureDeath =>
    exact OrderedMap.contains_iff _ id
  | gossip | creatureMovement => exact iff_of_true rfl trivial
  | event => exact Catalog.contains_eventIds_iff
  | spell =>
    unfold isKnownId Catalog.HasReferent
    cases l.catalog.spells.get? id with
    | none => simp
    | some s => simpa using Catalog.isStarter_iff

/-- The ids that a search of a table finds are those that refer to nothing, ascending; and an id of
a spell refers to one only if an effect of it starts its script. That is never more than one effect,
and where any has a priority it is the first of those that have the highest. -/
theorem unknown_ids_exact (l : Loader) (t : ScriptTable) :
    (l.unknownIds t).Pairwise (· < ·) ∧
    (∀ id, id ∈ l.unknownIds t ↔
      (∃ script, t.get? id = some script) ∧ ¬ l.catalog.HasReferent id t.kind) ∧
    ∀ s : Spell,
      (∀ i j, l.catalog.startsScript s i = true → l.catalog.startsScript s j = true → i = j) ∧
      ((∃ i, l.catalog.startPriority s i ≠ 0) → ∃ i, l.catalog.startsScript s i = true ∧
        (∀ j, l.catalog.startPriority s j ≤ l.catalog.startPriority s i) ∧
        ∀ j < i, l.catalog.startPriority s j < l.catalog.startPriority s i) := by
  refine ⟨t.scripts.keys_ascending.filter _, fun id => ?_, fun s => ⟨fun i j hi hj => ?_, ?_⟩⟩
  · rw [unknownIds, List.mem_filter, Bool.not_eq_true', ← isKnownId_iff, Bool.not_eq_true]
    exact and_congr_left fun _ => OrderedMap.mem_keys_iff _ id
  · exact (Catalog.startsScript_iff.mp hi).unique (Catalog.startsScript_iff.mp hj)
  · rintro ⟨index, hindex⟩
    obtain ⟨i, hi⟩ := Catalog.exists_isFirstStarter hindex
    exact ⟨i, Catalog.startsScript_iff.mpr hi, hi.highest, hi.first⟩

/-- A spell with two effects that could start its script. -/
def twins : Spell := ⟨900, "Twins", #v[.blank, ⟨.dummy, 0, 0⟩, ⟨.dummy, 0, 0⟩]⟩

/-- A spell that sends an event, and one that triggers a spell that is not there. -/
def spellbook : Catalog where
  spells := .ofList [(900, twins),
    (901, ⟨901, "Signal", #v[⟨.sendEvent, 5000, 0⟩, .blank, .blank]⟩),
    (902, ⟨902, "Echo", #v[.blank, ⟨.triggerSpell, 0, 999⟩, .blank]⟩)]

/-- Scripts of four spells, one of which is not there. -/
def spellScripts : ScriptTable :=
  .ofCommands .spell "dbscripts_on_spell"
    ([950, 902, 900, 901].map fun id => .plain id 0 .attackStart)

/-- The first of the twins starts their script, and the echo one of its own. The signal is a spell
of which no effect starts a script. -/
theorem unknown_ids_exact_spellbook :
    (∀ i, spellbook.startsScript twins i = true ↔ i = 1) ∧
      spellbook.startPriority twins 1 = 9 ∧ (∀ j, spellbook.startPriority twins j ≤ 9) ∧
      Loader.unknownIds ⟨spellbook, {}⟩ spellScripts = [901, 950] ∧
      spellbook.spells.contains 901 = true ∧ ¬ spellbook.HasReferent 901 .spell ∧
      spellbook.HasReferent 902 .spell := by
  obtain ⟨-, hunknown, hspells⟩ := unknown_ids_exact ⟨spellbook, {}⟩ spellScripts
  obtain ⟨honce, hfirst⟩ := hspells twins
  have hone : spellbook.startsScript twins 1 = true := by decide
  obtain ⟨i, hi, hhighest, -⟩ := hfirst ⟨1, by decide⟩
  obtain rfl := honce i 1 hi hone
  refine ⟨fun i => ⟨fun hi => honce i 1 hi hone, ?_⟩, by decide, hhighest, by decide, by decide,
    ((hunknown 901).mp (by decide)).2, ?_⟩
  · rintro rfl
    exact hone
  · by_contra hnone
    exact absurd ((hunknown 902).mpr ⟨⟨_, rfl⟩, hnone⟩) (by decide)

end Loader

end RegionScript
