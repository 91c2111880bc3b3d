import RegionScript.Proofs.Lookups
import RegionScript.Proofs.Sights

/-!
What a search finds.

A region walks its objects in the order of their guids. So the first of the nearest candidates is
the one with the smallest guid among them, and a search is known by its candidates alone.
-/

namespace RegionScript

/-! ### The nearest of a list -/

theorem nearest_eq_none_iff {l : List (Single × Guid)} : nearest l = none ↔ l = [] := by
  cases l with
  | nil => exact iff_of_true rfl rfl
  | cons x rest =>
    refine iff_of_false (fun h => ?_) (List.cons_ne_nil x rest)
    unfold nearest at h
    split at h
    · cases h
    · split at h <;> cases h

/-- The nearest is one of those compared. -/
theorem nearest_mem : ∀ {l : List (Single × Guid)} {x : Single × Guid}, nearest l = some x → x ∈ l
  | [], x, h => by cases h
  | y :: rest, x, h => by
    unfold nearest at h
    split at h
    · obtain rfl := Option.some.inj h
      exact List.mem_cons_self ..
    · next z hz =>
      have hmem := List.mem_cons_of_mem y (nearest_mem hz)
      split at h
      · exact Option.some.inj h ▸ hmem
      · exact Option.some.inj h ▸ List.mem_cons_self ..

/-- Nothing in a list with ascending guids is nearer than the nearest, and what is as near has a
larger guid. -/
theorem nearest_least :
    ∀ {l : List (Single × Guid)} {x : Single × Guid},
      (l.Pairwise fun a b => compare a.2 b.2 = .lt) → nearest l = some x → ∀ y ∈ l,
        x.1.rank < y.1.rank ∨ x.1.rank = y.1.rank ∧ (x.2 = y.2 ∨ compare x.2 y.2 = .lt)
  | [], _, _, h, _, _ => by cases h
  | z :: rest, x, hascending, h, y, hy => by
    obtain ⟨hfirst, hrest⟩ := List.pairwise_cons.mp hascending
    unfold nearest at h
    cases hnear : nearest rest with
    | none =>
      obtain rfl : z = x := by simpa [hnear] using h
      obtain rfl := nearest_eq_none_iff.mp hnear
      obtain rfl := List.mem_singleton.mp hy
      exact .inr ⟨rfl, .inl rfl⟩
    | some w =>
      simp only [hnear] at h
      have hleast := nearest_least hrest hnear
      split at h
      -- a later one is strictly nearer than the first
      · next hlt =>
        obtain rfl := Option.some.inj h
        rcases List.mem_cons.mp hy with rfl | hy
        · exact .inl hlt
        · exact hleast y hy
      -- the first is at least as near as the nearest of the others, and comes before all of them
      · next hle =>
        obtain rfl := Option.some.inj h
        rcases List.mem_cons.mp hy with rfl | hy
        · exact .inr ⟨rfl, .inl rfl⟩
        · rcases Int.lt_trichotomy z.1.rank y.1.rank with hlt | heq | hgt
          · exact .inl hlt
          · exact .inr ⟨heq, .inr (hfirst y hy)⟩
          · exact absurd (hleast y hy) (by omega)

/-! ### What is in range -/

section InRange

variable {α : Type}

/-- The objects of a map that a search is for and that are in range, with their distances. -/
def inRange (m : OrderedMap Guid α) (guid : α → Guid) (sought : α → Bool) (distance : α → Single)
    (radius : Single) : List (Single × Guid) :=
  ((m.values.filter sought).map fun a => (distance a, guid a)).filter (·.1.le radius)

variable {m : OrderedMap Guid α} {guid : α → Guid} {sought : α → Bool} {distance : α → Single}
  {radius : Single} (hm : ∀ k a, m.get? k = some a → guid a = k)

include hm

theorem mem_inRange_iff {d : Single} {g : Guid} :
    (d, g) ∈ inRange m guid sought distance radius ↔
      ∃ a, m.get? g = some a ∧ sought a = true ∧ d = distance a ∧ d.le radius = true := by
  unfold inRange
  rw [List.mem_filter, List.mem_map]
  constructor
  · rintro ⟨⟨a, ha, hpair⟩, hradius⟩
    obtain ⟨rfl, rfl⟩ := Prod.mk.inj hpair
    obtain ⟨hwalked, hsought⟩ := List.mem_filter.mp ha
    obtain ⟨k, hk⟩ := (OrderedMap.mem_values_iff m a).mp hwalked
    obtain rfl := hm k a hk
    exact ⟨a, hk, hsought, rfl, hradius⟩
  · rintro ⟨a, ha, hsought, rfl, hradius⟩
    have hwalked := (OrderedMap.mem_values_iff m a).mpr ⟨g, ha⟩
    exact ⟨⟨a, List.mem_filter.mpr ⟨hwalked, hsought⟩, by rw [hm g a ha]⟩, hradius⟩

theorem inRange_ascending :
    (inRange m guid sought distance radius).Pairwise fun a b => compare a.2 b.2 = .lt := by
  refine List.Pairwise.filter _ (List.pairwise_map.mpr (List.Pairwise.filter _ ?_))
  exact OrderedMap.values_ascending hm

end InRange

namespace Region

variable {r : Region} {searcher : Guid} {entry : UInt32} {radius : Single} {scope : SearchScope}

/-! ### Searches -/

/-- A creature that a search may find, with its distance from edge to edge: it lives, is not the
searcher, is of the entry, is no pet unless the search sees them, and is in range. -/
def CreatureInRange (r : Region) (searcher : Guid) (entry : UInt32) (radius : Single)
    (scope : SearchScope) (g : Guid) (d : Single) : Prop :=
  ∃ o p c, r.object? searcher = some o ∧ o.position? = some p ∧ r.creature? g = some c ∧
    c.unit.alive = true ∧ g ≠ searcher ∧ g.entry = entry ∧ (g.kind = .pet → scope = .world) ∧
    d = gap p o.boundingRadius c.unit.position c.unit.boundingRadius ∧ d.le radius = true

/-- A game object that a search may find, with its distance, spawned or not. -/
def GameObjectInRange (r : Region) (searcher : Guid) (entry : UInt32) (radius : Single) (g : Guid)
    (d : Single) : Prop :=
  ∃ o p x, r.object? searcher = some o ∧ o.position? = some p ∧ r.gameObject? g = some x ∧
    g ≠ searcher ∧ g.entry = entry ∧ d = gap p o.boundingRadius x.position .zero ∧
    d.le radius = true

/-- What a search has to find among its candidates: nothing if the searcher is not here, or has no
place, or there is no candidate; and else a candidate of the smallest distance, and of those the one
with the smallest guid. -/
structure FindsNearest (r : Region) (searcher : Guid) (candidate : Guid → Single → Prop)
    (found : Option Guid) : Prop where
  none_iff : found = none ↔
    r.object? searcher = none ∨ (∃ o, r.object? searcher = some o ∧ o.position? = none) ∨
      ∀ g d, ¬ candidate g d
  least : ∀ g, found = some g → ∃ d, candidate g d ∧ ∀ g' d', candidate g' d' →
    d.rank < d'.rank ∨ d.rank = d'.rank ∧ (g = g' ∨ compare g g' = .lt)

/-- A search starts from an object that has a place. -/
theorem searchOrigin?_eq_some_iff {origin : Position × Single} :
    r.searchOrigin? searcher = some origin ↔
      ∃ o p, r.object? searcher = some o ∧ o.position? = some p ∧
        (p, o.boundingRadius) = origin := by
  unfold searchOrigin?
  simp only [Option.bind_eq_bind, Option.bind_eq_some_iff, Option.some.injEq, exists_and_left]

theorem searchOrigin?_eq_none_iff :
    r.searchOrigin? searcher = none ↔
      r.object? searcher = none ∨ ∃ o, r.object? searcher = some o ∧ o.position? = none := by
  unfold searchOrigin?
  cases r.object? searcher with
  | none => simp
  | some o => cases hp : o.position? <;> simp [hp]

/-- A search finds what it has to if its candidates, walked in the order of their guids, are the
right ones. -/
theorem findsNearest_of_candidates {candidate : Guid → Single → Prop}
    {candidates : Position × Single → List (Single × Guid)}
    (hascending : ∀ origin, (candidates origin).Pairwise fun a b => compare a.2 b.2 = .lt)
    (hcandidate : ∀ g d, candidate g d ↔
      ∃ origin, r.searchOrigin? searcher = some origin ∧ (d, g) ∈ candidates origin) :
    r.FindsNearest searcher candidate
      ((r.searchOrigin? searcher).bind fun origin => (nearest (candidates origin)).map (·.2)) := by
  cases horigin : r.searchOrigin? searcher with
  | none =>
    have hnone := searchOrigin?_eq_none_iff.mp horigin
    exact ⟨iff_of_true rfl (or_assoc.mp (.inl hnone)), fun g h => by cases h⟩
  | some origin =>
    have hthere : ¬ (r.object? searcher = none ∨
        ∃ o, r.object? searcher = some o ∧ o.position? = none) := fun hnone => by
      rw [searchOrigin?_eq_none_iff.mpr hnone] at horigin
      cases horigin
    have hmem : ∀ g d, candidate g d ↔ (d, g) ∈ candidates origin := fun g d => by
      rw [hcandidate, horigin]
      simp
    rw [Option.bind_some]
    constructor
    · rw [Option.map_eq_none_iff, nearest_eq_none_iff, ← or_assoc, or_iff_right hthere]
      simp only [hmem, List.eq_nil_iff_forall_not_mem, Prod.forall]
      exact forall_comm
    · intro g hg
      obtain ⟨⟨d, _⟩, hx, rfl⟩ := Option.map_eq_some_iff.mp hg
      refine ⟨d, (hmem _ d).mpr (nearest_mem hx), fun g' d' h' => ?_⟩
      exact nearest_least (hascending origin) hx (d', g') ((hmem g' d').mp h')

variable (hr : r.WellKeyed)

include hr

theorem nearestCreature_findsNearest :
    r.FindsNearest searcher (r.CreatureInRange searcher entry radius scope)
      (r.nearestCreature searcher entry radius scope) := by
  have hkeyed := fun g c h => (hr.creature g c h).1
  refine findsNearest_of_candidates (fun origin => inRange_ascending hkeyed) fun g d => ?_
  constructor
  · rintro ⟨o, p, c, ho, hp, hc, halive, hother, hentry, hpet, hd, hradius⟩
    refine ⟨_, searchOrigin?_eq_some_iff.mpr ⟨o, p, ho, hp, rfl⟩, ?_⟩
    refine (mem_inRange_iff hkeyed).mpr ⟨c, hc, ?_, hd, hradius⟩
    obtain rfl := hkeyed g c hc
    have hscope : scope = .world ∨ c.guid.kind ≠ .pet :=
      (Decidable.em _).imp_right fun h hkind => h (hpet hkind)
    simpa [hother, hentry, halive, Creature.isPet] using hscope
  · rintro ⟨origin, horigin, hmem⟩
    obtain ⟨o, p, ho, hp, rfl⟩ := searchOrigin?_eq_some_iff.mp horigin
    obtain ⟨c, hc, hsought, hd, hradius⟩ := (mem_inRange_iff hkeyed).mp hmem
    obtain rfl := hkeyed g c hc
    simp only [Bool.and_eq_true, Bool.or_eq_true, decide_eq_true_eq] at hsought
    obtain ⟨⟨⟨hother, hentry⟩, halive⟩, hscope⟩ := hsought
    refine ⟨o, p, c, ho, hp, hc, halive, hother, hentry, fun hpet => ?_, hd, hradius⟩
    exact hscope.resolve_right (by simp [Creature.isPet, hpet])

theorem nearestGameObject_findsNearest :
    r.FindsNearest searcher (r.GameObjectInRange searcher entry radius)
      (r.nearestGameObject searcher entry radius) := by
  have hkeyed := fun g o h => (hr.gameObject g o h).1
  refine findsNearest_of_candidates (fun origin => inRange_ascending hkeyed) fun g d => ?_
  constructor
  · rintro ⟨o, p, x, ho, hp, hx, hother, hentry, hd, hradius⟩
    refine ⟨_, searchOrigin?_eq_some_iff.mpr ⟨o, p, ho, hp, rfl⟩, ?_⟩
    refine (mem_inRange_iff hkeyed).mpr ⟨x, hx, ?_, hd, hradius⟩
    obtain rfl := hkeyed g x hx
    simp [hother, hentry]
  · rintro ⟨origin, horigin, hmem⟩
    obtain ⟨o, p, ho, hp, rfl⟩ := searchOrigin?_eq_some_iff.mp horigin
    obtain ⟨x, hx, hsought, hd, hradius⟩ := (mem_inRange_iff hkeyed).mp hmem
    obtain rfl := hkeyed g x hx
    simp only [Bool.and_eq_true, decide_eq_true_eq] at hsought
    exact ⟨o, p, x, ho, hp, hx, hsought.1, hsought.2, hd, hradius⟩

namespace WellKeyed

/-- The creature that a search gives is here, and of the entry that was asked for. -/
theorem creature?_of_nearestCreature {g : Guid}
    (h : r.nearestCreature searcher entry radius scope = some g) :
    ∃ c, r.creature? g = some c ∧ g.entry = entry := by
  obtain ⟨d, ⟨o, p, c, -, -, hc, -, -, hentry, -⟩, -⟩ := (nearestCreature_findsNearest hr).least g h
  exact ⟨c, hc, hentry⟩

/-- The game object that a search gives is here, and of the entry that was asked for. -/
theorem gameObject?_of_nearestGameObject {g : Guid}
    (h : r.nearestGameObject searcher entry radius = some g) :
    ∃ o, r.gameObject? g = some o ∧ g.entry = entry := by
  obtain ⟨d, ⟨o, p, x, -, -, hx, -, hentry, -⟩, -⟩ := (nearestGameObject_findsNearest hr).least g h
  exact ⟨x, hx, hentry⟩

end WellKeyed

end Region

/-! ### In any region -/

/-- Searches are exact: they find nothing only for want of a searcher, of its place or of a
candidate, and else they find a candidate of the smallest distance, of those the one with the
smallest guid. The order in which objects of different guids were added to the region does not
matter. -/
theorem nearest_search_exact {r : Region} (hr : r.WellKeyed) (searcher : Guid) (entry : UInt32)
    (radius : Single) :
    (∀ scope, r.FindsNearest searcher (r.CreatureInRange searcher entry radius scope)
      (r.nearestCreature searcher entry radius scope)) ∧
    r.FindsNearest searcher (r.GameObjectInRange searcher entry radius)
      (r.nearestGameObject searcher entry radius) ∧
    ∀ objects objects' : List Object, objects.Perm objects' → (objects.map Object.guid).Nodup →
      let s := objects.foldl Scene.place r
      let s' := objects'.foldl Scene.place r
      (∀ scope, s.nearestCreature searcher entry radius scope =
        s'.nearestCreature searcher entry radius scope) ∧
      s.nearestGameObject searcher entry radius = s'.nearestGameObject searcher entry radius := by
  refine ⟨fun scope => Region.nearestCreature_findsNearest hr,
    Region.nearestGameObject_findsNearest hr, fun objects objects' hperm hnodup => ?_⟩
  have hsights := Scene.sights_of_perm hperm hnodup r
  exact ⟨fun scope => congrFun₂ (congrFun₂ (Region.nearestCreature_congr hsights) _ _) _ _,
    congrFun (congrFun₂ (Region.nearestGameObject_congr hsights) _ _) _⟩

/-- A point of the ground plane. -/
def groundPoint (x y : UInt32) : Position := ⟨.ofUInt32 x, .ofUInt32 y, .zero, .zero⟩

/-- A wolf, wild or tame. -/
def wolf (kind : ObjectKind) (counter : UInt32) (position : Position) : Creature :=
  .spawn ⟨kind, 20, counter⟩ position 7 30

/-- A dead wolf. -/
def deadWolf : Creature :=
  let c := wolf .creature 2 (groundPoint 2 0)
  { c with unit := { c.unit with alive := false } }

/-- A wolf trap that is not there for now. -/
def wolfTrap : GameObject :=
  { guid := .gameObject 20 4, type := .trap, position := groundPoint 4 0, spawned := false }

/-- A hunter at the origin, two wolves ten units away, a dead one and a tame one nearer by, and a
trap. -/
def huntingGround : List Object :=
  [.creature (.spawn (.creature 12 1) .origin 7 30),
    .creature (wolf .creature 5 (groundPoint 10 0)),
    .creature (wolf .creature 3 (groundPoint 0 10)),
    .creature deadWolf, .creature (wolf .pet 1 (groundPoint 3 0)), .gameObject wolfTrap]

/-- Of the two wolves that are as far away the hunter finds the one with the smaller guid, and the
tame one if pets are seen; and the trap, though it is not there; the objects added in whatever
order. -/
theorem nearest_search_exact_hunt :
    let r := huntingGround.foldl Scene.place { id := 0 }
    let hunter := Guid.creature 12 1
    let radius := Single.ofUInt32 30
    (r.WellKeyed ∧ huntingGround.Perm huntingGround.reverse ∧
      (huntingGround.map Object.guid).Nodup) ∧
    r.nearestCreature hunter 20 radius .grid = some (.creature 20 3) ∧
    r.nearestCreature hunter 20 radius .world = some ⟨.pet, 20, 1⟩ ∧
    r.nearestGameObject hunter 20 radius = some (.gameObject 20 4) ∧
    (∃ d, r.CreatureInRange hunter 20 radius .grid (.creature 20 3) d ∧
      ∀ g' d', r.CreatureInRange hunter 20 radius .grid g' d' → d.rank < d'.rank ∨
        d.rank = d'.rank ∧ (Guid.creature 20 3 = g' ∨ compare (Guid.creature 20 3) g' = .lt)) ∧
    (huntingGround.reverse.foldl Scene.place { id := 0 }).nearestCreature hunter 20 radius .grid =
      some (.creature 20 3) := by
  intro r hunter radius
  have hr : r.WellKeyed := by
    have hhunter :=
      (Region.wellKeyed_empty 0).addCreature (c := .spawn (.creature 12 1) .origin 7 30) rfl
    have hfar := hhunter.addCreature (c := wolf .creature 5 (groundPoint 10 0)) rfl
    have hother := hfar.addCreature (c := wolf .creature 3 (groundPoint 0 10)) rfl
    have hdead := hother.addCreature (c := deadWolf) rfl
    have htame := hdead.addCreature (c := wolf .pet 1 (groundPoint 3 0)) rfl
    exact htame.addGameObject (o := wolfTrap) rfl
  have hperm : huntingGround.Perm huntingGround.reverse := (List.reverse_perm _).symm
  have hnodup : (huntingGround.map Object.guid).Nodup := by decide +kernel
  have hwolf : r.nearestCreature hunter 20 radius .grid = some (.creature 20 3) := by
    decide +kernel
  have horder := (nearest_search_exact (Region.wellKeyed_empty 0) hunter 20 radius).2.2 _ _ hperm
    hnodup
  refine ⟨⟨hr, hperm, hnodup⟩, hwolf, by decide +kernel, by decide +kernel, ?_, ?_⟩
  · exact ((nearest_search_exact hr hunter 20 radius).1 .grid).least _ hwolf
  · exact (horder.1 .grid).symm.trans hwolf

end RegionScript
