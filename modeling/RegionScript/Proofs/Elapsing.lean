import Mathlib.Algebra.GroupWithZero.Nat
import Mathlib.Data.List.Perm.Basic
import RegionScript.OrderedMap.Lemmas
import RegionScript.Region.Advance
import RegionScript.Region.Effects

/-!
How time passes may be split.

When the clock moves on, what came due fires in one sweep, in the order of guids and not of the due
times. Each timer fires once, at the first sweep that is not before it; so moving on in two steps
gives the same region as moving on in one, and the same events, which may come in another order. By
this, after any number of moves the timers have fired that the sum of the moves has reached, and no
others. All of it is as long as the clock does not start over.
-/

namespace RegionScript

open List (Perm)

theorem perm_append_append_comm {α : Type} (a b c d : List α) :
    Perm (a ++ b ++ (c ++ d)) (a ++ c ++ (b ++ d)) := by
  rw [List.append_assoc, List.append_assoc]
  exact (List.perm_append_comm_assoc b c d).append_left a

/-- A time that has come has come. -/
theorem isDue_mono {time : Option UInt64} {n m : UInt64} (hle : n ≤ m) (h : isDue time n = true) :
    isDue time m = true := by
  cases time with
  | none => cases h
  | some t =>
    have ht : t ≤ n := of_decide_eq_true h
    exact decide_eq_true (UInt64.le_trans ht hle)

/-! ### Objects -/

namespace GameObject

variable (o : GameObject) {n m : UInt64}

/-- A reset fires at the first of two times or at the second one. -/
theorem fireReset_fireReset (hle : n ≤ m) :
    ((o.fireReset n).1.fireReset m).1 = (o.fireReset m).1 ∧
      (o.fireReset n).2 ++ ((o.fireReset n).1.fireReset m).2 = (o.fireReset m).2 := by
  cases hreset : o.reset with
  | none => simp [fireReset, hreset]
  | some reset =>
    by_cases hdue : reset.due ≤ n
    · have hlater : reset.due ≤ m := UInt64.le_trans hdue hle
      simp [fireReset, hreset, hdue, hlater]
    · simp [fireReset, hreset, hdue]

/-- So does a despawn. -/
theorem fireDespawn_fireDespawn (hle : n ≤ m) :
    ((o.fireDespawn n).1.fireDespawn m).1 = (o.fireDespawn m).1 ∧
      (o.fireDespawn n).2 ++ ((o.fireDespawn n).1.fireDespawn m).2 = (o.fireDespawn m).2 := by
  cases hdue : isDue o.despawnAt n with
  | true =>
    have hlater := isDue_mono hle hdue
    have hnone : isDue none m = false := rfl
    simp [fireDespawn, hdue, hlater, hnone]
  | false => simp [fireDespawn, hdue]

/-- The two do not get in each other's way. -/
theorem fireDespawn_fireReset (n m : UInt64) :
    ((o.fireReset n).1.fireDespawn m).1 = ((o.fireDespawn m).1.fireReset n).1 ∧
      ((o.fireReset n).1.fireDespawn m).2 = (o.fireDespawn m).2 ∧
      ((o.fireDespawn m).1.fireReset n).2 = (o.fireReset n).2 := by
  cases hreset : o.reset with
  | none => cases hdue : isDue o.despawnAt m <;> simp [fireReset, fireDespawn, hreset, hdue]
  | some reset =>
    by_cases hpast : reset.due ≤ n <;> cases hdue : isDue o.despawnAt m <;>
      simp [fireReset, fireDespawn, hreset, hpast, hdue]

theorem fire_eq (n : UInt64) :
    o.fire n = (((o.fireReset n).1.fireDespawn n).1, (o.fireReset n).2 ++ (o.fireDespawn n).2) := by
  rw [← (o.fireDespawn_fireReset n n).2.1]
  rfl

/-- Firing at one time and then at a later one is firing at the later one. Where the despawn is due
at the first and the reset at the second, the events come in another order. -/
theorem fire_fire (hle : n ≤ m) : ((o.fire n).1.fire m).1 = (o.fire m).1 ∧
    Perm ((o.fire n).2 ++ ((o.fire n).1.fire m).2) (o.fire m).2 := by
  obtain ⟨hreset, hresets⟩ := o.fireReset_fireReset hle
  obtain ⟨hdespawn, -⟩ := (o.fireReset m).1.fireDespawn_fireDespawn hle
  obtain ⟨hswap, -, hquiet⟩ := (o.fireReset n).1.fireDespawn_fireReset m n
  obtain ⟨hswap', -, -⟩ := o.fireDespawn_fireReset n n
  rw [fire_eq, fire_eq, fire_eq]
  constructor
  · rw [← hswap, hreset, hdespawn]
  · have hlast : (((o.fireReset n).1.fireDespawn n).1.fireDespawn m).2 =
        ((o.fireDespawn n).1.fireDespawn m).2 := by
      rw [hswap', ((o.fireDespawn n).1.fireDespawn_fireReset n m).2.1]
    rw [hquiet, hlast, ← hresets, ← (o.fireDespawn_fireDespawn hle).2]
    exact perm_append_append_comm ..

/-- An object whose timers have fired for the times that are reached. -/
def past (reached : UInt64 → Bool) : GameObject :=
  { o with
    state := ((o.reset.filter fun reset => reached reset.due).map (·.restore)).getD o.state
    reset := o.reset.filter fun reset => !reached reset.due
    spawned := o.spawned && !o.despawnAt.any reached
    despawnAt := o.despawnAt.filter fun due => !reached due }

/-- Before any time is reached an object is as it was. -/
theorem past_never : o.past (fun _ => false) = o := by
  obtain ⟨guid, type, position, zone, fields, state, spawned, despawnAt, reset⟩ := o
  cases despawnAt <;> cases reset <;> simp [past]

theorem fireReset_fst (n : UInt64) : (o.fireReset n).1 = { o with
    state := ((o.reset.filter fun reset => reset.due ≤ n).map (·.restore)).getD o.state
    reset := o.reset.filter fun reset => !decide (reset.due ≤ n) } := by
  obtain ⟨guid, type, position, zone, fields, state, spawned, despawnAt, reset⟩ := o
  cases reset with
  | none => rfl
  | some reset => by_cases hdue : reset.due ≤ n <;> simp [fireReset, Option.filter_some, hdue]

theorem fireDespawn_fst (n : UInt64) : (o.fireDespawn n).1 = { o with
    spawned := o.spawned && !o.despawnAt.any (· ≤ n)
    despawnAt := o.despawnAt.filter fun due => !decide (due ≤ n) } := by
  obtain ⟨guid, type, position, zone, fields, state, spawned, despawnAt, reset⟩ := o
  cases despawnAt with
  | none => simp [fireDespawn, isDue]
  | some due =>
    by_cases hdue : due ≤ n <;> simp [fireDespawn, isDue, Option.filter_some, hdue]

theorem fire_fst (n : UInt64) : (o.fire n).1 = o.past (· ≤ n) := by
  rw [fire_eq, fireDespawn_fst, fireReset_fst]
  rfl

end GameObject

/-- A creature that leaves at a time leaves at a later one, if it is still here. -/
theorem Creature.leaves_mono {c : Creature} {n m : UInt64} (hle : n ≤ m) (h : c.leaves n = true) :
    c.leaves m = true := by
  unfold leaves at h ⊢
  rcases Bool.or_eq_true_iff.mp h with hdue | hdead
  · exact Bool.or_eq_true_iff.mpr (.inl (isDue_mono hle hdue))
  · exact Bool.or_eq_true_iff.mpr (.inr hdead)

/-- When a creature that is here has to leave: a summoned one that is dead at once, the others at
their despawn time. -/
def Creature.due? (c : Creature) (now : UInt64) : Option UInt64 :=
  if c.summoned.isSome && !c.unit.alive then some now else c.despawnAt

theorem Creature.leaves_eq (c : Creature) {now later : UInt64} (hle : now ≤ later) :
    c.leaves later = (c.due? now).any (· ≤ later) := by
  unfold leaves due?
  split
  · next hdead => simp [hdead, hle]
  · next hdead =>
    rw [Bool.eq_false_iff.mpr hdead, Bool.or_false]
    cases c.despawnAt <;> rfl

/-! ### Regions -/

namespace Region

/-- Creatures are stored under their own guids. -/
def CreaturesKeyed (r : Region) : Prop := ∀ g c, r.creature? g = some c → c.guid = g

/-- What fires at a time, objects before creatures. -/
def fired (r : Region) (now : UInt64) : List WorldEvent :=
  r.gameObjects.values.flatMap (fun o => (o.fire now).2) ++ (r.leaving now).map .despawned

variable {r : Region}

theorem gameObjects_advance (r : Region) (elapsed : UInt64) : (r.advance elapsed).gameObjects =
    r.gameObjects.map fun _ o => (o.fire (r.now + elapsed)).1 := rfl

theorem events_advance (r : Region) (elapsed : UInt64) :
    (r.advance elapsed).events = r.events ++ r.fired (r.now + elapsed) :=
  List.append_assoc ..

theorem mem_leaving_iff (h : r.CreaturesKeyed) {now : UInt64} {g : Guid} :
    g ∈ r.leaving now ↔ ∃ c, r.creatures.get? g = some c ∧ c.leaves now = true := by
  unfold leaving
  rw [List.mem_map]
  constructor
  · rintro ⟨c, hc, rfl⟩
    obtain ⟨hmem, hleaves⟩ := List.mem_filter.mp hc
    obtain ⟨k, hk⟩ := (r.creatures.mem_values_iff c).mp hmem
    obtain rfl := h k c hk
    exact ⟨c, hk, hleaves⟩
  · rintro ⟨c, hc, hleaves⟩
    have hmem : c ∈ r.creatures.values := (r.creatures.mem_values_iff c).mpr ⟨g, hc⟩
    exact ⟨c, List.mem_filter.mpr ⟨hmem, hleaves⟩, h g c hc⟩

/-- Of creatures under their own guids those are gone that leave. -/
theorem creatures_advance (h : r.CreaturesKeyed) (elapsed : UInt64) :
    (r.advance elapsed).creatures =
      r.creatures.filter fun _ c => !c.leaves (r.now + elapsed) := by
  refine OrderedMap.ext_get? fun g => ?_
  show (r.creatures.eraseAll _).get? g = _
  rw [OrderedMap.get?_filter, OrderedMap.get?_eraseAll]
  have hleaving : g ∈ r.leaving (r.now + elapsed) ↔
      ∃ c, r.creatures.get? g = some c ∧ c.leaves (r.now + elapsed) = true := mem_leaving_iff h
  cases hc : r.creatures.get? g with
  | none => simp
  | some c =>
    cases hleaves : c.leaves (r.now + elapsed) <;>
      simp [hleaving, hc, hleaves, Option.filter_some]

theorem CreaturesKeyed.advance (h : r.CreaturesKeyed) (elapsed : UInt64) :
    (r.advance elapsed).CreaturesKeyed := by
  intro g c hc
  have hstays : (r.advance elapsed).creatures.get? g = some c := hc
  rw [creatures_advance h, OrderedMap.get?_filter] at hstays
  exact h g c (Option.filter_eq_some_iff.mp hstays).1

/-- Who leaves at one time and who then leaves at a later one are together who leaves at the later
one. -/
theorem leaving_perm (h : r.CreaturesKeyed) {a b : UInt64} (hfits : Clock.Fits (r.now + a) b) :
    Perm (r.leaving (r.now + a) ++ (r.advance a).leaving (r.now + a + b))
      (r.leaving (r.now + a + b)) := by
  unfold leaving
  rw [creatures_advance h, OrderedMap.values_filter, List.filter_filter, ← List.map_append]
  refine Perm.map _ ?_
  have hboth := List.filter_append_perm (fun c : Creature => c.leaves (r.now + a))
    (r.creatures.values.filter (·.leaves (r.now + a + b)))
  rw [List.filter_filter, List.filter_filter] at hboth
  have hfirst : ∀ c ∈ r.creatures.values,
      (c.leaves (r.now + a) && c.leaves (r.now + a + b)) = c.leaves (r.now + a) := by
    intro c _
    cases hleaves : c.leaves (r.now + a) with
    | false => rfl
    | true => exact Creature.leaves_mono hfits.le_add hleaves
  rw [List.filter_congr hfirst] at hboth
  refine Perm.trans (.of_eq (congrArg _ (List.filter_congr fun c _ => ?_))) hboth
  exact Bool.and_comm ..

theorem fired_perm (h : r.CreaturesKeyed) {a b : UInt64} (hfits : Clock.Fits (r.now + a) b) :
    Perm (r.fired (r.now + a) ++ (r.advance a).fired (r.now + a + b))
      (r.fired (r.now + a + b)) := by
  have hobjects : Perm
      (r.gameObjects.values.flatMap (fun o => (o.fire (r.now + a)).2) ++
        (r.advance a).gameObjects.values.flatMap fun o => (o.fire (r.now + a + b)).2)
      (r.gameObjects.values.flatMap fun o => (o.fire (r.now + a + b)).2) := by
    show Perm (_ ++ (r.gameObjects.map fun _ o => (o.fire (r.now + a)).1).values.flatMap _) _
    rw [OrderedMap.values_map, List.flatMap_map]
    refine (List.flatMap_append_perm ..).trans (.flatMap_left _ fun o _ => ?_)
    exact (o.fire_fire hfits.le_add).2
  refine (perm_append_append_comm ..).trans (hobjects.append ?_)
  rw [← List.map_append]
  exact (leaving_perm h hfits).map _

/-! ### Moving on in parts -/

/-- Two regions, both later than a third one, are the same but for the order of the events that have
come since. -/
structure SameSince (r x y : Region) : Prop where
  same : { x with events := y.events } = y
  events : ∃ new new', x.events = r.events ++ new ∧ y.events = r.events ++ new' ∧ Perm new new'

namespace SameSince

variable {x y z earlier : Region}

theorem trans (h : r.SameSince x y) (h' : r.SameSince y z) : r.SameSince x z where
  same := by rw [← h'.same, ← h.same]
  events := by
    obtain ⟨new, middle, hx, hy, hnew⟩ := h.events
    obtain ⟨middle', new', hy', hz, hnew'⟩ := h'.events
    obtain rfl := List.append_cancel_left (hy.symm.trans hy')
    exact ⟨new, new', hx, hz, hnew.trans hnew'⟩

theorem gameObjects_eq (h : r.SameSince x y) : x.gameObjects = y.gameObjects := by
  rw [← h.same]

theorem creatures_eq (h : r.SameSince x y) : x.creatures = y.creatures := by
  rw [← h.same]

/-- What is the same since some time is the same since an earlier one. -/
theorem since_earlier (h : r.SameSince x y) {before : List WorldEvent}
    (hbefore : r.events = earlier.events ++ before) : earlier.SameSince x y where
  same := h.same
  events := by
    obtain ⟨new, new', hx, hy, hnew⟩ := h.events
    refine ⟨before ++ new, before ++ new', ?_, ?_, hnew.append_left before⟩
    · rw [hx, hbefore, List.append_assoc]
    · rw [hy, hbefore, List.append_assoc]

end SameSince

theorem advance_advance (h : r.CreaturesKeyed) {a b : UInt64}
    (hfits : Clock.Fits (r.now + a) b) :
    r.SameSince ((r.advance a).advance b) (r.advance (a + b)) where
  same := by
    have hle : r.now + a ≤ r.now + (a + b) := UInt64.add_assoc .. ▸ hfits.le_add
    have hnow : ((r.advance a).advance b).now = (r.advance (a + b)).now := UInt64.add_assoc ..
    have hobjects : ((r.advance a).advance b).gameObjects = (r.advance (a + b)).gameObjects := by
      refine OrderedMap.ext_get? fun g => ?_
      rw [gameObjects_advance, gameObjects_advance, gameObjects_advance, OrderedMap.get?_map,
        OrderedMap.get?_map, OrderedMap.get?_map, Option.map_map]
      refine congrArg (Option.map · _) (funext fun o => ?_)
      show ((o.fire (r.now + a)).1.fire (r.now + a + b)).1 = (o.fire (r.now + (a + b))).1
      rw [UInt64.add_assoc, (o.fire_fire hle).1]
    have hcreatures : ((r.advance a).advance b).creatures = (r.advance (a + b)).creatures := by
      have hthen : (r.advance a).now + b = r.now + (a + b) := UInt64.add_assoc ..
      rw [creatures_advance (h.advance a), creatures_advance h, creatures_advance h, hthen]
      refine OrderedMap.ext_get? fun g => ?_
      rw [OrderedMap.get?_filter, OrderedMap.get?_filter, OrderedMap.get?_filter,
        Option.filter_filter]
      refine congrArg (Option.filter · _) (funext fun c => ?_)
      cases hleaves : c.leaves (r.now + a) with
      | false => simp
      | true => simp [Creature.leaves_mono hle hleaves]
    calc { (r.advance a).advance b with events := (r.advance (a + b)).events }
      _ = { r with
            now := ((r.advance a).advance b).now
            gameObjects := ((r.advance a).advance b).gameObjects
            creatures := ((r.advance a).advance b).creatures
            events := (r.advance (a + b)).events } := rfl
      _ = r.advance (a + b) := by
        rw [hnow, hobjects, hcreatures]
        rfl
  events := by
    refine ⟨r.fired (r.now + a) ++ (r.advance a).fired (r.now + a + b),
      r.fired (r.now + (a + b)), ?_, r.events_advance (a + b), ?_⟩
    · rw [events_advance, events_advance, List.append_assoc]
      rfl
    · rw [← UInt64.add_assoc]
      exact fired_perm h hfits

/-- Moves the clock on several times. -/
def advanceAll (r : Region) (moves : List UInt64) : Region := moves.foldl advance r

/-- How long all moves take together. -/
def total (moves : List UInt64) : Nat := (moves.map UInt64.toNat).sum

theorem total_cons (a : UInt64) (rest : List UInt64) :
    total (a :: rest) = a.toNat + total rest :=
  List.sum_cons

theorem toNat_ofNat {now : UInt64} {elapsed : Nat} (h : now.toNat + elapsed < 2 ^ 64) :
    (UInt64.ofNat elapsed).toNat = elapsed :=
  UInt64.toNat_ofNat_of_lt' (Nat.lt_of_le_of_lt (Nat.le_add_left ..) h)

theorem fits_ofNat {now : UInt64} {elapsed : Nat} (h : now.toNat + elapsed < 2 ^ 64) :
    Clock.Fits now (.ofNat elapsed) := by
  rw [Clock.Fits, toNat_ofNat h]
  exact h

/-- Moving on several times is moving on once by the sum, if the clock does not start over. -/
theorem advanceAll_sameSince {moves : List UInt64} (hmoves : moves ≠ []) : ∀ {r : Region},
    r.CreaturesKeyed → r.now.toNat + total moves < 2 ^ 64 →
      r.SameSince (r.advanceAll moves) (r.advance (.ofNat (total moves))) := by
  induction moves with
  | nil => exact absurd rfl hmoves
  | cons a rest ih =>
    intro r h hfits
    rw [total_cons, ← Nat.add_assoc] at hfits
    have hnow : (r.now + a).toNat = r.now.toNat + a.toNat :=
      Clock.Fits.toNat_add (Nat.lt_of_le_of_lt (Nat.le_add_right ..) hfits)
    rw [← hnow] at hfits
    have htotal : UInt64.ofNat (total (a :: rest)) = a + .ofNat (total rest) := by
      rw [total_cons, UInt64.ofNat_add, UInt64.ofNat_toNat]
    rw [htotal]
    by_cases hrest : rest = []
    · subst hrest
      rw [show a + UInt64.ofNat (total []) = a from UInt64.add_zero a]
      exact ⟨rfl, _, _, r.events_advance a, r.events_advance a, .refl _⟩
    · have hlater := (ih hrest (h.advance a) hfits).since_earlier (r.events_advance a)
      exact hlater.trans (advance_advance h (fits_ofNat hfits))

/-! ### Timers -/

/-- Whether moves of the clock reach a time. Where there are none nothing fires. -/
def reaches (now : UInt64) (moves : List UInt64) (due : UInt64) : Bool :=
  !moves.isEmpty && decide (due.toNat ≤ now.toNat + total moves)

theorem reaches_of_ne_nil {now : UInt64} {moves : List UInt64} (hmoves : moves ≠ [])
    (hfits : now.toNat + total moves < 2 ^ 64) :
    reaches now moves = fun due => decide (due ≤ now + .ofNat (total moves)) := by
  have hnow : (now + .ofNat (total moves)).toNat = now.toNat + total moves := by
    rw [(fits_ofNat hfits).toNat_add, toNat_ofNat hfits]
  funext due
  simp [reaches, hmoves, UInt64.le_iff_toNat_le, hnow]

section

variable (h : r.CreaturesKeyed) {moves : List UInt64}
  (hfits : r.now.toNat + total moves < 2 ^ 64)

include h hfits

theorem gameObject?_advanceAll (g : Guid) :
    (r.advanceAll moves).gameObject? g =
      (r.gameObject? g).map (·.past (reaches r.now moves)) := by
  by_cases hmoves : moves = []
  · subst hmoves
    show r.gameObject? g = (r.gameObject? g).map (·.past fun _ => false)
    simp [GameObject.past_never]
  · have hsame :
        (r.advanceAll moves).gameObjects = (r.advance (.ofNat (total moves))).gameObjects :=
      (advanceAll_sameSince hmoves h hfits).gameObjects_eq
    unfold gameObject?
    rw [hsame, gameObjects_advance, OrderedMap.get?_map, reaches_of_ne_nil hmoves hfits]
    exact congrArg (Option.map · _) (funext fun o => o.fire_fst _)

theorem creature?_advanceAll (g : Guid) :
    (r.advanceAll moves).creature? g =
      (r.creature? g).filter fun c => !(c.due? r.now).any (reaches r.now moves) := by
  by_cases hmoves : moves = []
  · subst hmoves
    show r.creature? g = (r.creature? g).filter fun c => !(c.due? r.now).any fun _ => false
    cases r.creature? g <;> simp [Option.filter_some]
  · have hsame : (r.advanceAll moves).creatures = (r.advance (.ofNat (total moves))).creatures :=
      (advanceAll_sameSince hmoves h hfits).creatures_eq
    unfold creature?
    rw [hsame, creatures_advance h, OrderedMap.get?_filter, reaches_of_ne_nil hmoves hfits]
    refine congrArg (Option.filter · _) (funext fun c => ?_)
    rw [c.leaves_eq (fits_ofNat hfits).le_add]

end

/-- The time at which a delay is over is reached just when the delay is, from the start. -/
theorem reaches_add {now delay : UInt64} (hset : Clock.Fits now delay) (moves : List UInt64) :
    reaches now moves (now + delay) = reaches 0 moves delay := by
  unfold reaches
  rw [hset.toNat_add, UInt64.toNat_zero, Nat.zero_add]
  simp

/-- A delay is over once the moves add up to it. -/
theorem reaches_of_ne_zero {delay : UInt64} (h : delay ≠ 0) (moves : List UInt64) :
    reaches 0 moves delay = true ↔ delay.toNat ≤ total moves := by
  have hpos : delay.toNat ≠ 0 := fun hzero => h (UInt64.toNat_inj.mp hzero)
  cases moves with
  | nil => simp [reaches, total, hpos]
  | cons a rest => simp [reaches]

/-! ### Timers that are set -/

/-- A door that was used for some seconds goes back to its earlier state once the moves add up to
them; one that was used for good stays. -/
theorem state_of_useDoor? (h : r.CreaturesKeyed) {moves : List UInt64}
    (hfits : r.now.toNat + total moves < 2 ^ 64) {g : Guid} {seconds : UInt32} {door : GameObject}
    {used : Region} (hset : Clock.Fits r.now (Clock.seconds seconds))
    (hdoor : r.gameObject? g = some door) (hused : r.useDoor? g seconds = some used) :
    ((used.advanceAll moves).gameObject? g).map (·.state) = some
      (if seconds ≠ 0 ∧ 1000 * seconds.toNat ≤ total moves then door.state
        else door.state.toggle) := by
  unfold useDoor? at hused
  rw [hdoor, Option.map_some] at hused
  have hkeyed : used.CreaturesKeyed := Option.some.inj hused ▸ h
  have hnow : used.now = r.now := Option.some.inj hused ▸ rfl
  have harmed : used.gameObject? g = some { door with
      state := door.state.toggle
      reset := if seconds = 0 then none
        else some ⟨r.now + Clock.seconds seconds, door.state⟩ } := by
    rw [← Option.some.inj hused]
    refine (OrderedMap.get?_modify_self ..).trans ?_
    rw [show r.gameObjects.get? g = some door from hdoor, Option.map_some]
  rw [gameObject?_advanceAll hkeyed (hnow ▸ hfits), harmed, hnow]
  by_cases hseconds : seconds = 0
  · simp [GameObject.past, hseconds]
  · have hover : reaches r.now moves (r.now + Clock.seconds seconds) = true ↔
        1000 * seconds.toNat ≤ total moves := by
      rw [reaches_add hset, reaches_of_ne_zero (mt Clock.seconds_eq_zero_iff.mp hseconds),
        Clock.toNat_seconds]
    by_cases hlong : 1000 * seconds.toNat ≤ total moves <;>
      simp [GameObject.past, hseconds, Option.filter_some, hover, hlong]

/-- A respawned object is here until the moves add up to its time. -/
theorem spawned_of_respawn? (h : r.CreaturesKeyed) {moves : List UInt64}
    (hfits : r.now.toNat + total moves < 2 ^ 64) {g : Guid} {seconds : UInt32}
    {respawned : Region} (hset : Clock.Fits r.now (Clock.seconds seconds))
    (hrespawned : r.respawn? g seconds = some respawned) :
    ((respawned.advanceAll moves).gameObject? g).map (·.spawned) =
      some (!reaches 0 moves (Clock.seconds seconds)) := by
  unfold respawn? at hrespawned
  obtain ⟨o, ho, hrespawned⟩ := Option.map_eq_some_iff.mp hrespawned
  have hkeyed : respawned.CreaturesKeyed := hrespawned ▸ h
  have hnow : respawned.now = r.now := hrespawned ▸ rfl
  have harmed : respawned.gameObject? g = some { o with
      spawned := true
      despawnAt := some (r.now + Clock.seconds seconds) } := by
    rw [← hrespawned]
    refine (OrderedMap.get?_modify_self ..).trans ?_
    rw [show r.gameObjects.get? g = some o from ho, Option.map_some]
  rw [gameObject?_advanceAll hkeyed (hnow ▸ hfits), harmed, hnow]
  simp [GameObject.past, reaches_add hset]

/-- A creature that was sent off after a delay is here until the moves add up to it; a dead one that
was summoned is gone with the first. -/
theorem isSome_of_despawn? (h : r.CreaturesKeyed) {moves : List UInt64}
    (hfits : r.now.toNat + total moves < 2 ^ 64) {g : Guid} {delay : UInt32} {c : Creature}
    {sent : Region} (hset : Clock.Fits r.now delay.toUInt64) (hc : r.creature? g = some c)
    (hdelay : delay ≠ 0) (hsent : r.despawn? g delay = some sent) :
    ((sent.advanceAll moves).creature? g).isSome =
      !reaches 0 moves (if c.summoned.isSome && !c.unit.alive then 0 else delay.toUInt64) := by
  unfold despawn? at hsent
  rw [hc, Option.map_some, if_neg hdelay] at hsent
  obtain rfl := Option.some.inj hsent
  have hkeyed : (r.modifyCreature g fun c =>
      { c with despawnAt := some (r.now + delay.toUInt64) }).CreaturesKeyed :=
    OrderedMap.forall_modify h fun _ hguid => hguid
  have hdue : (Creature.due? { c with despawnAt := some (r.now + delay.toUInt64) } r.now).any
      (reaches r.now moves) =
        reaches 0 moves (if c.summoned.isSome && !c.unit.alive then 0 else delay.toUInt64) := by
    unfold Creature.due?
    cases c.summoned.isSome && !c.unit.alive
    · exact reaches_add hset moves
    · simp [reaches]
  have harmed : (r.modifyCreature g fun c =>
      { c with despawnAt := some (r.now + delay.toUInt64) }).creature? g =
        some { c with despawnAt := some (r.now + delay.toUInt64) } := by
    refine (OrderedMap.get?_modify_self ..).trans ?_
    rw [show r.creatures.get? g = some c from hc, Option.map_some]
  rw [creature?_advanceAll hkeyed hfits, harmed, Option.isSome_filter, Option.any_some]
  exact congrArg (!·) hdue

/-- What happens to the timers of a region, and to one that is set in it, when the clock is moved on
several times: those whose time is reached have fired, and no others. -/
structure TimersFire (r : Region) (moves : List UInt64) : Prop where
  objects : ∀ g, (r.advanceAll moves).gameObject? g =
    (r.gameObject? g).map (·.past (reaches r.now moves))
  creatures : ∀ g, (r.advanceAll moves).creature? g =
    (r.creature? g).filter fun c => !(c.due? r.now).any (reaches r.now moves)
  used : ∀ g seconds door used, Clock.Fits r.now (Clock.seconds seconds) →
    r.gameObject? g = some door → r.useDoor? g seconds = some used →
      ((used.advanceAll moves).gameObject? g).map (·.state) = some
        (if seconds ≠ 0 ∧ 1000 * seconds.toNat ≤ total moves then door.state
          else door.state.toggle)
  respawned : ∀ g seconds respawned, Clock.Fits r.now (Clock.seconds seconds) →
    r.respawn? g seconds = some respawned →
      ((respawned.advanceAll moves).gameObject? g).map (·.spawned) =
        some (!reaches 0 moves (Clock.seconds seconds))
  /-- A dead creature that was summoned does not wait for the delay. -/
  sent : ∀ g delay c sent, Clock.Fits r.now delay.toUInt64 → r.creature? g = some c → delay ≠ 0 →
    r.despawn? g delay = some sent →
      ((sent.advanceAll moves).creature? g).isSome =
        !reaches 0 moves (if c.summoned.isSome && !c.unit.alive then 0 else delay.toUInt64)

/-- Time can be split. Where creatures are stored under their own guids and the clock does not start
over, moving on in two steps gives what moving on in one gives, with the same events in some order.
So however often the clock is moved on, a timer has fired once the moves add up to its time, and not
before. -/
theorem time_splits (h : r.CreaturesKeyed) :
    (∀ a b, Clock.Fits (r.now + a) b →
      r.SameSince ((r.advance a).advance b) (r.advance (a + b))) ∧
    ∀ moves, r.now.toNat + total moves < 2 ^ 64 → r.TimersFire moves :=
  ⟨fun _ _ => advance_advance h, fun _ hfits =>
    { objects := gameObject?_advanceAll h hfits
      creatures := creature?_advanceAll h hfits
      used := fun _ _ _ _ hset hdoor hused => state_of_useDoor? h hfits hset hdoor hused
      respawned := fun _ _ _ hset hrespawned => spawned_of_respawn? h hfits hset hrespawned
      sent := fun _ _ _ _ hset hc hdelay hsent =>
        isSome_of_despawn? h hfits hset hc hdelay hsent }⟩

theorem creaturesKeyed_of_empty (h : r.creatures = ∅) : r.CreaturesKeyed := by
  intro g c hc
  unfold creature? at hc
  rw [h] at hc
  cases hc

theorem CreaturesKeyed.addCreature (h : r.CreaturesKeyed) (c : Creature) :
    (r.addCreature c).CreaturesKeyed :=
  OrderedMap.forall_insert h rfl

/-- At 0.5 s a door is open until 1.5 s and respawned until 1.2 s, a guard is here until 1.5 s and a
hare until 1.501 s, and a summoned wolf is dead. -/
def meadow : Region :=
  let door : GameObject :=
    { guid := .gameObject 20 1, type := .door, position := .origin, state := .active
      despawnAt := some 1200, reset := some ⟨1500, .ready⟩ }
  let spawn (counter : UInt32) (due : Option UInt64) : Creature :=
    { Creature.spawn (.creature 12 counter) .origin 7 30 with despawnAt := due }
  let wolf := spawn 2 none
  ((({ id := 0, now := 500 : Region }.addGameObject door).addCreature (spawn 1 (some 1500))
    ).addCreature (spawn 3 (some 1501))).addCreature
      { wolf with unit := { wolf.unit with alive := false }, summoned := some .onDeath }

/-- Between the two moves of 0.7 s and 0.3 s the respawned door and the wolf are gone, and at their
end exactly the reset and the guard are due; the hare stays. In one move the door closes first. -/
theorem time_splits_meadow :
    meadow.CreaturesKeyed ∧
      meadow.SameSince ((meadow.advance 700).advance 300) (meadow.advance 1000) ∧
      ((meadow.advance 700).advance 300).events ≠ (meadow.advance 1000).events ∧
      ((meadow.advanceAll [700, 300]).gameObject? (.gameObject 20 1)).map
        (fun o => (o.state, o.spawned)) = some (.ready, false) ∧
      (meadow.advanceAll [700, 299]).creature? (.creature 12 1) =
        meadow.creature? (.creature 12 1) ∧
      (meadow.advanceAll [700, 300]).creature? (.creature 12 1) = none ∧
      (meadow.advanceAll [700, 300]).creature? (.creature 12 3) =
        meadow.creature? (.creature 12 3) := by
  have hkeyed : meadow.CreaturesKeyed :=
    (((creaturesKeyed_of_empty rfl).addCreature _).addCreature _).addCreature _
  obtain ⟨hsplit, hfire⟩ := time_splits hkeyed
  refine ⟨hkeyed, hsplit 700 300 (by decide), by decide +kernel, ?_, ?_, ?_, ?_⟩
  · rw [(hfire [700, 300] (by decide)).objects]
    decide +kernel
  · rw [(hfire [700, 299] (by decide)).creatures]
    rfl
  · rw [(hfire [700, 300] (by decide)).creatures]
    rfl
  · rw [(hfire [700, 300] (by decide)).creatures]
    rfl

end Region

end RegionScript
