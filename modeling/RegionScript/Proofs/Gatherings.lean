import Mathlib.Data.List.Induction
import Mathlib.Tactic.Tauto
import RegionScript.OrderedMap.Lemmas
import RegionScript.Region.Basic

/-!
Players come in and groups are formed.

Membership is kept twice: a player has the id of a group, and a group has the list of its members.
Forming a group writes its list and the ids of those of its members who are here; it takes nobody
off another list, and the id of nobody who was on the list before. So the ids and the lists need not
fit. What every run keeps is `Grouped`.
-/

namespace RegionScript

/-! ### Runs -/

/-- How players come together: one joins the region, in no group, or a group is formed. -/
inductive Gathering where
  | join (p : Player) (alone : p.group = none)
  | form (id : UInt32) (members : List Guid)

namespace Region

def gather (r : Region) : Gathering → Region
  | .join p _ => r.addPlayer p
  | .form id members => r.formGroup id members

/-- What an empty region becomes. -/
def gathered (id : UInt32) (battleground : Option UInt32) (run : List Gathering) : Region :=
  run.foldl gather { id, battleground }

theorem gathered_append (id : UInt32) (battleground : Option UInt32) (run : List Gathering)
    (op : Gathering) :
    gathered id battleground (run ++ [op]) = (gathered id battleground run).gather op :=
  List.foldl_append

/-! ### The two records -/

/-- The group that a player who is here is in. -/
def groupId? (r : Region) (g : Guid) : Option UInt32 := (r.player? g).bind (·.group)

variable {r : Region} {g : Guid} {i id : UInt32} {l members : List Guid}

theorem contains_of_groupId? (h : r.groupId? g = some i) : r.players.contains g = true := by
  obtain ⟨p, hp, -⟩ := Option.bind_eq_some_iff.mp h
  exact (r.players.contains_iff g).mpr ⟨p, hp⟩

theorem groupId?_addPlayer {p : Player} (alone : p.group = none) (g : Guid) :
    (r.addPlayer p).groupId? g = if g = p.guid then none else r.groupId? g := by
  unfold groupId? player? addPlayer
  dsimp only
  rw [OrderedMap.get?_insert]
  split
  · exact alone
  · rfl

theorem contains_addPlayer (p : Player) (g : Guid) :
    (r.addPlayer p).players.contains g = true ↔ g = p.guid ∨ r.players.contains g = true := by
  unfold addPlayer OrderedMap.contains
  dsimp only
  rw [OrderedMap.get?_insert]
  split
  · next hg => exact ⟨fun _ => .inl hg, fun _ => rfl⟩
  · next hg => exact ⟨.inr, fun h => h.resolve_left hg⟩

/-- Gives a player who is here the id of a group. -/
def enrol (r : Region) (id : UInt32) (g : Guid) : Region :=
  r.modifyPlayer g fun p => { p with group := some id }

@[simp] theorem contains_enrol (r : Region) (id : UInt32) (m g : Guid) :
    (r.enrol id m).players.contains g = r.players.contains g :=
  OrderedMap.contains_modify ..

theorem groupId?_enrol (r : Region) (id : UInt32) (m g : Guid) :
    (r.enrol id m).groupId? g =
      if g = m ∧ r.players.contains g then some id else r.groupId? g := by
  unfold groupId? player? enrol modifyPlayer OrderedMap.contains
  dsimp only
  rw [OrderedMap.get?_modify]
  by_cases hg : g = m
  · cases r.players.get? g <;> simp [hg]
  · simp [hg]

theorem contains_foldl_enrol (r : Region) (id : UInt32) (members : List Guid) (g : Guid) :
    (members.foldl (·.enrol id) r).players.contains g = r.players.contains g := by
  induction members generalizing r with
  | nil => rfl
  | cons m rest ih => rw [List.foldl_cons, ih, contains_enrol]

theorem groups_foldl_enrol (r : Region) (id : UInt32) (members : List Guid) :
    (members.foldl (·.enrol id) r).groups = r.groups := by
  induction members generalizing r with
  | nil => rfl
  | cons m rest ih => exact ih (r.enrol id m)

theorem groupId?_foldl_enrol (r : Region) (id : UInt32) (members : List Guid) (g : Guid) :
    (members.foldl (·.enrol id) r).groupId? g =
      if g ∈ members ∧ r.players.contains g then some id else r.groupId? g := by
  induction members generalizing r with
  | nil => exact (if_neg fun h => List.not_mem_nil h.1).symm
  | cons m rest ih =>
    rw [List.foldl_cons, ih, contains_enrol, groupId?_enrol]
    by_cases hg : g ∈ rest ∧ r.players.contains g
    · rw [if_pos hg, if_pos ⟨List.mem_cons_of_mem m hg.1, hg.2⟩]
    · rw [if_neg hg]
      refine if_congr ?_ rfl rfl
      rw [List.mem_cons]
      tauto

theorem groupId?_formGroup (r : Region) (id : UInt32) (members : List Guid) (g : Guid) :
    (r.formGroup id members).groupId? g =
      if g ∈ members ∧ r.players.contains g then some id else r.groupId? g :=
  groupId?_foldl_enrol r id members g

theorem contains_formGroup (r : Region) (id : UInt32) (members : List Guid) :
    (r.formGroup id members).players.contains = r.players.contains :=
  funext (contains_foldl_enrol r id members)

theorem groups_formGroup (r : Region) (id : UInt32) (members : List Guid) (i : UInt32) :
    (r.formGroup id members).groups.get? i =
      if i = id then some members else r.groups.get? i := by
  have hform : (r.formGroup id members).groups =
      (members.foldl (·.enrol id) r).groups.insert id members := rfl
  rw [hform, OrderedMap.get?_insert, groups_foldl_enrol]

/-! ### What every run keeps -/

/-- A player's group has a list; and of two players in two groups, not each is on the list of the
other. -/
structure Grouped (r : Region) : Prop where
  listed : ∀ g i, r.groupId? g = some i → ∃ l, r.groups.get? i = some l
  uncrossed : ∀ p q i j l k, r.groupId? p = some i → r.groups.get? i = some l →
    r.groupId? q = some j → r.groups.get? j = some k → q ∈ l → p ∈ k → i = j

theorem Grouped.addPlayer (h : r.Grouped) {p : Player} (alone : p.group = none) :
    (r.addPlayer p).Grouped := by
  have hold : ∀ g i, (r.addPlayer p).groupId? g = some i → r.groupId? g = some i := by
    intro g i hg
    rw [groupId?_addPlayer alone] at hg
    split at hg
    · cases hg
    · exact hg
  exact ⟨fun g i hg => h.listed g i (hold g i hg), fun p' q i j l k hp hl hq =>
    h.uncrossed p' q i j l k (hold p' i hp) hl (hold q j hq)⟩

theorem Grouped.formGroup (h : r.Grouped) (id : UInt32) (members : List Guid) :
    (r.formGroup id members).Grouped := by
  -- Who is in another group than the new one was in it before, and is no member of the new one.
  have hold : ∀ g i, (r.formGroup id members).groupId? g = some i → i ≠ id →
      g ∉ members ∧ r.groupId? g = some i := by
    intro g i hg hi
    rw [groupId?_formGroup] at hg
    split at hg
    · exact absurd (Option.some.inj hg).symm hi
    · next hnot => exact ⟨fun hg' => hnot ⟨hg', contains_of_groupId? hg⟩, hg⟩
  constructor
  · intro g i hg
    rw [groups_formGroup]
    split
    · exact ⟨members, rfl⟩
    · next hi => exact h.listed g i (hold g i hg hi).2
  · intro p q i j l k hp hl hq hk hql hpk
    rw [groups_formGroup] at hl hk
    by_contra hij
    by_cases hi : i = id
    · rw [if_pos hi, Option.some_inj] at hl
      subst hl
      exact (hold q j hq fun hj => hij (hi.trans hj.symm)).1 hql
    · rw [if_neg hi] at hl
      by_cases hj : j = id
      · rw [if_pos hj, Option.some_inj] at hk
        subst hk
        exact (hold p i hp hi).1 hpk
      · rw [if_neg hj] at hk
        exact hij (h.uncrossed p q i j l k (hold p i hp hi).2 hl (hold q j hq hj).2 hk hql hpk)

theorem gathered_grouped (id : UInt32) (battleground : Option UInt32) (run : List Gathering) :
    (gathered id battleground run).Grouped := by
  induction run using List.reverseRecOn with
  | nil => exact ⟨fun _ _ h => (nomatch h), fun _ _ _ _ _ _ h => (nomatch h)⟩
  | append_singleton run op ih =>
    rw [gathered_append]
    cases op with
    | join p alone => exact ih.addPlayer alone
    | form id members => exact ih.formGroup id members

end Region

end RegionScript
