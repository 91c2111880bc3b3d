import Mathlib.Data.List.Nodup
import RegionScript.Proofs.Gatherings
import RegionScript.Region.Effects

/-!
Who is in a group with whom.

`groupMembers` goes from the player to the id of a group and from the id to its list. That makes a
good membership just if the ids and the lists agree (`GroupsAgree`): a list holds, of those who are
here, the players with its id, and each of them once. A gathering keeps the agreement just if it is
`Orderly`, and so a run keeps it throughout just if all its gatherings are.

A kill that is credited to a group is credited once for each place among the members.
-/

namespace RegionScript

/-- The player with a number of credits more. -/
def Player.credited (p : Player) (n : Nat) (c : KillCredit) : Player :=
  { p with killCredits := p.killCredits ++ List.replicate n c }

theorem Player.credited_zero (p : Player) (c : KillCredit) : p.credited 0 c = p := by
  unfold credited
  rw [List.replicate_zero, List.append_nil]

theorem Player.credited_credited (p : Player) (m n : Nat) (c : KillCredit) :
    (p.credited m c).credited n c = p.credited (m + n) c := by
  unfold credited
  rw [List.append_assoc, List.replicate_append_replicate]

namespace Region

variable {r : Region} {g : Guid} {i id : UInt32} {l members : List Guid}

/-! ### Good membership -/

/-- A player is a member of the player's own group, nobody is one twice, and two players are members
of each other's groups or neither is. -/
structure WellGrouped (r : Region) : Prop where
  own : ∀ p, r.players.contains p = true → p ∈ r.groupMembers p
  once : ∀ p, r.players.contains p = true → (r.groupMembers p).Nodup
  symmetric : ∀ p q, r.players.contains p = true → r.players.contains q = true →
    (q ∈ r.groupMembers p ↔ p ∈ r.groupMembers q)

/-- The list of a group that somebody is in holds, of those who are here, just the players with the
id of the group, and each of them once. -/
structure GroupsAgree (r : Region) : Prop where
  members : ∀ p i l, r.groupId? p = some i → r.groups.get? i = some l →
    ∀ q, r.players.contains q = true → (q ∈ l ↔ r.groupId? q = some i)
  once : ∀ p i l, r.groupId? p = some i → r.groups.get? i = some l →
    (l.filter r.players.contains).Nodup

theorem groupMembers_of_groupId? (hid : r.groupId? g = some i) (hl : r.groups.get? i = some l) :
    r.groupMembers g = l.filter r.players.contains := by
  have hof : r.groupOf? g = some l := by
    show (r.groupId? g).bind r.groups.get? = some l
    rw [hid]
    exact hl
  unfold groupMembers
  rw [hof]

theorem groupMembers_of_alone (hid : r.groupId? g = none) (hg : r.players.contains g = true) :
    r.groupMembers g = [g] := by
  have hof : r.groupOf? g = none := by
    show (r.groupId? g).bind r.groups.get? = none
    rw [hid]
    rfl
  unfold groupMembers
  rw [hof]
  exact if_pos hg

/-- Where the records agree, the members are the player and whoever has the same id. -/
theorem GroupsAgree.mem_groupMembers_iff (h : r.GroupsAgree) (hr : r.Grouped) {p q : Guid}
    (hp : r.players.contains p = true) : q ∈ r.groupMembers p ↔
      q = p ∨ ∃ i, r.groupId? p = some i ∧ r.groupId? q = some i := by
  cases hid : r.groupId? p with
  | none =>
    rw [groupMembers_of_alone hid hp, List.mem_singleton]
    simp
  | some i =>
    obtain ⟨l, hl⟩ := hr.listed p i hid
    rw [groupMembers_of_groupId? hid hl, List.mem_filter]
    constructor
    · rintro ⟨hql, hq⟩
      exact .inr ⟨i, rfl, (h.members p i l hid hl q hq).mp hql⟩
    · rintro (rfl | ⟨j, hj, hidq⟩)
      · exact ⟨(h.members q i l hid hl q hp).mpr hid, hp⟩
      · obtain rfl := Option.some.inj hj
        have hq := contains_of_groupId? hidq
        exact ⟨(h.members p i l hid hl q hq).mpr hidq, hq⟩

theorem GroupsAgree.wellGrouped (h : r.GroupsAgree) (hr : r.Grouped) : r.WellGrouped := by
  constructor
  · exact fun p hp => (h.mem_groupMembers_iff hr hp).mpr (.inl rfl)
  · intro p hp
    cases hid : r.groupId? p with
    | none =>
      rw [groupMembers_of_alone hid hp]
      exact List.nodup_singleton p
    | some i =>
      obtain ⟨l, hl⟩ := hr.listed p i hid
      rw [groupMembers_of_groupId? hid hl]
      exact h.once p i l hid hl
  · intro p q hp hq
    rw [h.mem_groupMembers_iff hr hp, h.mem_groupMembers_iff hr hq, eq_comm]
    simp only [and_comm]

theorem WellGrouped.groupsAgree (h : r.WellGrouped) (hr : r.Grouped) : r.GroupsAgree := by
  have hown : ∀ p i l, r.groupId? p = some i → r.groups.get? i = some l → p ∈ l := by
    intro p i l hid hl
    have hp := h.own p (contains_of_groupId? hid)
    rw [groupMembers_of_groupId? hid hl, List.mem_filter] at hp
    exact hp.1
  constructor
  · intro p i l hid hl q hq
    constructor
    · intro hql
      have hp := contains_of_groupId? hid
      have hqp : q ∈ r.groupMembers p := by
        rw [groupMembers_of_groupId? hid hl]
        exact List.mem_filter.mpr ⟨hql, hq⟩
      have hpq := (h.symmetric p q hp hq).mp hqp
      cases hidq : r.groupId? q with
      | none =>
        rw [groupMembers_of_alone hidq hq, List.mem_singleton] at hpq
        rw [hpq, hidq] at hid
        cases hid
      | some j =>
        obtain ⟨k, hk⟩ := hr.listed q j hidq
        rw [groupMembers_of_groupId? hidq hk, List.mem_filter] at hpq
        rw [hr.uncrossed p q i j l k hid hl hidq hk hql hpq.1]
    · intro hidq
      exact hown q i l hidq hl
  · intro p i l hid hl
    rw [← groupMembers_of_groupId? hid hl]
    exact h.once p (contains_of_groupId? hid)

theorem Grouped.wellGrouped_iff (h : r.Grouped) : r.WellGrouped ↔ r.GroupsAgree :=
  ⟨fun hw => hw.groupsAgree h, fun ha => ha.wellGrouped h⟩

/-! ### Which gatherings keep it -/

/-- A player may join who is on no list of a group that another is in. A group may be formed that
names nobody twice, and that leaves nobody behind: not in the group that had its id, and not in one
that another is taken out of. -/
def Orderly (r : Region) : Gathering → Prop
  | .join p _ => ∀ q i l, q ≠ p.guid → r.groupId? q = some i → r.groups.get? i = some l → p.guid ∉ l
  | .form id members => (members.filter r.players.contains).Nodup ∧
      ∀ q i, q ∉ members → r.groupId? q = some i →
        i ≠ id ∧ ∀ m ∈ members, r.groupId? m ≠ some i

theorem addPlayer_alone (h : ∀ q, r.groupId? q = none) {p : Player} (alone : p.group = none) :
    ∀ q, (r.addPlayer p).groupId? q = none := by
  intro q
  rw [groupId?_addPlayer alone, h q]
  exact ite_self _

/-- Where nobody is in a group, everybody may join. -/
theorem orderly_join_of_alone (h : ∀ q, r.groupId? q = none) {p : Player} {alone : p.group = none} :
    r.Orderly (.join p alone) := by
  intro q i l _ hid
  rw [h q] at hid
  cases hid

/-- And a group may be formed that names nobody twice. -/
theorem orderly_form_of_alone (h : ∀ q, r.groupId? q = none) (honce : members.Nodup) :
    r.Orderly (.form id members) := by
  refine ⟨honce.filter _, fun q i _ hid => ?_⟩
  rw [h q] at hid
  cases hid

theorem GroupsAgree.addPlayer_iff (h : r.GroupsAgree) {p : Player} (alone : p.group = none) :
    (r.addPlayer p).GroupsAgree ↔ r.Orderly (.join p alone) := by
  have hother : ∀ q i, (r.addPlayer p).groupId? q = some i ↔
      q ≠ p.guid ∧ r.groupId? q = some i := by
    intro q i
    rw [groupId?_addPlayer alone]
    split
    · next hq => simp [hq]
    · next hq => simp [hq]
  constructor
  · intro h' q i l hq hid hl hmem
    have hidp := (h'.members q i l ((hother q i).mpr ⟨hq, hid⟩) hl p.guid
      ((contains_addPlayer p _).mpr (.inl rfl))).mp hmem
    exact ((hother _ i).mp hidp).1 rfl
  · intro horderly
    constructor
    · intro q i l hid hl g hg
      obtain ⟨hq, hid⟩ := (hother q i).mp hid
      have hnot : p.guid ∉ l := horderly q i l hq hid hl
      rw [hother g i]
      constructor
      · intro hgl
        have hne : g ≠ p.guid := fun e => hnot (e ▸ hgl)
        have hhere := ((contains_addPlayer p g).mp hg).resolve_left hne
        exact ⟨hne, (h.members q i l hid hl g hhere).mp hgl⟩
      · rintro ⟨-, hidg⟩
        exact (h.members q i l hid hl g (contains_of_groupId? hidg)).mpr hidg
    · intro q i l hid hl
      obtain ⟨hq, hid⟩ := (hother q i).mp hid
      have hnot : p.guid ∉ l := horderly q i l hq hid hl
      have hsame : l.filter (r.addPlayer p).players.contains = l.filter r.players.contains := by
        refine List.filter_congr fun g hg => Bool.eq_iff_iff.mpr ?_
        rw [contains_addPlayer]
        exact or_iff_right fun e => hnot (e ▸ hg)
      rw [hsame]
      exact h.once q i l hid hl

theorem GroupsAgree.formGroup_iff (h : r.GroupsAgree) (hr : r.Grouped) (id : UInt32)
    (members : List Guid) :
    (r.formGroup id members).GroupsAgree ↔ r.Orderly (.form id members) := by
  have hcontains := contains_formGroup r id members
  have hin : ∀ q, q ∈ members → r.players.contains q = true →
      (r.formGroup id members).groupId? q = some id := fun q hq hhere => by
    rw [groupId?_formGroup, if_pos ⟨hq, hhere⟩]
  have hout : ∀ q, q ∉ members → (r.formGroup id members).groupId? q = r.groupId? q :=
    fun q hq => by rw [groupId?_formGroup, if_neg fun hand => hq hand.1]
  have hnew : (r.formGroup id members).groups.get? id = some members := by
    rw [groups_formGroup, if_pos rfl]
  have hrest : ∀ i, i ≠ id → (r.formGroup id members).groups.get? i = r.groups.get? i :=
    fun i hi => by rw [groups_formGroup, if_neg hi]
  constructor
  · intro h'
    refine ⟨?_, fun q i hq hid => ?_⟩
    · -- Without a member here there is nothing to be repeated.
      cases hfilter : members.filter r.players.contains with
      | nil => exact List.nodup_nil
      | cons m rest =>
        obtain ⟨hm, hhere⟩ := List.mem_filter.mp (hfilter ▸ List.mem_cons_self : m ∈ _)
        have hnodup := h'.once m id members (hin m hm hhere) hnew
        rwa [hcontains, hfilter] at hnodup
    · have hid' : (r.formGroup id members).groupId? q = some i := (hout q hq).trans hid
      have hhere := contains_of_groupId? hid
      have hne : i ≠ id := by
        rintro rfl
        exact hq ((h'.members q i members hid' hnew q (hcontains ▸ hhere)).mpr hid')
      refine ⟨hne, fun m hm hidm => ?_⟩
      obtain ⟨l, hl⟩ := hr.listed q i hid
      have hherem := contains_of_groupId? hidm
      have hml := (h.members q i l hid hl m hherem).mpr hidm
      have hidm' := (h'.members q i l hid' ((hrest i hne).trans hl) m (hcontains ▸ hherem)).mp hml
      exact hne (Option.some.inj (hidm'.symm.trans (hin m hm hherem)))
  · rintro ⟨hnodup, hwhole⟩
    -- Whose group is asked for is in the new one, or stays in one of which nobody was taken out.
    have hcases : ∀ p i l, (r.formGroup id members).groupId? p = some i →
        (r.formGroup id members).groups.get? i = some l →
        (i = id ∧ l = members) ∨ (i ≠ id ∧ r.groupId? p = some i ∧ r.groups.get? i = some l ∧
          ∀ m ∈ members, r.groupId? m ≠ some i) := by
      intro p i l hid hl
      by_cases hp : p ∈ members ∧ r.players.contains p = true
      · rw [hin p hp.1 hp.2] at hid
        obtain rfl := Option.some.inj hid
        exact .inl ⟨rfl, (Option.some.inj (hnew.symm.trans hl)).symm⟩
      · rw [groupId?_formGroup, if_neg hp] at hid
        have hp' : p ∉ members := fun hmem => hp ⟨hmem, contains_of_groupId? hid⟩
        obtain ⟨hne, hnone⟩ := hwhole p i hp' hid
        exact .inr ⟨hne, hid, (hrest i hne).symm.trans hl, hnone⟩
    constructor
    · intro p i l hid hl q hq
      rw [hcontains] at hq
      rcases hcases p i l hid hl with ⟨rfl, rfl⟩ | ⟨hne, hid, hl, hnone⟩
      · refine ⟨fun hmem => hin q hmem hq, fun hidq => ?_⟩
        by_contra hmem
        exact (hwhole q i hmem ((hout q hmem).symm.trans hidq)).1 rfl
      · rw [h.members p i l hid hl q hq]
        by_cases hmem : q ∈ members
        · rw [hin q hmem hq]
          exact iff_of_false (hnone q hmem) fun e => hne (Option.some.inj e).symm
        · rw [hout q hmem]
    · intro p i l hid hl
      rw [hcontains]
      rcases hcases p i l hid hl with ⟨-, rfl⟩ | ⟨-, hid, hl, -⟩
      · exact hnodup
      · exact h.once p i l hid hl

theorem GroupsAgree.gather_iff (h : r.GroupsAgree) (hr : r.Grouped) (op : Gathering) :
    (r.gather op).GroupsAgree ↔ r.Orderly op := by
  cases op with
  | join p alone => exact h.addPlayer_iff alone
  | form id members => exact h.formGroup_iff hr id members

theorem groupsAgree_empty (id : UInt32) (battleground : Option UInt32) :
    (gathered id battleground []).GroupsAgree :=
  ⟨fun _ _ _ h => (nomatch h), fun _ _ _ h => (nomatch h)⟩

/-! ### Credits -/

/-- A credit to one player. -/
theorem player?_creditPlayer (r : Region) (entry : UInt32) (source : Option Guid) (g q : Guid) :
    (r.creditPlayer entry source g).player? q =
      (r.player? q).map (·.credited (if q = g then 1 else 0) ⟨entry, source⟩) := by
  have hsame : (r.player? q).map (·.credited 0 ⟨entry, source⟩) = r.player? q := by
    simp only [Player.credited_zero]
    exact Option.map_id'
  unfold creditPlayer
  split
  · show (r.players.modify g _).get? q = _
    rw [OrderedMap.get?_modify]
    split
    · rfl
    · exact hsame.symm
  · next habsent =>
    split
    · next hq =>
      have hgone : r.player? q = none := by
        subst hq
        simpa [OrderedMap.contains, player?] using habsent
      rw [hgone]
      rfl
    · exact hsame.symm

/-- Of credits that are handed out along a list, each player gets as many as there are places on
the list. -/
theorem player?_foldl_creditPlayer (r : Region) (entry : UInt32) (source : Option Guid)
    (l : List Guid) (q : Guid) :
    (l.foldl (·.creditPlayer entry source) r).player? q =
      (r.player? q).map (·.credited (l.count q) ⟨entry, source⟩) := by
  induction l generalizing r with
  | nil =>
    simp only [List.count_nil, Player.credited_zero]
    exact Option.map_id'.symm
  | cons g rest ih =>
    rw [List.foldl_cons, ih, player?_creditPlayer, Option.map_map]
    refine congrArg (Option.map · _) (funext fun p => ?_)
    rw [Function.comp_apply, Player.credited_credited, List.count_cons, Nat.add_comm]
    simp only [beq_iff_eq, eq_comm (a := q)]

/-- A credit to a player's group. -/
theorem player?_creditKill (r : Region) (player : Guid) (entry : UInt32) (source : Option Guid)
    (q : Guid) :
    (r.creditKill player entry source true).player? q = (r.player? q).map
      (·.credited ((r.groupMembers player).count q) ⟨entry, source⟩) :=
  player?_foldl_creditPlayer r entry source _ q

/-- It is one credit for each member, and none for others, where nobody is a member twice. -/
theorem WellGrouped.player?_creditKill (h : r.WellGrouped) {player : Guid}
    (hhere : r.players.contains player = true) (entry : UInt32) (source : Option Guid) (q : Guid) :
    (r.creditKill player entry source true).player? q = (r.player? q).map
      (·.credited (if q ∈ r.groupMembers player then 1 else 0) ⟨entry, source⟩) := by
  rw [Region.player?_creditKill, (h.once player hhere).count]

/-! ### All together -/

/-- Where both are kept in agreement, step by step, is where no step is out of order. -/
theorem groupsAgree_throughout_iff (id : UInt32) (battleground : Option UInt32)
    (run : List Gathering) :
    (∀ front, front <+: run → (gathered id battleground front).GroupsAgree) ↔
      ∀ front op, front ++ [op] <+: run → (gathered id battleground front).Orderly op := by
  have hstep : ∀ front op, (gathered id battleground front).GroupsAgree →
      ((gathered id battleground (front ++ [op])).GroupsAgree ↔
        (gathered id battleground front).Orderly op) := fun front op h => by
    rw [gathered_append]
    exact h.gather_iff (gathered_grouped id battleground front) op
  constructor
  · intro h front op hfront
    exact (hstep front op (h front ((List.prefix_append ..).trans hfront))).mp (h _ hfront)
  · intro h front
    induction front using List.reverseRecOn with
    | nil => exact fun _ => groupsAgree_empty id battleground
    | append_singleton front op ih =>
      intro hfront
      exact (hstep front op (ih ((List.prefix_append ..).trans hfront))).mpr (h front op hfront)

/-- Group membership after a run of players coming in and of groups being formed. It is well formed
just if the ids of the players and the lists of the groups agree, and it is so throughout just if
every step is in order. A kill that is credited to a player's group is credited to everybody once
for each place among the members; so if membership is well formed, once to each member and to nobody
else. -/
theorem well_grouped_runs (id : UInt32) (battleground : Option UInt32) (run : List Gathering) :
    ((gathered id battleground run).WellGrouped ↔
      (gathered id battleground run).GroupsAgree) ∧
    ((∀ front, front <+: run → (gathered id battleground front).WellGrouped) ↔
      ∀ front op, front ++ [op] <+: run → (gathered id battleground front).Orderly op) ∧
    (∀ player entry source q,
      ((gathered id battleground run).creditKill player entry source true).player? q =
        ((gathered id battleground run).player? q).map
          (·.credited (((gathered id battleground run).groupMembers player).count q)
            ⟨entry, source⟩)) ∧
    ((gathered id battleground run).WellGrouped → ∀ player,
      (gathered id battleground run).players.contains player = true → ∀ entry source q,
      ((gathered id battleground run).creditKill player entry source true).player? q =
        ((gathered id battleground run).player? q).map
          (·.credited (if q ∈ (gathered id battleground run).groupMembers player then 1 else 0)
            ⟨entry, source⟩)) := by
  have hgrouped := gathered_grouped id battleground
  refine ⟨(hgrouped run).wellGrouped_iff, ?_, ?_, ?_⟩
  · rw [← groupsAgree_throughout_iff]
    exact forall₂_congr fun front _ => (hgrouped front).wellGrouped_iff
  · exact fun player entry source q => player?_creditKill _ player entry source q
  · exact fun h player hhere entry source q => h.player?_creditKill hhere entry source q

def alice : Player := .new 1 "Alice" .origin 0

def bob : Player := .new 2 "Bob" .origin 0

/-- Two players and their group. -/
def pairing : List Gathering :=
  [.join alice rfl, .join bob rfl, .form 1 [alice.guid, bob.guid]]

/-- A pair is a good group at every time, and a kill of one is credited once to the other. -/
theorem well_grouped_runs_pairing :
    (∀ front, front <+: pairing → (gathered 0 none front).WellGrouped) ∧
      (((gathered 0 none pairing).creditKill alice.guid 7 none true).player? bob.guid).map
        (·.killCredits) = some [⟨7, none⟩] := by
  obtain ⟨-, hrun, -, hcredits⟩ := well_grouped_runs 0 none pairing
  have hgood : ∀ front, front <+: pairing → (gathered 0 none front).WellGrouped := by
    refine hrun.mpr fun front op hfront => ?_
    have halone (q : Guid) : (gathered 0 none []).groupId? q = none := rfl
    have halone' : ∀ q, (gathered 0 none [.join alice rfl]).groupId? q = none :=
      addPlayer_alone halone rfl
    rcases front with _ | ⟨a, _ | ⟨b, _ | ⟨c, rest⟩⟩⟩
    · obtain ⟨rfl, -⟩ := List.cons_prefix_cons.mp hfront
      exact orderly_join_of_alone halone
    · obtain ⟨rfl, hrest⟩ := List.cons_prefix_cons.mp hfront
      obtain ⟨rfl, -⟩ := List.cons_prefix_cons.mp hrest
      exact orderly_join_of_alone halone'
    · obtain ⟨rfl, hrest⟩ := List.cons_prefix_cons.mp hfront
      obtain ⟨rfl, hlast⟩ := List.cons_prefix_cons.mp hrest
      obtain ⟨rfl, -⟩ := List.cons_prefix_cons.mp hlast
      exact orderly_form_of_alone (addPlayer_alone halone' rfl) (by decide)
    · have hlength := hfront.length_le
      simp only [pairing, List.length_append, List.length_cons, List.length_nil] at hlength
      omega
  refine ⟨hgood, ?_⟩
  rw [hcredits (hgood _ List.prefix_rfl) alice.guid (by decide +kernel) 7 none bob.guid]
  decide +kernel

/-- The second of the pair makes a group of its own. -/
def regrouping : List Gathering := pairing ++ [.form 2 [bob.guid]]

/-- Whoever goes over to another group is still a member to the former one, and gets its credits;
those of the own group are nobody else's. -/
theorem regrouped_player_stays_member :
    (gathered 0 none regrouping).groupMembers alice.guid = [alice.guid, bob.guid] ∧
      (gathered 0 none regrouping).groupMembers bob.guid = [bob.guid] ∧
      ¬ (gathered 0 none regrouping).WellGrouped ∧
      (((gathered 0 none regrouping).creditKill alice.guid 7 none true).player? bob.guid).map
        (·.killCredits) = some [⟨7, none⟩] := by
  have halice : (gathered 0 none regrouping).groupMembers alice.guid = [alice.guid, bob.guid] := by
    decide +kernel
  have hbob : (gathered 0 none regrouping).groupMembers bob.guid = [bob.guid] := by
    decide +kernel
  refine ⟨halice, hbob, fun h => ?_, by decide +kernel⟩
  have hsymm := h.symmetric alice.guid bob.guid (by decide +kernel) (by decide +kernel)
  rw [halice, hbob] at hsymm
  exact absurd (hsymm.mp (by decide)) (by decide)

end Region

end RegionScript
