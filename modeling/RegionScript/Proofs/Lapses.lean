import Mathlib.Data.List.Induction
import Mathlib.Data.List.Nodup
import RegionScript.Proofs.QuestLog
import RegionScript.Proofs.Scripts
import RegionScript.Step.Run

/-!
Whose quest fails when a condition ends a script.

The group of the acting player is gone through member by member, and whoever has the quest
incomplete then fails it. That the list may name a member twice makes no difference: by the second
time the quest is not incomplete any more. So the whole of it is one change, `Region.lapse`, that
can be read off the region before: the quests that fail, and one event for each of them.
-/

namespace RegionScript

/-- The player with a quest failed, if it was incomplete. -/
def Player.lapse (p : Player) (quest : UInt32) : Player :=
  if p.questStatus quest = some .incomplete then
    { p with quests := p.quests.insert quest .failed }
  else p

theorem Player.questStatus_lapse (p : Player) (quest : UInt32) :
    (p.lapse quest).questStatus quest =
      if p.questStatus quest = some .incomplete then some .failed else p.questStatus quest := by
  unfold lapse
  split
  · show (p.quests.insert quest .failed).get? quest = _
    rw [OrderedMap.get?_insert, if_pos rfl]
  · rfl

/-- What stands at the end of a list counts only if it does not stand before. -/
theorem eraseDups_concat {α : Type} [DecidableEq α] (l : List α) (a : α) :
    (l ++ [a]).eraseDups = if a ∈ l then l.eraseDups else l.eraseDups ++ [a] := by
  rw [List.eraseDups_append]
  by_cases h : a ∈ l
  · simp [List.removeAll, h]
  · simp [List.removeAll, h, List.eraseDups_cons]

theorem nodup_eraseDups {α : Type} [DecidableEq α] (l : List α) : l.eraseDups.Nodup := by
  induction l using List.reverseRecOn with
  | nil => exact List.nodup_nil
  | append_singleton l a ih =>
    rw [eraseDups_concat]
    split
    · exact ih
    · next h =>
      rw [← List.concat_eq_append, List.nodup_concat]
      exact ⟨fun ha => h (List.mem_eraseDups.mp ha), ih⟩

namespace Region

/-- Those on a list who have a quest incomplete, each once and in the order in which they come. -/
def lapsing (r : Region) (quest : UInt32) (members : List Guid) : List Guid :=
  members.eraseDups.filter fun g => r.quest? g quest = some .incomplete

/-- A quest fails for all those on a list who have it incomplete. -/
def lapse (r : Region) (quest : UInt32) (members : List Guid) : Region :=
  { r with
    players := r.players.map fun g p => if g ∈ members then p.lapse quest else p
    events := r.events ++ (r.lapsing quest members).map (.questFailed · quest) }

variable {r s : Region} {quest : UInt32} {members l : List Guid} {g : Guid}

theorem nodup_lapsing : (r.lapsing quest members).Nodup :=
  (nodup_eraseDups members).filter _

theorem lapsing_concat : r.lapsing quest (l ++ [g]) =
    if g ∉ l ∧ r.quest? g quest = some .incomplete then r.lapsing quest l ++ [g]
    else r.lapsing quest l := by
  unfold lapsing
  rw [eraseDups_concat]
  by_cases hmem : g ∈ l
  · simp [hmem]
  · by_cases hquest : r.quest? g quest = some .incomplete
    · simp [hmem, hquest]
    · simp [hmem, hquest]

theorem player?_lapse : (r.lapse quest members).player? g =
    (r.player? g).map fun p => if g ∈ members then p.lapse quest else p :=
  OrderedMap.get?_map ..

theorem player?_lapse_concat {j : Guid} : (r.lapse quest (l ++ [g])).player? j =
    if j = g then (r.player? g).map (·.lapse quest) else (r.lapse quest l).player? j := by
  rw [player?_lapse, player?_lapse]
  by_cases hj : j = g
  · subst hj
    simp
  · simp [hj]

theorem quest?_lapse : (r.lapse quest members).quest? g quest =
    if g ∈ members ∧ r.quest? g quest = some .incomplete then some .failed
    else r.quest? g quest := by
  unfold quest?
  rw [player?_lapse]
  cases r.player? g with
  | none => simp
  | some p =>
    by_cases hmem : g ∈ members
    · simp [hmem, Player.questStatus_lapse]
    · simp [hmem]

/-- Two regions that differ in players and events at most. -/
theorem ext_players_events {s t : Region} (hplayers : ∀ g, s.player? g = t.player? g)
    (hevents : s.events = t.events)
    (hrest : s = { t with players := s.players, events := s.events }) : s = t := by
  have hmaps : s.players = t.players := OrderedMap.ext_get? hplayers
  rw [hrest, hmaps, hevents]

/-- One more on the list whose quest is not incomplete, or is no more. -/
theorem lapse_concat_of_ne (h : (r.lapse quest l).quest? g quest ≠ some .incomplete) :
    r.lapse quest (l ++ [g]) = r.lapse quest l := by
  have hquest : g ∉ l → r.quest? g quest ≠ some .incomplete := by
    intro hmem
    rwa [quest?_lapse, if_neg fun hboth => hmem hboth.1] at h
  refine ext_players_events (fun j => ?_) ?_ rfl
  · rw [player?_lapse_concat]
    split
    · next hj =>
      subst hj
      rw [player?_lapse]
      refine Option.map_congr fun p hp => ?_
      by_cases hmem : j ∈ l
      · rw [if_pos hmem]
      · have hstatus : p.questStatus quest ≠ some .incomplete := by
          have hnot := hquest hmem
          rwa [quest?, hp] at hnot
        rw [if_neg hmem, Player.lapse, if_neg hstatus]
    · rfl
  · show r.events ++ _ = r.events ++ _
    rw [lapsing_concat, if_neg fun hboth => hquest hboth.1 hboth.2]

/-- One more on the list whose quest is incomplete. -/
theorem lapse_concat_of_eq (h : (r.lapse quest l).quest? g quest = some .incomplete) :
    (r.lapse quest l).failQuest? g quest = some (r.lapse quest (l ++ [g])) := by
  have hmem : g ∉ l := by
    intro hmem
    rw [quest?_lapse] at h
    split at h
    · cases h
    · next hnot => exact hnot ⟨hmem, h⟩
  have hquest : r.quest? g quest = some .incomplete := by
    rwa [quest?_lapse, if_neg fun hboth => hmem hboth.1] at h
  obtain ⟨p, hp, hstatus⟩ := Option.bind_eq_some_iff.mp hquest
  have hhere : (r.lapse quest l).player? g = some p := by
    rw [player?_lapse, hp, Option.map_some, if_neg hmem]
  have hfail : p.failQuest? quest = some (p.lapse quest) := by
    rw [Player.failQuest?, if_pos (.inl hstatus), Player.lapse, if_pos hstatus]
  rw [failQuest?, hhere, Option.bind_some, hfail, Option.map_some]
  refine congrArg some (ext_players_events (fun j => ?_) ?_ rfl)
  · rw [player?_lapse_concat, hp]
    show ((r.lapse quest l).players.modify g _).get? j = _
    rw [OrderedMap.get?_modify]
    split
    · next hj =>
      subst hj
      rw [show (r.lapse quest l).players.get? j = some p from hhere]
      rfl
    · rfl
  · show r.events ++ _ ++ [_] = r.events ++ _
    rw [lapsing_concat, if_pos ⟨hmem, hquest⟩, List.map_append, List.append_assoc]
    rfl

end Region

namespace Step

variable {r : Region}

/-- Member by member, a quest fails for all who have it incomplete. -/
theorem failIncomplete_eq_lapse (r : Region) (quest : UInt32) (members : List Guid) :
    failIncomplete r quest members = r.lapse quest members := by
  induction members using List.reverseRecOn with
  | nil =>
    refine Region.ext_players_events (fun g => ?_) (List.append_nil _).symm rfl
    rw [Region.player?_lapse]
    simp
    rfl
  | append_singleton l g ih =>
    have hconcat : failIncomplete r quest (l ++ [g]) =
        if (failIncomplete r quest l).quest? g quest = some .incomplete then
          ((failIncomplete r quest l).failQuest? g quest).getD (failIncomplete r quest l)
        else failIncomplete r quest l :=
      List.foldl_append
    rw [hconcat, ih]
    split
    · next h => rw [Region.lapse_concat_of_eq h, Option.getD_some]
    · next h => exact (Region.lapse_concat_of_ne h).symm

/-- A condition is about the player who acts. -/
theorem conditionSubject_player (p : Participants) : (conditionSubject p).player = p.player? := by
  unfold conditionSubject Participants.player?
  split
  · next t ht => rw [ht, Option.some_or]
  · next ht =>
    rw [ht, Option.none_or]
    split
    · next s hs => rw [hs]
    · next hs => rw [hs]

theorem failGroupQuest_eq_lapse {quest : UInt32} (h : quest ≠ 0) (player : Guid) :
    failGroupQuest r (some player) quest = r.lapse quest (r.groupMembers player) := by
  unfold failGroupQuest
  dsimp only
  rw [if_neg h, failIncomplete_eq_lapse]

theorem failGroupQuest_zero (player? : Option Guid) : failGroupQuest r player? 0 = r := by
  cases player? <;> rfl

/-- A condition does nothing, or ends the script and fails its quest. -/
theorem terminateCondition_cases (ctx : StepContext) (r : Region) (c : Command) (p : Participants)
    (condition quest : UInt32) :
    let x := terminateCondition ctx r c p condition quest
    x.outcome = .ok .applied ∧ x.region = r ∨
      x.outcome = .ok .terminate ∧ x.region = failGroupQuest r p.player? quest := by
  intro x
  rw [← conditionSubject_player]
  unfold x terminateCondition
  dsimp only
  split
  · exact .inr ⟨rfl, rfl⟩
  · exact .inl ⟨rfl, rfl⟩

/-- A condition that does not end its script changes nothing. One that does fails its quest, if it
has one and a player acts, for just those of the player's group who have it incomplete, with one
event for each, in the order in which they first stand in the list of the group. -/
theorem condition_lapses_quest {c : Command} {condition quest : UInt32}
    {source target : Option Guid} {p : Participants}
    (hpayload : c.payload = .terminateCondition condition quest)
    (hp : c.participants r source target = .ok p) (ctx : StepContext) :
    let after := run ctx r c source target
    (after.outcome = .ok .applied ∧ after.region = r ∨ after.outcome = .ok .terminate) ∧
    (after.outcome = .ok .terminate →
      (p.player? = none ∨ quest = 0 → after.region = r) ∧
      ∀ player, p.player? = some player → quest ≠ 0 →
        let members := r.groupMembers player
        (∀ g x, r.player? g = some x →
          (x.questStatus quest ≠ some .failed ∧ after.region.quest? g quest = some .failed ↔
            g ∈ members ∧ x.questStatus quest = some .incomplete)) ∧
        after.region = r.lapse quest members ∧ (r.lapsing quest members).Nodup) := by
  intro after
  have hafter : after.outcome = (terminateCondition ctx r c p condition quest).outcome ∧
      after.region = (terminateCondition ctx r c p condition quest).region := by
    have happly : apply ctx r c p = terminateCondition ctx r c p condition quest := by
      rw [apply, hpayload]
    unfold after
    rw [run_eq_of_found hp, happly]
    exact ⟨rfl, rfl⟩
  rw [hafter.1, hafter.2]
  rcases terminateCondition_cases ctx r c p condition quest with
    ⟨hpassed, hsame⟩ | ⟨hended, hfailed⟩
  · refine ⟨.inl ⟨hpassed, hsame⟩, fun hended => ?_⟩
    rw [hpassed] at hended
    cases hended
  · refine ⟨.inr hended, fun _ => ?_⟩
    rw [hfailed]
    refine ⟨?_, fun player hplayer hquest => ?_⟩
    · rintro (hnobody | hnone)
      · rw [hnobody]
        rfl
      · rw [hnone]
        exact failGroupQuest_zero _
    · rw [hplayer, failGroupQuest_eq_lapse hquest]
      refine ⟨fun g x hx => ?_, rfl, Region.nodup_lapsing⟩
      have hstatus : r.quest? g quest = x.questStatus quest := by rw [Region.quest?, hx]; rfl
      rw [Region.quest?_lapse, hstatus]
      split
      · next hboth => exact iff_of_true ⟨by rw [hboth.2]; decide, rfl⟩ hboth
      · next hnot => exact iff_of_false (fun h => h.1 h.2) hnot

/-- A raid of three on a quest that one of them has completed, with a fourth who is not here. The
leader stands first on its list, and the one after him stands there twice. -/
def raid : Region :=
  let player (counter : UInt32) (status : QuestStatus) : Player :=
    { Player.new counter "Raider" .origin 0 with quests := .ofList [(8, status)] }
  let all := (({ id := 0 : Region }.addPlayer (player 1 .incomplete)).addPlayer
    (player 2 .incomplete)).addPlayer (player 3 .complete)
  all.formGroup 5 [.player 2, .player 1, .player 9, .player 2, .player 3]

/-- The condition holds, and the quest fails for the two who have not completed it, the leader first
although it is the other who acts. -/
theorem condition_lapses_quest_raid :
    let catalog : Catalog := { conditions := .ofList [(4, .always)] }
    let ctx : StepContext := { catalog, table := "dbscripts_on_event", draw := 0 }
    let ending : Command := .plain 1 0 (.terminateCondition 4 8)
    let after := run ctx raid ending (some (.player 1)) none
    ending.payload = .terminateCondition 4 8 ∧
      ending.participants raid (some (.player 1)) none =
        .ok ⟨some (.player 1), none, some (.player 1)⟩ ∧
      after.outcome = .ok .terminate ∧
      after.region = raid.lapse 8 [.player 2, .player 1, .player 2, .player 3] ∧
      after.region.events = [.questFailed (.player 2) 8, .questFailed (.player 1) 8] := by
  intro catalog ctx ending after
  have hpayload : ending.payload = .terminateCondition 4 8 := rfl
  have hp : ending.participants raid (some (.player 1)) none =
      .ok ⟨some (.player 1), none, some (.player 1)⟩ := rfl
  have hended : after.outcome = .ok .terminate := rfl
  obtain ⟨-, hlapses⟩ := condition_lapses_quest hpayload hp ctx
  obtain ⟨-, hregion, -⟩ := (hlapses hended).2 (.player 1) rfl (by decide)
  have hmembers : raid.groupMembers (.player 1) =
      [.player 2, .player 1, .player 2, .player 3] := by decide +kernel
  rw [hmembers] at hregion
  refine ⟨hpayload, hp, hended, hregion, ?_⟩
  rw [hregion]
  decide +kernel

end Step

end RegionScript
