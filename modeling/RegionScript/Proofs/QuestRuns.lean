import RegionScript.Proofs.QuestLog
import RegionScript.Proofs.Simulation
import RegionScript.Proofs.StepEffects

/-!
What becomes of quests in steps and in runs.

Two commands change quests, each in its own way: an exploration completes or fails one quest of one
player, and an ending by a condition fails the incomplete ones of a group, whose list may repeat a
member. Either way no quest is moved more than once by a step. Between steps nothing moves a quest
but a module that hears of an event, so that a run takes every quest on a course of moves.
-/

namespace RegionScript

open Region (QuestsFollow QuestsRest SameQuests)

/-! ### One step -/

namespace Step

variable {d : Payload} {r r' : Region}

theorem Effect.sameQuests (hd : ¬ d.ChangesQuests) (h : Effect d r r') : r.SameQuests r' := by
  cases h with
  | record | creature | summon => exact .of_players rfl
  | unit g f => exact .modifyUnit r g f
  | player g keeps => exact .modifyPlayer fun x => (keeps x).2
  | fields g f => exact .modifyFields r g f
  | door g sets => exact .useDoor r g _
  | respawn stays sets changed => exact .respawn? changed
  | despawn sets changed => exact .despawn? changed
  | quest changes => exact absurd changes hd

variable (ctx : StepContext) (c : Command) (p : Participants) (source target : Option Guid)

/-- Only a command that changes quests tells of one. -/
theorem isNoQuest_of_records (hd : ¬ d.ChangesQuests) {after : Region} {e : WorldEvent}
    (h : Records ctx c d after e) : e.IsNoQuest := by
  cases e with
  | questExplored player quest =>
    obtain ⟨distance, rfl⟩ := h
    exact absurd trivial hd
  | questFailed player quest =>
    rcases h with ⟨distance, rfl⟩ | ⟨condition, rfl, -⟩
    · exact absurd trivial hd
    · exact absurd trivial hd
  | _ => exact fun _ _ => rfl

/-- Any other command lets all quests rest. -/
theorem run_questsRest (hd : ¬ c.payload.ChangesQuests) :
    r.QuestsRest (run ctx r c source target).region where
  same := (run_effects ctx c source target).keeps SameQuests.refl SameQuests.trans
    (Effect.sameQuests hd)
  silent := by
    obtain ⟨new, hnew, hrecords⟩ := run_logs ctx r c source target
    exact ⟨new, hnew, fun e he => isNoQuest_of_records ctx c hd (hrecords e he)⟩

/-- An exploration completes an incomplete quest or fails an open one, or does nothing. -/
theorem questExplored_follows (quest distance : UInt32) :
    (questExplored r p quest distance).Meets (fun _ => True) (r.QuestsFollow QuestMove) := by
  have hidle : r.QuestsFollow QuestMove r := (QuestsRest.refl r).moves
  refine meets_require (fun _ => trivial) fun player _ => ?_
  refine meets_demand (fun _ => trivial) fun _ => meets_demand (fun _ => trivial) fun _ => ?_
  split
  · refine meets_applied ?_
    cases hfail : r.failQuest? player quest with
    | none => exact hidle
    | some r' => exact .failQuest? (fun _ _ => .stays) (fun _ _ isOpen => .fails isOpen) hfail
  · refine meets_applied ?_
    cases hexplore : r.exploreQuest? player quest with
    | none => exact hidle
    | some r' => exact .exploreQuest? hexplore

/-- A member who comes up again has no incomplete quest any more. -/
theorem failIncomplete_follows (quest : UInt32) (members : List Guid) (r : Region) :
    r.QuestsFollow QuestLapse (failIncomplete r quest members) := by
  induction members generalizing r with
  | nil => exact (QuestsRest.refl r).lapses
  | cons g rest ih =>
    refine QuestsFollow.trans QuestLapse.trans ?_ (ih _)
    dsimp only
    split
    · next hstatus =>
      cases hfail : r.failQuest? g quest with
      | none => exact (QuestsRest.refl r).lapses
      | some r' =>
        refine .failQuest? (fun _ _ => .stays) (fun s hs _ => ?_) hfail
        obtain rfl : s = .incomplete := Option.some.inj (hs.symm.trans hstatus)
        exact .lapses
    · exact (QuestsRest.refl r).lapses

theorem failGroupQuest_follows (player : Option Guid) (quest : UInt32) :
    r.QuestsFollow QuestLapse (failGroupQuest r player quest) := by
  have hidle : r.QuestsFollow QuestLapse r := (QuestsRest.refl r).lapses
  unfold failGroupQuest
  split
  · exact hidle
  · split
    · exact hidle
    · exact failIncomplete_follows quest _ r

theorem terminateCondition_follows (condition quest : UInt32) :
    (terminateCondition ctx r c p condition quest).Meets (fun _ => True)
      (r.QuestsFollow QuestMove) := by
  unfold terminateCondition
  dsimp only
  split
  · exact meets_ok ((failGroupQuest_follows _ quest).mono QuestLapse.move) _ _
  · exact meets_ok (QuestsRest.refl r).moves _ _

/-- A step moves every quest at most once, and logs just that. -/
theorem run_quests (r : Region) :
    r.QuestsFollow QuestMove (run ctx r c source target).region := by
  have hidle : r.QuestsFollow QuestMove r := (QuestsRest.refl r).moves
  cases hd : c.payload with
  | questExplored quest distance =>
    refine region_of_apply hidle fun p _ => ?_
    rw [apply, hd]
    exact questExplored_follows p quest distance
  | terminateCondition condition quest =>
    refine region_of_apply hidle fun p _ => ?_
    rw [apply, hd]
    exact terminateCondition_follows ctx c p condition quest
  | _ =>
    refine (run_questsRest ctx c source target ?_).moves
    rw [hd]
    exact id

end Step

/-! ### Between steps -/

/-- What a game object fires is about itself. -/
theorem GameObject.isNoQuest_of_fire {o : GameObject} {now : UInt64} {e : WorldEvent}
    (h : e ∈ (o.fire now).2) : e.IsNoQuest := by
  have hfire : (o.fire now).2 =
      (o.fireReset now).2 ++ ((o.fireReset now).1.fireDespawn now).2 := rfl
  rw [hfire] at h
  rcases List.mem_append.mp h with hreset | hdespawn
  · unfold fireReset at hreset
    split at hreset
    · cases hreset
    · split at hreset
      · obtain rfl := List.mem_singleton.mp hreset
        exact fun _ _ => rfl
      · cases hreset
  · unfold fireDespawn at hdespawn
    split at hdespawn
    · obtain rfl := List.mem_singleton.mp hdespawn
      exact fun _ _ => rfl
    · cases hdespawn

/-- While the clock moves on, only game objects and creatures change. -/
theorem Region.advance_questsRest (r : Region) (elapsed : UInt64) :
    r.QuestsRest (r.advance elapsed) where
  same := .of_players rfl
  silent := by
    refine ⟨_, List.append_assoc .., fun e he => ?_⟩
    rcases List.mem_append.mp he with hobject | hcreature
    · obtain ⟨o, -, hfired⟩ := List.mem_flatMap.mp hobject
      exact GameObject.isNoQuest_of_fire hfired
    · obtain ⟨g, -, rfl⟩ := List.mem_map.mp hcreature
      exact fun _ _ => rfl

/-- The bound module leaves the quests of players alone, and tells of none in the log. -/
def Hooks.LeavesQuests {σ : Type} (h : Hooks σ) : Prop := h.Keeps QuestsRest

namespace Engine

variable {σ : Type} (e : Engine σ)

/-- Settling an invocation changes the schedule alone. -/
theorem settle_questsRest (r : Region) (i : Nat) (outcome : Except StepError Outcome) :
    r.QuestsRest (settle r i outcome) := by
  unfold settle
  split
  · exact .quiet rfl rfl
  · exact .refl r

/-- Starting a script changes the schedule alone. -/
theorem start_questsRest (r : Region) (kind : TableKind) (id : UInt32)
    (source target : Option Guid) (policy : Policy) :
    r.QuestsRest (e.start r kind id source target policy).2 := by
  rcases e.start_cases r kind id source target policy with ⟨_, _, -, -, -, heq⟩ | ⟨-, heq⟩
  · rw [heq]
    exact .quiet rfl rfl
  · rw [heq]
    exact .refl r

theorem startEvent_questsRest (hquests : e.hooks.LeavesQuests) (event : UInt32) (source : Guid)
    (target : Option Guid) (isStart : Bool) (forwardTo : Option Guid) (w : World σ) :
    w.region.QuestsRest (e.startEvent event source target isStart forwardTo w).2.region := by
  obtain ⟨w', hrest, heq | heq⟩ :=
    e.startEvent_keeps hquests QuestsRest.refl event source target isStart forwardTo w
  · rw [heq]
    exact hrest
  · rw [heq]
    exact hrest.trans (e.start_questsRest w'.region ..)

/-! ### A run -/

/-- The next step moves every quest at most once. -/
theorem runNext_quests {draw : Nat} {p p' : Progress} (h : e.runNext draw p = some p') :
    p.region.QuestsFollow QuestCourse p'.region := by
  unfold runNext at h
  split at h
  · cases h
  · next key step schedule hpop =>
    obtain rfl := Option.some.inj h
    have hrun := (Step.run_quests (e.context step draw) step.command step.source step.target
      { p.region with schedule }).mono QuestMove.course
    exact hrun.trans QuestCourse.append (settle_questsRest _ step.invocation _).courses

theorem runSteps_quests (draws : Nat → Nat) (limit : Nat) (p : Progress) :
    p.region.QuestsFollow QuestCourse (e.runSteps draws limit p).region := by
  induction limit generalizing p with
  | zero => exact (QuestsRest.refl p.region).courses
  | succ limit ih =>
    unfold runSteps
    cases hnext : e.runNext (draws p.executed.length) p with
    | none => exact (QuestsRest.refl p.region).courses
    | some p' => exact (e.runNext_quests hnext).trans QuestCourse.append (ih p')

end Engine

/-- The actions that a module may hear of. -/
def Action.IsEvent : Action → Prop
  | event .. => True
  | _ => False

namespace Simulation

variable {σ : Type}

theorem perform_quests (s : Simulation σ) (a : Action)
    (ha : a.IsEvent → s.engine.hooks.LeavesQuests) :
    s.world.region.QuestsFollow QuestCourse (s.perform a).world.region := by
  cases a with
  | start kind id source target policy =>
    exact (s.engine.start_questsRest ..).courses
  | event id source target isStart forwardTo =>
    exact (s.engine.startEvent_questsRest (ha trivial) ..).courses
  | update elapsed draws =>
    refine QuestsFollow.trans QuestCourse.append ?_ (s.engine.runSteps_quests draws _ _)
    exact (s.world.region.advance_questsRest elapsed).courses
  | process draws => exact s.engine.runSteps_quests draws _ _
  | swap | reload | cancel => exact (QuestsRest.quiet rfl rfl).courses

/-- No action exchanges the hooks. -/
theorem perform_hooks (s : Simulation σ) (a : Action) :
    (s.perform a).engine.hooks = s.engine.hooks := by
  cases a <;> rfl

/-- A run takes every quest on a course of moves. -/
theorem run_quests (s : Simulation σ) (actions : List Action)
    (hactions : ∀ a ∈ actions, a.IsEvent → s.engine.hooks.LeavesQuests) :
    s.world.region.QuestsFollow QuestCourse (s.run actions).world.region := by
  induction actions generalizing s with
  | nil => exact (QuestsRest.refl s.world.region).courses
  | cons a rest ih =>
    have hfirst := s.perform_quests a (hactions a (List.mem_cons_self ..))
    refine hfirst.trans QuestCourse.append (ih (s.perform a) fun b hb hevent => ?_)
    rw [s.perform_hooks a]
    exact hactions b (List.mem_cons_of_mem _ hb) hevent

/-- The idle module leaves quests alone, in whatever region. -/
theorem bare_leavesQuests (t : ScriptTable) : (bare t).engine.hooks.LeavesQuests := by
  intro m hm call w
  obtain rfl : idleModule = m := Option.some.inj hm
  exact .refl _

end Simulation

/-- Quests move in one direction, and the log tells of every move. In one step each quest of each
player stays, with nothing logged of it, or makes one move, with one event that tells of it; and no
quest is added or removed. So over any run of an engine, whose module leaves quests alone if it
hears of any event, a failed or rewarded quest stays so, either move is logged once at most, and no
completion after a failure. -/
theorem quests_move_one_way {σ : Type} :
    (∀ (ctx : StepContext) (r : Region) (c : Command) (source target : Option Guid),
      let after := (Step.run ctx r c source target).region
      ∃ new, after.events = r.events ++ new ∧ ∀ g quest,
        QuestMove g quest (r.quest? g quest) (new.filter (·.tellsOf g quest))
          (after.quest? g quest) ∧
        (after.quest? g quest).isSome = (r.quest? g quest).isSome) ∧
    ∀ (s : Simulation σ) (actions : List Action),
      (∀ a ∈ actions, a.IsEvent → s.engine.hooks.LeavesQuests) →
      let before := s.world.region
      let after := (s.run actions).world.region
      ∃ new, after.events = before.events ++ new ∧ ∀ g quest,
        (before.quest? g quest = some .failed ∨ before.quest? g quest = some .rewarded →
          after.quest? g quest = before.quest? g quest) ∧
        (after.quest? g quest).isSome = (before.quest? g quest).isSome ∧
        new.count (.questExplored g quest) ≤ 1 ∧ new.count (.questFailed g quest) ≤ 1 ∧
        ¬ [.questFailed g quest, .questExplored g quest].Sublist new := by
  refine ⟨fun ctx r c source target => ?_, fun s actions hactions => ?_⟩
  · obtain ⟨new, hnew, hmoves⟩ := Step.run_quests ctx c source target r
    exact ⟨new, hnew, fun g quest => ⟨hmoves g quest, (hmoves g quest).isSome_eq⟩⟩
  · obtain ⟨new, hnew, hcourses⟩ := s.run_quests actions hactions
    refine ⟨new, hnew, fun g quest => ?_⟩
    have hcourse := hcourses g quest
    exact ⟨hcourse.eq_of_closed, hcourse.isSome_eq, counts_of_sublist hcourse.sublist⟩

/-- A player on a quest, with a living and a dead guide. -/
def expedition : Region :=
  let hero : Player := { Player.new 1 "Hero" .origin 0 with quests := .ofList [(8, .incomplete)] }
  let guide : Creature := .spawn (.creature 4 1) .origin 7 30
  let dead : Creature := .spawn (.creature 4 2) .origin 7 30
  (({ id := 0 : Region }.addPlayer hero).addCreature guide).addCreature
    { dead with unit := { dead.unit with alive := false } }

/-- A table with one event script that completes the quest, or fails it when the guide is dead. -/
def exploration : ScriptTable :=
  .ofCommands .event "dbscripts_on_event" [.plain 9 0 (.questExplored 8 0)]

/-- The player explores with the living guide, then with the dead one, then with the living one. -/
def explorations : List Action :=
  let event (counter : UInt32) : Action :=
    .event 9 (.creature 4 counter) (some (.player 1)) true none
  let update : Action := .update 100 fun _ => 0
  [event 1, update, event 2, update, event 1, update]

/-- The quest is completed and then failed, and stays so. -/
theorem quests_move_one_way_lost :
    let s : Simulation Unit := { Simulation.bare exploration with world := ⟨expedition, ()⟩ }
    let before := s.world.region
    let after := (s.run explorations).world.region
    (∃ a ∈ explorations, a.IsEvent) ∧ s.engine.hooks.LeavesQuests ∧
      before.quest? (.player 1) 8 = some .incomplete ∧
      after.quest? (.player 1) 8 = some .failed ∧
      after.events = [.questExplored (.player 1) 8, .questFailed (.player 1) 8] ∧
      after.events.count (.questFailed (.player 1) 8) ≤ 1 ∧
      ¬ [.questFailed (.player 1) 8, .questExplored (.player 1) 8].Sublist after.events := by
  intro s before after
  have hquests : s.engine.hooks.LeavesQuests := Simulation.bare_leavesQuests exploration
  have hstart : before.quest? (.player 1) 8 = some .incomplete := rfl
  have hend : after.quest? (.player 1) 8 = some .failed := by decide +kernel
  have hevents : after.events = [.questExplored (.player 1) 8, .questFailed (.player 1) 8] := by
    decide +kernel
  obtain ⟨new, hnew, htold⟩ := quests_move_one_way.2 s explorations fun _ _ _ => hquests
  obtain ⟨-, -, -, hfailed, horder⟩ := htold (.player 1) 8
  have hempty : s.world.region.events = [] := rfl
  rw [hempty, List.nil_append] at hnew
  rw [← hnew] at hfailed horder
  exact ⟨⟨_, List.mem_cons_self .., trivial⟩, hquests, hstart, hend, hevents, hfailed, horder⟩

end RegionScript
