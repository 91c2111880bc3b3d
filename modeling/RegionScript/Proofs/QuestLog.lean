import RegionScript.Proofs.Recorded

/-!
The quests of players and what the log tells of them.

A quest moves in one direction: from incomplete to complete, and from either to failed. Every move
is logged by one event, so that the events that tell of a quest of a player are a course of moves,
and no course has more to tell than a completion and then a failure.
-/

namespace RegionScript

/-- Whether an event tells of a quest of a player. -/
def WorldEvent.tellsOf (g : Guid) (quest : UInt32) : WorldEvent → Bool
  | questExplored player q | questFailed player q => player = g && q = quest
  | _ => false

/-- Whether an event tells of no quest at all. -/
def WorldEvent.IsNoQuest (e : WorldEvent) : Prop := ∀ g quest, e.tellsOf g quest = false

/-- What may become of a quest of a player: from one status, by what is logged of it, to another. -/
abbrev QuestRule : Type :=
  Guid → UInt32 → Option QuestStatus → List WorldEvent → Option QuestStatus → Prop

/-! ### The moves of one quest -/

/-- What becomes of a quest in one step, and what is logged of it. -/
inductive QuestMove (g : Guid) (quest : UInt32) :
    Option QuestStatus → List WorldEvent → Option QuestStatus → Prop
  | stays (s : Option QuestStatus) : QuestMove g quest s [] s
  | completes : QuestMove g quest (some .incomplete) [.questExplored g quest] (some .complete)
  | fails {s : QuestStatus} (isOpen : s = .incomplete ∨ s = .complete) :
      QuestMove g quest (some s) [.questFailed g quest] (some .failed)

/-- The moves of a quest that is failed only while it is incomplete. -/
inductive QuestLapse (g : Guid) (quest : UInt32) :
    Option QuestStatus → List WorldEvent → Option QuestStatus → Prop
  | stays (s : Option QuestStatus) : QuestLapse g quest s [] s
  | lapses : QuestLapse g quest (some .incomplete) [.questFailed g quest] (some .failed)

/-- Any number of moves, with all that is logged. -/
inductive QuestCourse (g : Guid) (quest : UInt32) :
    Option QuestStatus → List WorldEvent → Option QuestStatus → Prop
  | done (s : Option QuestStatus) : QuestCourse g quest s [] s
  | next {s t u : Option QuestStatus} {es es' : List WorldEvent} (first : QuestMove g quest s es t)
      (later : QuestCourse g quest t es' u) : QuestCourse g quest s (es ++ es') u

variable {g : Guid} {quest : UInt32} {s t u : Option QuestStatus} {es es' : List WorldEvent}

namespace QuestLapse

/-- A quest that has lapsed is not incomplete any more, and so does not lapse again. -/
theorem trans (h : QuestLapse g quest s es t) (h' : QuestLapse g quest t es' u) :
    QuestLapse g quest s (es ++ es') u := by
  cases h with
  | stays => exact h'
  | lapses =>
    cases h' with
    | stays => exact .lapses

theorem move (h : QuestLapse g quest s es t) : QuestMove g quest s es t := by
  cases h with
  | stays => exact .stays s
  | lapses => exact .fails (.inl rfl)

end QuestLapse

namespace QuestMove

theorem course (h : QuestMove g quest s es t) : QuestCourse g quest s es t := by
  have hcourse := QuestCourse.next h (.done t)
  rwa [List.append_nil] at hcourse

/-- No move opens a quest, and none takes one off. -/
theorem isSome_eq (h : QuestMove g quest s es t) : t.isSome = s.isSome := by
  cases h <;> rfl

end QuestMove

/-- What may still be logged of a quest. -/
def questPlan (g : Guid) (quest : UInt32) : Option QuestStatus → List WorldEvent
  | some .incomplete => [.questExplored g quest, .questFailed g quest]
  | some .complete => [.questFailed g quest]
  | _ => []

/-- A move takes what it logs off the plan. -/
theorem QuestMove.append_plan (h : QuestMove g quest s es t) :
    (es ++ questPlan g quest t).Sublist (questPlan g quest s) := by
  cases h with
  | stays => exact List.Sublist.refl _
  | completes => exact List.Sublist.refl _
  | fails isOpen =>
    rcases isOpen with rfl | rfl
    · exact List.sublist_cons_self ..
    · exact List.Sublist.refl _

namespace QuestCourse

theorem append (h : QuestCourse g quest s es t) (h' : QuestCourse g quest t es' u) :
    QuestCourse g quest s (es ++ es') u := by
  induction h with
  | done => exact h'
  | next first _ ih =>
    rw [List.append_assoc]
    exact .next first (ih h')

theorem isSome_eq (h : QuestCourse g quest s es t) : t.isSome = s.isSome := by
  induction h with
  | done => rfl
  | next first _ ih => rw [ih, first.isSome_eq]

/-- A failed or rewarded quest stays so. -/
theorem eq_of_closed (h : QuestCourse g quest s es t) (hs : s = some .failed ∨ s = some .rewarded) :
    t = s := by
  induction h with
  | done => rfl
  | next first _ ih =>
    cases first with
    | stays => exact ih hs
    | completes => simp at hs
    | fails isOpen => rcases isOpen with rfl | rfl <;> simp at hs

/-- What a course logs is planned for the status that it begins with. -/
theorem sublist_plan (h : QuestCourse g quest s es t) : es.Sublist (questPlan g quest s) := by
  induction h with
  | done => exact List.nil_sublist _
  | next first _ ih => exact ((List.Sublist.refl _).append ih).trans first.append_plan

/-- At most a completion and then a failure is logged. -/
theorem sublist (h : QuestCourse g quest s es t) :
    es.Sublist [.questExplored g quest, .questFailed g quest] := by
  refine h.sublist_plan.trans ?_
  unfold questPlan
  split
  · exact List.Sublist.refl _
  · exact List.sublist_cons_self ..
  · exact List.nil_sublist _

end QuestCourse

/-- Of what is a completion and then a failure at most, either is logged once at most, and no
completion after a failure. -/
theorem counts_of_sublist {new : List WorldEvent}
    (h : (new.filter (·.tellsOf g quest)).Sublist [.questExplored g quest, .questFailed g quest]) :
    new.count (.questExplored g quest) ≤ 1 ∧ new.count (.questFailed g quest) ≤ 1 ∧
      ¬ [.questFailed g quest, .questExplored g quest].Sublist new := by
  have hexplored : (WorldEvent.questExplored g quest).tellsOf g quest = true := by
    simp [WorldEvent.tellsOf]
  have hfailed : (WorldEvent.questFailed g quest).tellsOf g quest = true := by
    simp [WorldEvent.tellsOf]
  refine ⟨?_, ?_, fun hreversed => ?_⟩
  · rw [← List.count_filter hexplored]
    exact Nat.le_trans (h.count_le _) (by simp)
  · rw [← List.count_filter hfailed]
    exact Nat.le_trans (h.count_le _) (by simp)
  · have htold := (hreversed.filter (·.tellsOf g quest)).trans h
    rw [List.filter_cons_of_pos hfailed, List.filter_cons_of_pos hexplored] at htold
    have heq := htold.eq_of_length rfl
    simp at heq

/-! ### All quests of a region -/

namespace Region

/-- The status of a quest of a player; none when the player is not here or has not taken it. -/
def quest? (r : Region) (g : Guid) (quest : UInt32) : Option QuestStatus :=
  (r.player? g).bind (·.questStatus quest)

/-- All players are here as before, and their quests are as they were. -/
def SameQuests (r r' : Region) : Prop :=
  ∀ g, (r'.player? g).map (·.quests) = (r.player? g).map (·.quests)

namespace SameQuests

variable {r r' r'' : Region}

theorem refl (r : Region) : r.SameQuests r := fun _ => rfl

theorem trans (h : r.SameQuests r') (h' : r'.SameQuests r'') : r.SameQuests r'' :=
  fun g => (h' g).trans (h g)

theorem quest?_eq (h : r.SameQuests r') (g : Guid) (quest : UInt32) :
    r'.quest? g quest = r.quest? g quest := by
  have hstatus : ∀ r : Region, r.quest? g quest =
      ((r.player? g).map (·.quests)).bind (·.get? quest) := by
    intro r
    unfold quest?
    cases r.player? g <;> rfl
  rw [hstatus, hstatus, h g]

/-- A change that is not to players. -/
theorem of_players (h : r'.players = r.players) : r.SameQuests r' := by
  intro g
  show (r'.players.get? g).map _ = (r.players.get? g).map _
  rw [h]

theorem modifyPlayer {g : Guid} {f : Player → Player} (hf : ∀ x, (f x).quests = x.quests) :
    r.SameQuests (r.modifyPlayer g f) := by
  intro j
  show ((r.players.modify g f).get? j).map _ = (r.players.get? j).map _
  rw [OrderedMap.get?_modify]
  split
  · rw [Option.map_map, Function.comp_def]
    simp only [hf]
  · rfl

theorem modifyFields (r : Region) (g : Guid) (f : Fields → Fields) :
    r.SameQuests (r.modifyFields g f) := by
  unfold Region.modifyFields
  cases g.kind with
  | player => exact modifyPlayer fun _ => rfl
  | _ => exact of_players rfl

theorem modifyUnit (r : Region) (g : Guid) (f : UnitState → UnitState) :
    r.SameQuests (r.modifyUnit g f) := by
  unfold Region.modifyUnit
  cases g.kind with
  | player => exact modifyPlayer fun _ => rfl
  | _ => exact of_players rfl

theorem useDoor (r : Region) (g : Guid) (reset : UInt32) : r.SameQuests (r.useDoor g reset) := by
  unfold Region.useDoor Region.useDoor?
  cases r.gameObject? g with
  | none => exact refl r
  | some door => exact of_players rfl

theorem respawn? {g : Guid} {seconds : UInt32} (h : r.respawn? g seconds = some r') :
    r.SameQuests r' := by
  obtain ⟨o, -, rfl⟩ := Option.map_eq_some_iff.mp h
  exact of_players rfl

theorem despawn? {g : Guid} {delay : UInt32} (h : r.despawn? g delay = some r') :
    r.SameQuests r' := by
  obtain ⟨c, -, rfl⟩ := Option.map_eq_some_iff.mp h
  split
  · exact of_players rfl
  · exact of_players rfl

end SameQuests

/-- No quest is changed, and none is told of. -/
structure QuestsRest (r r' : Region) : Prop where
  same : r.SameQuests r'
  silent : r.Logs WorldEvent.IsNoQuest r'

namespace QuestsRest

variable {r r' r'' : Region}

/-- A change that is neither to players nor to the log. -/
theorem quiet (hplayers : r'.players = r.players) (hevents : r'.events = r.events) :
    r.QuestsRest r' :=
  ⟨.of_players hplayers, .quiet hevents⟩

theorem refl (r : Region) : r.QuestsRest r := quiet rfl rfl

theorem trans (h : r.QuestsRest r') (h' : r'.QuestsRest r'') : r.QuestsRest r'' :=
  ⟨h.same.trans h'.same, h.silent.trans h'.silent⟩

end QuestsRest

/-- Each quest of each player went as a rule allows, by what the log has told of it since. -/
def QuestsFollow (R : QuestRule) (r r' : Region) : Prop :=
  ∃ new, r'.events = r.events ++ new ∧
    ∀ g quest, R g quest (r.quest? g quest) (new.filter (·.tellsOf g quest)) (r'.quest? g quest)

namespace QuestsFollow

variable {R R' : QuestRule} {r r' r'' : Region} {g : Guid} {quest : UInt32}

theorem mono (hR : ∀ {g quest s es t}, R g quest s es t → R' g quest s es t)
    (h : r.QuestsFollow R r') : r.QuestsFollow R' r' := by
  obtain ⟨new, hnew, hfollow⟩ := h
  exact ⟨new, hnew, fun g quest => hR (hfollow g quest)⟩

theorem trans (hR : ∀ {g quest s es t es' u}, R g quest s es t → R g quest t es' u →
      R g quest s (es ++ es') u)
    (h : r.QuestsFollow R r') (h' : r'.QuestsFollow R r'') : r.QuestsFollow R r'' := by
  obtain ⟨new, hnew, hfollow⟩ := h
  obtain ⟨new', hnew', hfollow'⟩ := h'
  refine ⟨new ++ new', ?_, fun g quest => ?_⟩
  · rw [hnew', hnew, List.append_assoc]
  · rw [List.filter_append]
    exact hR (hfollow g quest) (hfollow' g quest)

/-- Where quests rest, every rule is followed that lets them stay. -/
theorem rest (hR : ∀ g quest s, R g quest s [] s) (h : r.QuestsRest r') :
    r.QuestsFollow R r' := by
  obtain ⟨new, hnew, hnone⟩ := h.silent
  refine ⟨new, hnew, fun g quest => ?_⟩
  have hfilter : new.filter (·.tellsOf g quest) = [] := by
    refine List.filter_eq_nil_iff.mpr fun e he => ?_
    rw [hnone e he g quest]
    exact Bool.false_ne_true
  rw [hfilter, h.same.quest?_eq]
  exact hR g quest _

/-- A quest that is given another status, with the event that tells of it. -/
theorem setStatus (hR : ∀ g quest s, R g quest s [] s) {p : Player} (hp : r.player? g = some p)
    {t : QuestStatus} {e : WorldEvent}
    (he : ∀ j q, e.tellsOf j q = true ↔ g = j ∧ quest = q)
    (hmove : R g quest (p.questStatus quest) [e] (some t)) :
    r.QuestsFollow R
      ((r.modifyPlayer g fun _ => { p with quests := p.quests.insert quest t }).record e) := by
  refine ⟨[e], rfl, fun j q => ?_⟩
  -- nothing but this quest of this player has changed
  have hafter : ((r.modifyPlayer g fun _ =>
      { p with quests := p.quests.insert quest t }).record e).quest? j q =
        if g = j ∧ quest = q then some t else r.quest? j q := by
    show ((r.players.modify g _).get? j).bind (·.questStatus q) = _
    rw [OrderedMap.get?_modify]
    by_cases hj : j = g
    · subst hj
      have hplayer : r.players.get? j = some p := hp
      have hbefore : r.quest? j q = p.quests.get? q := by rw [quest?, hp]; rfl
      rw [if_pos rfl, hplayer, hbefore]
      show (p.quests.insert quest t).get? q = _
      rw [OrderedMap.get?_insert]
      simp [eq_comm]
    · rw [if_neg hj, if_neg fun hboth => hj hboth.1.symm]
      rfl
  rw [hafter]
  by_cases hboth : g = j ∧ quest = q
  · obtain ⟨rfl, rfl⟩ := hboth
    rw [if_pos ⟨rfl, rfl⟩, List.filter_cons_of_pos ((he g quest).mpr ⟨rfl, rfl⟩), quest?, hp]
    exact hmove
  · rw [if_neg hboth, List.filter_cons_of_neg fun htells => hboth ((he j q).mp htells)]
    exact hR j q _

/-- An open quest fails. -/
theorem failQuest? (hR : ∀ g quest s, R g quest s [] s)
    (hmove : ∀ s : QuestStatus, r.quest? g quest = some s → s = .incomplete ∨ s = .complete →
      R g quest (some s) [.questFailed g quest] (some .failed))
    (h : r.failQuest? g quest = some r') : r.QuestsFollow R r' := by
  obtain ⟨p, hp, hopen, rfl⟩ := failQuest?_eq_some_iff.mp h
  refine setStatus hR hp (fun j q => by simp [WorldEvent.tellsOf]) ?_
  have hquest : r.quest? g quest = p.questStatus quest := by rw [quest?, hp]; rfl
  rcases hopen with hstatus | hstatus
  · rw [hstatus]
    exact hmove _ (hquest.trans hstatus) (.inl rfl)
  · rw [hstatus]
    exact hmove _ (hquest.trans hstatus) (.inr rfl)

/-- An incomplete quest completes. -/
theorem exploreQuest? (h : r.exploreQuest? g quest = some r') :
    r.QuestsFollow QuestMove r' := by
  obtain ⟨p, hp, hstatus, rfl⟩ := exploreQuest?_eq_some_iff.mp h
  refine setStatus (fun _ _ => .stays) hp (fun j q => by simp [WorldEvent.tellsOf]) ?_
  rw [hstatus]
  exact .completes

end QuestsFollow

namespace QuestsRest

variable {r r' : Region}

theorem moves (h : r.QuestsRest r') : r.QuestsFollow QuestMove r' :=
  .rest (fun _ _ => .stays) h

theorem lapses (h : r.QuestsRest r') : r.QuestsFollow QuestLapse r' :=
  .rest (fun _ _ => .stays) h

theorem courses (h : r.QuestsRest r') : r.QuestsFollow QuestCourse r' :=
  .rest (fun _ _ => .done) h

end QuestsRest

end Region

end RegionScript
