import RegionScript.Proofs.Bookkeeping
import RegionScript.Proofs.Simulation

/-!
An event script runs once at a time.

Every call decides anew by what it is compared with the pending ones, while those were started by
calls that may have decided otherwise. Still the pending invocations can be told apart: by the
source if that is a creature or game object, or else by the target if that is one, or else by both.
`EventKey` is this, and no two pending event invocations of one script share it: a start that would
bring the key again agrees with the pending one on what it compares, and is refused.
-/

namespace RegionScript

/-- What tells the pending invocations of one event script apart. -/
inductive EventKey where
  | bySource (source : Guid)
  | byTarget (target : Guid)
  | pair (source target : Option Guid)
  deriving DecidableEq

namespace EventKey

def of (source target : Option Guid) : EventKey :=
  match source.filter Guid.isCreatureOrGameObject, target.filter Guid.isCreatureOrGameObject with
  | some g, _ => bySource g
  | none, some g => byTarget g
  | none, none => pair source target

theorem of_source {g : Guid} (h : g.isCreatureOrGameObject = true) (target : Option Guid) :
    of (some g) target = bySource g := by
  have hfilter : (some g).filter Guid.isCreatureOrGameObject = some g := if_pos h
  rw [of, hfilter]

theorem of_target {source g : Guid} (hsource : source.isCreatureOrGameObject = false)
    (h : g.isCreatureOrGameObject = true) : of (some source) (some g) = byTarget g := by
  have hnone : (some source).filter Guid.isCreatureOrGameObject = none := by simp [hsource]
  have hfilter : (some g).filter Guid.isCreatureOrGameObject = some g := if_pos h
  rw [of, hnone, hfilter]

theorem of_pair {source : Guid} {target : Option Guid}
    (hsource : source.isCreatureOrGameObject = false)
    (htarget : target.filter Guid.isCreatureOrGameObject = none) :
    of (some source) target = pair (some source) target := by
  have hnone : (some source).filter Guid.isCreatureOrGameObject = none := by simp [hsource]
  rw [of, hnone, htarget]

/-- Whether an invocation agrees with a start on what the start compares. -/
def Agrees (key : EventKey) (inv : Invocation) : Prop :=
  match key with
  | bySource g => inv.source = some g
  | byTarget g => inv.target = some g
  | pair source target => inv.source = source ∧ inv.target = target

/-- Whoever has the key of a start agrees with it. -/
theorem agrees_of_eq {key : EventKey} {inv : Invocation} (h : of inv.source inv.target = key) :
    key.Agrees inv := by
  subst h
  unfold of
  split
  · next hsource => exact (Option.filter_eq_some_iff.mp hsource).1
  · next htarget => exact (Option.filter_eq_some_iff.mp htarget).1
  · exact ⟨rfl, rfl⟩

end EventKey

/-- The policy of an event compares just what its key names. -/
theorem Invocation.matches_event_iff (inv : Invocation) (id : UInt32) (source : Guid)
    (target : Option Guid) :
    inv.matches .event id (some source) target (Engine.eventPolicy source target) ↔
      inv.kind = .event ∧ inv.scriptId = id ∧ (EventKey.of (some source) target).Agrees inv := by
  unfold Invocation.matches Engine.eventPolicy
  cases hsource : source.isCreatureOrGameObject with
  | true =>
    rw [EventKey.of_source hsource]
    simp [EventKey.Agrees, and_assoc]
  | false =>
    cases htarget : target.filter Guid.isCreatureOrGameObject with
    | none =>
      rw [EventKey.of_pair hsource htarget]
      simp [EventKey.Agrees, and_assoc]
    | some g =>
      obtain ⟨rfl, hg⟩ := Option.filter_eq_some_iff.mp htarget
      rw [EventKey.of_target hsource hg]
      simp [EventKey.Agrees, and_assoc]

theorem Engine.eventPolicy_ne_normal (source : Guid) (target : Option Guid) :
    Engine.eventPolicy source target ≠ .normal := by
  unfold Engine.eventPolicy
  repeat' split
  all_goals decide

/-- An invocation with steps still to run. -/
def Schedule.Pending (s : Schedule) (i : Nat) (inv : Invocation) : Prop :=
  s.invocations.get? i = some inv ∧ s.pendingOf i ≠ []

/-- The books are kept, and no two listed event invocations of one script share a key. -/
structure EventsApart (s : Schedule) : Prop where
  books : s.Consistent
  apart : ∀ i j a b, s.invocations.get? i = some a → s.invocations.get? j = some b →
    a.kind = .event → b.kind = .event → a.scriptId = b.scriptId →
    EventKey.of a.source a.target = EventKey.of b.source b.target → i = j

namespace EventsApart

variable {s t : Schedule}

theorem of_empty (hsteps : s.steps = ∅) (hinvocations : s.invocations = ∅) : EventsApart s where
  books := .of_empty hsteps hinvocations
  apart i j a b ha := by
    rw [hinvocations] at ha
    cases ha

/-- It is kept where invocations only go, or count down. -/
theorem of_old (h : EventsApart s) (hbooks : t.Consistent)
    (hold : ∀ i a, t.invocations.get? i = some a →
      ∃ n old, s.invocations.get? i = some old ∧ a = { old with pending := n }) :
    EventsApart t where
  books := hbooks
  apart i j a b ha hb := by
    obtain ⟨n, a', ha', rfl⟩ := hold i a ha
    obtain ⟨m, b', hb', rfl⟩ := hold j b hb
    exact h.apart i j a' b' ha' hb'

theorem cancel (h : EventsApart s) (i : Nat) : EventsApart (s.cancel i).2 := by
  refine h.of_old (h.books.cancel i) fun j a ha => ?_
  have hget : (s.cancel i).2.invocations.get? j = if j = i then none else s.invocations.get? j :=
    OrderedMap.get?_erase s.invocations j i
  rw [hget] at ha
  split at ha
  · cases ha
  · exact ⟨a.pending, a, ha, rfl⟩

theorem take (h : EventsApart s) {e : DueKey × PendingStep} {rest : List (DueKey × PendingStep)}
    (hentries : s.steps.entries = e :: rest) : EventsApart (s.take e.1 e.2) := by
  refine h.of_old (h.books.take hentries) fun j a ha => ?_
  have hget := Schedule.get?_finishStep s.invocations e.2.invocation j
  rw [Schedule.take, hget] at ha
  split at ha
  · next hj =>
    obtain ⟨old, hold, ha⟩ := Option.bind_eq_some_iff.mp ha
    split at ha
    · cases ha
    · exact ⟨old.pending - 1, old, hj ▸ hold, (Option.some.inj ha).symm⟩
  · exact ⟨a.pending, a, ha, rfl⟩

/-- A start that no pending invocation agrees with brings a new key. -/
theorem enqueue (h : EventsApart s) {now : UInt64} {kind : TableKind} {table : String} {id : UInt32}
    {script : Script} {source target : Option Guid} (hscript : script ≠ [])
    (hfree : kind = .event → ∀ i a, s.invocations.get? i = some a → a.kind = .event →
      a.scriptId = id → ¬ (EventKey.of source target).Agrees a) :
    EventsApart (s.enqueue now kind table id script source target).2 where
  books := h.books.enqueue hscript
  apart i j a b ha hb hkind hkind' hid hkey := by
    rw [Schedule.enqueue_invocations, OrderedMap.get?_insert] at ha hb
    -- two old invocations are apart already; of the new one and an old one, the old one would agree
    split at ha
    · obtain rfl := Option.some.inj ha
      split at hb
      · omega
      · exact absurd (EventKey.agrees_of_eq hkey.symm) (hfree hkind j b hb hkind' hid.symm)
    · split at hb
      · obtain rfl := Option.some.inj hb
        exact absurd (EventKey.agrees_of_eq hkey) (hfree hkind' i a ha hkind hid)
      · exact h.apart i j a b ha hb hkind hkind' hid hkey

/-- Whatever happens keeps it, when events are started by the policy of events. -/
theorem leads (h : EventsApart s) {x : Happening} (hlead : Leads s x t)
    (hevent : ∀ a, x = .started a → a.kind = .event →
      ∃ source, a.source = some source ∧ a.policy = Engine.eventPolicy source a.target) :
    EventsApart t := by
  cases hlead with
  | @started a table number steps order free =>
    refine h.enqueue steps fun hkind i inv hinv hkind' hid hagrees => ?_
    obtain ⟨source, hsource, hpolicy⟩ := hevent a rfl hkind
    have hmatch := (inv.matches_event_iff a.id source a.target).mpr ⟨hkind', hid, hsource ▸ hagrees⟩
    have hrunning := (s.isRunning_iff _ _ _ _ _).mpr ⟨i, inv, hinv, hmatch⟩
    have hnot := free (hpolicy ▸ Engine.eventPolicy_ne_normal source a.target)
    rw [hkind, hsource, hpolicy, hrunning] at hnot
    cases hnot
  | ran first due goesOn => exact h.take first
  | ended first due ends => exact (h.take first).cancel _
  | cancelled => exact h.cancel _

end EventsApart

/-- Along a path that starts events by their policy alone, they stay apart. -/
theorem Path.eventsApart {s t : Schedule} {hs : List Happening} (hpath : Path s hs t)
    (h : EventsApart s)
    (hevents : ∀ a, .started a ∈ hs → a.kind = .event →
      ∃ source, a.source = some source ∧ a.policy = Engine.eventPolicy source a.target) :
    EventsApart t := by
  refine hpath.keeps (P := fun s _ => EventsApart s) (j := []) (fun s t _ x hx hlead hs => ?_) h
  exact hs.leads hlead fun a ha => hevents a (ha ▸ hx)

/-- An event that comes to its table is refused just when a listed event invocation of its script
agrees with it on what it compares. -/
theorem Engine.startEvent_eq_false_iff {σ : Type} (e : Engine σ) (hquiet : e.hooks.LeavesSchedule)
    {event : UInt32} {script : Script} (hscript : e.registry.script? .event event = some script)
    (source : Guid) (target : Option Guid) (isStart : Bool) (forwardTo : Option Guid)
    (w : World σ)
    (hhooks : (e.hooks.call (.processEvent event source target isStart) w).1 = false)
    (hforward : (e.forwardEvent event source forwardTo
      (e.hooks.call (.processEvent event source target isStart) w).2).1 = false) :
    (e.startEvent event source target isStart forwardTo w).1 = false ↔
      ∃ i inv, w.region.schedule.invocations.get? i = some inv ∧ inv.kind = .event ∧
        inv.scriptId = event ∧ (EventKey.of (some source) target).Agrees inv := by
  have hschedule := hquiet.processEvent event source target isStart w
  have hregion := e.forwardEvent_region event source forwardTo
    (e.hooks.call (.processEvent event source target isStart) w).2
  unfold startEvent
  generalize e.hooks.call (.processEvent event source target isStart) w = heard at *
  obtain ⟨taken, w'⟩ := heard
  obtain rfl : taken = false := hhooks
  dsimp only at hforward hregion hschedule ⊢
  generalize e.forwardEvent event source forwardTo w' = told at *
  obtain ⟨taken, w''⟩ := told
  obtain rfl : taken = false := hforward
  dsimp only at hregion ⊢
  show (e.start w''.region .event event (some source) target (eventPolicy source target)).1 =
    false ↔ _
  have hrefused : isRefused w''.region .event event (some source) target
      (eventPolicy source target) =
        w''.region.schedule.isRunning .event event (some source) target
          (eventPolicy source target) := by
    simp [isRefused, eventPolicy_ne_normal]
  rw [e.start_eq_false_iff _ hscript, hrefused, hregion, hschedule, Schedule.isRunning_iff]
  simp only [Invocation.matches_event_iff]

/-- Event scripts run once at a time. In any run from an empty schedule that starts scripts of the
event table by events alone, no two pending invocations of one event script have the same key. And
then an event that neither the module nor a handler of contested areas takes, and that has a
script, is refused just when a pending event invocation of that script agrees with it on what it
compares. -/
theorem events_run_once {σ : Type} (s : Simulation σ) (actions : List Action)
    (hbuilt : s.engine.registry.Built) (hquiet : s.engine.hooks.LeavesSchedule)
    (hsteps : s.schedule.steps = ∅) (hinvocations : s.schedule.invocations = ∅)
    (hactions : ∀ act ∈ actions, act.IsSound ∧
      ∀ id source target policy, act ≠ .start .event id source target policy) :
    let e := (s.run actions).engine
    let w := (s.run actions).world
    (∀ i j a b, w.region.schedule.Pending i a → w.region.schedule.Pending j b →
      a.kind = .event → b.kind = .event → a.scriptId = b.scriptId →
      EventKey.of a.source a.target = EventKey.of b.source b.target → i = j) ∧
    (∀ event source target isStart forwardTo script,
      let heard := e.hooks.call (.processEvent event source target isStart) w
      heard.1 = false → (e.forwardEvent event source forwardTo heard.2).1 = false →
      e.registry.script? .event event = some script →
        ((e.startEvent event source target isStart forwardTo w).1 = false ↔
          ∃ i inv, w.region.schedule.Pending i inv ∧ inv.kind = .event ∧
            inv.scriptId = event ∧ (EventKey.of (some source) target).Agrees inv)) := by
  intro e w
  have hsound : s.IsSound := ⟨hbuilt, hquiet⟩
  have hgiven := fun act hact => (hactions act hact).1
  obtain ⟨hs, -, hpath, hexplains⟩ := Simulation.run_path hsound actions hgiven
  have hapart : EventsApart (s.run actions).schedule := by
    refine hpath.eventsApart (.of_empty hsteps hinvocations) fun a ha hkind => ?_
    obtain ⟨before, act, after, rfl, hact⟩ := hexplains _ ha
    cases hact with
    | event hsource hpolicy hscript hclock => exact ⟨_, hsource, hpolicy⟩
    | start hkind' hscript hclock =>
      obtain rfl := hkind'.symm.trans hkind
      have hnot := (hactions _ (List.mem_append_right before (List.mem_cons_self ..))).2
      exact absurd rfl (hnot _ _ _ _)
  have hpending : ∀ i inv, w.region.schedule.Pending i inv ↔
      w.region.schedule.invocations.get? i = some inv := by
    intro i inv
    refine ⟨And.left, fun h => ⟨h, ?_⟩⟩
    exact (hapart.books.contains_iff i).mp ((OrderedMap.contains_iff _ _).mpr ⟨inv, h⟩)
  constructor
  · intro i j a b ha hb
    exact hapart.apart i j a b ha.1 hb.1
  · intro event source target isStart forwardTo script heard hheard htold hscript
    simp only [hpending]
    exact e.startEvent_eq_false_iff (hsound.run hgiven).quiet hscript source target isStart
      forwardTo w hheard htold

/-- A table with one event script of two steps. -/
def alarmTable : ScriptTable :=
  .ofCommands .event "dbscripts_on_event" [.plain 9 0 .talk, .plain 9 5 .talk]

/-- A player raises the event at a creature, and its first step is run. -/
def alarmActions : List Action :=
  [.event 9 (.player 1) (some (.creature 4 1)) true none, .update 1000 fun _ => 0]

/-- While the second step waits, another player raises the event at the creature in vain. -/
theorem events_run_once_alarm :
    let s := (Simulation.bare alarmTable).run alarmActions
    (∀ act ∈ alarmActions, act.IsSound ∧
      ∀ id source target policy, act ≠ .start .event id source target policy) ∧
    (s.engine.startEvent 9 (.player 2) (some (.creature 4 1)) true none s.world).1 = false ∧
    ∃ i inv, s.schedule.Pending i inv ∧ inv.kind = .event ∧ inv.scriptId = 9 ∧
      inv.target = some (.creature 4 1) := by
  intro s
  have hactions : ∀ act ∈ alarmActions, act.IsSound ∧
      ∀ id source target policy, act ≠ .start .event id source target policy := by
    simp [alarmActions, Action.IsSound]
  obtain ⟨-, hrefused⟩ :=
    events_run_once (Simulation.bare alarmTable) alarmActions
      (Simulation.bare_built ⟨_, _, _, rfl⟩) (Simulation.bare_leavesSchedule _) rfl rfl hactions
  have hfalse : (s.engine.startEvent 9 (.player 2) (some (.creature 4 1)) true none s.world).1 =
      false := rfl
  exact ⟨hactions, hfalse, (hrefused 9 _ _ true none _ rfl rfl rfl).mp hfalse⟩

end RegionScript
