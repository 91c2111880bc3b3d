import RegionScript.Proofs.Running
import RegionScript.Proofs.Starting

/-!
Runs of an engine.

A run is any sequence of actions: scripts are started by themselves or by events, the clock moves
on, what is due is run, the registry is exchanged or reloaded, and invocations are dropped. The
journal of a run tells in turn what happened to the schedule. It is written from outside: that a
script was started is told by the counter of invocations, and its steps are those of the registry at
that time.

`run_path` follows the schedule through a run: the journal is a path of the schedule, and each of
its lines is explained by an action.
-/

namespace RegionScript

/-- An engine with the world that it works on, and what has happened so far. -/
structure Simulation (σ : Type) where
  engine : Engine σ
  world : World σ
  journal : List Happening := []

inductive Action where
  | start (kind : TableKind) (id : UInt32) (source target : Option Guid) (policy : Policy)
  | event (id : UInt32) (source : Guid) (target : Option Guid) (isStart : Bool)
      (forwardTo : Option Guid)
  | update (elapsed : UInt64) (draws : Nat → Nat)
  | process (draws : Nat → Nat)
  | swap (registry : Registry)
  | reload (source : RowSource) (catalog : Catalog) (options : RegistryOptions) (kind : TableKind)
  | cancel (invocation : Nat)

namespace Action

/-- A registry that is put in place holds only tables that were built. -/
def IsSound : Action → Prop
  | swap registry => registry.Built
  | _ => True

end Action

namespace Simulation

variable {σ : Type}

/-- The journal of a start: nothing, unless the counter of invocations moved on. -/
def startedBy (registry : Registry) (kind : TableKind) (id : UInt32) (source target : Option Guid)
    (policy : Policy) (before after : Region) : List Happening :=
  if after.schedule.nextInvocation = before.schedule.nextInvocation then []
  else
    [.started {
      invocation := before.schedule.nextInvocation
      clock := after.now
      kind, id, source, target, policy
      script := (registry.script? kind id).getD [] }]

/-- The registry after a reload; one that fails leaves it as it is. -/
def reloaded (registry : Registry) (source : RowSource) (catalog : Catalog)
    (options : RegistryOptions) (kind : TableKind) : Registry :=
  match (registry.reload source catalog options kind).result with
  | .ok (next, _) => next
  | .error _ => registry

/-- Goes on with a progress of the engine. -/
def follow (s : Simulation σ) (p : Progress) : Simulation σ :=
  { s with
    world := { s.world with region := p.region }
    journal := s.journal ++ p.executed.map .ran }

def perform (s : Simulation σ) : Action → Simulation σ
  | .start kind id source target policy =>
    let region := (s.engine.start s.world.region kind id source target policy).2
    { s with
      world := { s.world with region }
      journal := s.journal ++
        startedBy s.engine.registry kind id source target policy s.world.region region }
  | .event id source target isStart forwardTo =>
    let world := (s.engine.startEvent id source target isStart forwardTo s.world).2
    { s with
      world
      journal := s.journal ++
        startedBy s.engine.registry .event id (some source) target
          (Engine.eventPolicy source target) s.world.region world.region }
  | .update elapsed draws => s.follow (s.engine.update draws s.world.region elapsed)
  | .process draws => s.follow (s.engine.processDue draws s.world.region)
  | .swap registry => { s with engine := { s.engine with registry } }
  | .reload source catalog options kind =>
    { s with
      engine := { s.engine with
        registry := reloaded s.engine.registry source catalog options kind } }
  | .cancel i =>
    let schedule := (s.world.region.schedule.cancel i).2
    { s with
      world := { s.world with region := { s.world.region with schedule } }
      journal := s.journal ++ [.cancelled i] }

def run (s : Simulation σ) (actions : List Action) : Simulation σ := actions.foldl perform s

def schedule (s : Simulation σ) : Schedule := s.world.region.schedule

/-- What an action of a run may write into the journal. A start is of the script that the registry
has at that time, by the clock of that time. -/
inductive Explains (s : Simulation σ) : Action → Happening → Prop
  | start {kind : TableKind} {id : UInt32} {source target : Option Guid} {policy : Policy}
      {a : Start} (hkind : a.kind = kind)
      (hscript : s.engine.registry.script? a.kind a.id = some a.script)
      (hclock : a.clock = (s.perform (.start kind id source target policy)).world.region.now) :
      Explains s (.start kind id source target policy) (.started a)
  | event {id : UInt32} {source : Guid} {target : Option Guid} {isStart : Bool}
      {forwardTo : Option Guid} {a : Start} (hsource : a.source = some source)
      (hpolicy : a.policy = Engine.eventPolicy source a.target)
      (hscript : s.engine.registry.script? a.kind a.id = some a.script)
      (hclock : a.clock =
        (s.perform (.event id source target isStart forwardTo)).world.region.now) :
      Explains s (.event id source target isStart forwardTo) (.started a)
  | update {elapsed : UInt64} {draws : Nat → Nat} {x : Execution} :
      Explains s (.update elapsed draws) (.ran x)
  | process {draws : Nat → Nat} {x : Execution} : Explains s (.process draws) (.ran x)
  | cancel {i : Nat} : Explains s (.cancel i) (.cancelled i)

/-- What a run relies on: the tables were built, and the module leaves the schedule alone. -/
structure IsSound (s : Simulation σ) : Prop where
  built : s.engine.registry.Built
  quiet : s.engine.hooks.LeavesSchedule

/-- A module that declares every hook and takes no call. -/
def idleModule : Module Unit :=
  { Handler.silent undefinedDialogStatus with
    manifest := ⟨"idle", "r1", .ofList Hook.all⟩
    init := id }

/-- An engine with one table and the idle module, in an empty region. -/
def bare (t : ScriptTable) : Simulation Unit where
  engine := {
    registry := ({} : Registry).withTable t
    catalog := {}
    hooks := { module := some idleModule } }
  world := ⟨{ id := 0 }, ()⟩

theorem bare_built {t : ScriptTable} (ht : t.Built) : (bare t).engine.registry.Built :=
  Registry.empty_built.withTable ht

theorem bare_leavesSchedule (t : ScriptTable) : (bare t).engine.hooks.LeavesSchedule := by
  intro m hm call w
  obtain rfl : idleModule = m := Option.some.inj hm
  rfl

/-! ### One action -/

theorem reloaded_built {registry : Registry} (h : registry.Built) (source : RowSource)
    (catalog : Catalog) (options : RegistryOptions) (kind : TableKind) :
    (reloaded registry source catalog options kind).Built := by
  unfold reloaded
  split
  · next hreload => exact h.reload hreload
  · exact h

theorem IsSound.perform {s : Simulation σ} (hs : s.IsSound) {a : Action} (ha : a.IsSound) :
    (s.perform a).IsSound := by
  cases a with
  | swap registry => exact ⟨ha, hs.quiet⟩
  | reload => exact ⟨reloaded_built hs.built _ _ _ _, hs.quiet⟩
  | start | event | update | process | cancel => exact ⟨hs.built, hs.quiet⟩

/-- A start leads the schedule along, or leaves it as it is; either way the journal tells. -/
theorem start_path {e : Engine σ} (hbuilt : e.registry.Built) (r : Region) (kind : TableKind)
    (id : UInt32) (source target : Option Guid) (policy : Policy) :
    let r' := (e.start r kind id source target policy).2
    Path r.schedule (startedBy e.registry kind id source target policy r r') r'.schedule := by
  intro r'
  rcases e.start_cases r kind id source target policy with
    ⟨table, script, htable, hscript, hfree, heq⟩ | ⟨-, heq⟩
  · have hr' : r' = { r with
        schedule := (r.schedule.enqueue r.now kind table.name id script source target).2 } :=
      congrArg Prod.snd heq
    have hregistry : e.registry.script? kind id = some script := by
      unfold Registry.script?
      rw [htable, Option.bind_some, hscript]
    obtain ⟨hsteps, horder⟩ := (hbuilt kind table htable).tidy id script hscript
    have hnext : r'.schedule.nextInvocation ≠ r.schedule.nextInvocation := by
      rw [hr', Schedule.enqueue_nextInvocation]
      omega
    have hclock : r'.now = r.now := by rw [hr']
    unfold startedBy
    rw [if_neg hnext, hregistry, hclock, hr']
    refine .single (.started (a := ⟨_, _, _, _, _, _, _, _⟩) table.name rfl hsteps horder ?_)
    intro hpolicy
    simpa [Engine.isRefused, hpolicy] using hfree
  · have hr' : r' = r := congrArg Prod.snd heq
    unfold startedBy
    rw [hr', if_pos rfl]
    exact .done _

/-- An event leads the schedule along as the start of its script does, or leaves it as it is. -/
theorem event_path {e : Engine σ} (hbuilt : e.registry.Built) (hquiet : e.hooks.LeavesSchedule)
    (event : UInt32) (source : Guid) (target : Option Guid) (isStart : Bool)
    (forwardTo : Option Guid) (w : World σ) :
    let r' := (e.startEvent event source target isStart forwardTo w).2.region
    Path w.region.schedule
      (startedBy e.registry .event event (some source) target (Engine.eventPolicy source target)
        w.region r')
      r'.schedule := by
  intro r'
  obtain ⟨w', hschedule, heq | heq⟩ :=
    e.startEvent_cases hquiet event source target isStart forwardTo w
  · have hr' : r'.schedule = w.region.schedule :=
      (congrArg (·.2.region.schedule) heq).trans hschedule
    unfold startedBy
    rw [hr', if_pos rfl]
    exact .done _
  · have hpath := start_path hbuilt w'.region .event event (some source) target
      (Engine.eventPolicy source target)
    have hr' : r' = (e.start w'.region .event event (some source) target
        (Engine.eventPolicy source target)).2 := congrArg (·.2.region) heq
    unfold startedBy at hpath ⊢
    rw [hr']
    rwa [hschedule] at hpath

/-- What the journal tells of a start that led a schedule along. -/
theorem mem_startedBy {registry : Registry} {kind : TableKind} {id : UInt32}
    {source target : Option Guid} {policy : Policy} {before after : Region} {t u : Schedule}
    (hpath : Path t (startedBy registry kind id source target policy before after) u)
    {h : Happening} (hh : h ∈ startedBy registry kind id source target policy before after) :
    ∃ a : Start, h = .started a ∧ a.kind = kind ∧ a.source = source ∧ a.target = target ∧
      a.policy = policy ∧ registry.script? a.kind a.id = some a.script ∧
      a.clock = after.now := by
  have hh' := hh
  unfold startedBy at hh'
  split at hh'
  · cases hh'
  · obtain rfl := List.mem_singleton.mp hh'
    refine ⟨_, rfl, rfl, rfl, rfl, rfl, ?_, rfl⟩
    have hsteps : (registry.script? kind id).getD [] ≠ [] := (hpath.started_tidy hh).1
    cases hscript : registry.script? kind id with
    | none => rw [hscript] at hsteps; exact absurd rfl hsteps
    | some script => rfl

/-- Every action follows the schedule along a path that it explains. -/
theorem perform_path {s : Simulation σ} (hs : s.IsSound) (a : Action) :
    ∃ hs, (s.perform a).journal = s.journal ++ hs ∧ Path s.schedule hs (s.perform a).schedule ∧
      ∀ h ∈ hs, s.Explains a h := by
  cases a with
  | start kind id source target policy =>
    have hpath := start_path hs.built s.world.region kind id source target policy
    refine ⟨_, rfl, hpath, fun h hh => ?_⟩
    obtain ⟨a, rfl, hkind, -, -, -, hscript, hclock⟩ := mem_startedBy hpath hh
    exact .start hkind hscript hclock
  | event id source target isStart forwardTo =>
    have hpath := event_path hs.built hs.quiet id source target isStart forwardTo s.world
    refine ⟨_, rfl, hpath, fun h hh => ?_⟩
    obtain ⟨a, rfl, -, hsource, htarget, hpolicy, hscript, hclock⟩ := mem_startedBy hpath hh
    exact .event hsource (htarget ▸ hpolicy) hscript hclock
  | update elapsed draws =>
    refine ⟨_, rfl, s.engine.processDue_path draws (s.world.region.advance elapsed), ?_⟩
    intro h hh
    obtain ⟨x, -, rfl⟩ := List.mem_map.mp hh
    exact .update
  | process draws =>
    refine ⟨_, rfl, s.engine.processDue_path draws s.world.region, fun h hh => ?_⟩
    obtain ⟨x, -, rfl⟩ := List.mem_map.mp hh
    exact .process
  | swap | reload => exact ⟨[], (List.append_nil _).symm, .done _, by simp⟩
  | cancel i =>
    refine ⟨_, rfl, .single (.cancelled _ i), fun h hh => ?_⟩
    obtain rfl := List.mem_singleton.mp hh
    exact .cancel

theorem IsSound.run {s : Simulation σ} (hs : s.IsSound) {actions : List Action}
    (hactions : ∀ a ∈ actions, a.IsSound) : (s.run actions).IsSound := by
  induction actions generalizing s with
  | nil => exact hs
  | cons a rest ih =>
    exact ih (hs.perform (hactions a (List.mem_cons_self ..)))
      fun b hb => hactions b (List.mem_cons_of_mem _ hb)

/-- The journal of a run is a path of the schedule, and each of its lines has an action to it. -/
theorem run_path {s : Simulation σ} (hs : s.IsSound) (actions : List Action)
    (hactions : ∀ a ∈ actions, a.IsSound) :
    ∃ hs, (s.run actions).journal = s.journal ++ hs ∧ Path s.schedule hs (s.run actions).schedule ∧
      ∀ h ∈ hs, ∃ before a after, actions = before ++ a :: after ∧
        (s.run before).Explains a h := by
  induction actions generalizing s with
  | nil => exact ⟨[], (List.append_nil _).symm, .done _, by simp⟩
  | cons a rest ih =>
    obtain ⟨hs₁, hjournal₁, hpath₁, hexplains₁⟩ := perform_path hs a
    obtain ⟨hs₂, hjournal₂, hpath₂, hexplains₂⟩ :=
      ih (hs.perform (hactions a (List.mem_cons_self ..)))
        fun b hb => hactions b (List.mem_cons_of_mem _ hb)
    refine ⟨hs₁ ++ hs₂, ?_, hpath₁.append hpath₂, fun h hh => ?_⟩
    · show ((s.perform a).run rest).journal = _
      rw [hjournal₂, hjournal₁, List.append_assoc]
    · rcases List.mem_append.mp hh with hh | hh
      · exact ⟨[], a, rest, rfl, hexplains₁ h hh⟩
      · obtain ⟨before, b, after, rfl, hexplains⟩ := hexplains₂ h hh
        exact ⟨a :: before, b, after, rfl, hexplains⟩

end Simulation

end RegionScript
