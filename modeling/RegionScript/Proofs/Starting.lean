import RegionScript.Engine
import RegionScript.Proofs.Scripts

/-!
What starting a script does to a region.

A start either schedules the script that the registry holds for the id, or leaves the region as it
was. An event comes to a start only when neither a module nor a handler of contested areas takes it;
foreign code may do to the region what it likes, but where it leaves the schedule alone, the start
finds the schedule as it was when the event was raised.
-/

namespace RegionScript

variable {σ : Type}

/-- Whatever the bound module does to a region, it keeps to a relation. -/
def Hooks.Keeps (h : Hooks σ) (R : Region → Region → Prop) : Prop :=
  ∀ m, h.module = some m → ∀ call w, R w.region (m.handle call w).2.region

/-- The host does not hear of events. -/
theorem Hooks.call_processEvent (h : Hooks σ) (event : UInt32) (source : Guid)
    (target : Option Guid) (isStart : Bool) (w : World σ) :
    h.call (.processEvent event source target isStart) w =
      h.askModule (.processEvent event source target isStart) w := by
  have hhost : h.askHost (.processEvent event source target isStart) w = (false, w) := by
    unfold askHost
    cases h.host <;> rfl
  unfold call
  rw [hhost]

/-- So only the module has to keep to a relation. -/
theorem Hooks.Keeps.processEvent {h : Hooks σ} {R : Region → Region → Prop} (hkeeps : h.Keeps R)
    (hrefl : ∀ r, R r r) (event : UInt32) (source : Guid) (target : Option Guid) (isStart : Bool)
    (w : World σ) : R w.region (h.call (.processEvent event source target isStart) w).2.region := by
  rw [call_processEvent]
  unfold askModule
  split
  · next m hm => exact hkeeps m (Option.filter_eq_some_iff.mp hm).1 _ w
  · exact hrefl _

/-- Whatever else the bound module does, it leaves the schedule alone. -/
def Hooks.LeavesSchedule (h : Hooks σ) : Prop :=
  ∀ m, h.module = some m → ∀ call w, (m.handle call w).2.region.schedule = w.region.schedule

theorem Hooks.LeavesSchedule.processEvent {h : Hooks σ} (hquiet : h.LeavesSchedule)
    (event : UInt32) (source : Guid) (target : Option Guid) (isStart : Bool) (w : World σ) :
    (h.call (.processEvent event source target isStart) w).2.region.schedule =
      w.region.schedule :=
  Hooks.Keeps.processEvent (R := fun r r' => r'.schedule = r.schedule) hquiet (fun _ => rfl) event
    source target isStart w

namespace Engine

/-- A start goes on to schedule a script of the registry that is not refused, or does nothing. -/
theorem start_cases (e : Engine σ) (r : Region) (kind : TableKind) (id : UInt32)
    (source target : Option Guid) (policy : Policy) :
    (∃ table script, e.registry.table? kind = some table ∧ table.get? id = some script ∧
      isRefused r kind id source target policy = false ∧
      e.start r kind id source target policy =
        (true, { r with
          schedule := (r.schedule.enqueue r.now kind table.name id script source target).2 })) ∨
    ((∀ table script, e.registry.table? kind = some table → table.get? id = some script →
      isRefused r kind id source target policy = true) ∧
      e.start r kind id source target policy = (false, r)) := by
  unfold start
  cases htable : e.registry.table? kind with
  | none => exact .inr ⟨by simp, rfl⟩
  | some table =>
    cases hscript : table.get? id with
    | none =>
      refine .inr ⟨fun t script ht hs => ?_, by simp [hscript]⟩
      obtain rfl := Option.some.inj ht
      rw [hscript] at hs
      cases hs
    | some script =>
      cases href : isRefused r kind id source target policy with
      | true => exact .inr ⟨fun _ _ _ _ => rfl, by simp [hscript]⟩
      | false => exact .inl ⟨table, script, rfl, hscript, rfl, by simp [hscript]⟩

/-- A script that the registry has is started unless it is refused. -/
theorem start_eq_false_iff (e : Engine σ) (r : Region) {kind : TableKind} {id : UInt32}
    {script : Script} (hscript : e.registry.script? kind id = some script)
    (source target : Option Guid) (policy : Policy) :
    (e.start r kind id source target policy).1 = false ↔
      isRefused r kind id source target policy = true := by
  obtain ⟨table, htable, hget⟩ := Option.bind_eq_some_iff.mp hscript
  rcases e.start_cases r kind id source target policy with
    ⟨_, _, -, -, hfree, heq⟩ | ⟨hrefused, heq⟩
  · rw [heq, hfree]
    simp
  · rw [heq, hrefused table script htable hget]
    simp

/-- Forwarding an event does not change the region. -/
theorem forwardEvent_region (e : Engine σ) (event : UInt32) (source : Guid)
    (forwardTo : Option Guid) (w : World σ) :
    (e.forwardEvent event source forwardTo w).2.region = w.region := by
  unfold forwardEvent forward
  repeat' split
  all_goals rfl

/-- An event is taken, or else starts its script; up to then the region keeps to what the module
keeps to. -/
theorem startEvent_keeps (e : Engine σ) {R : Region → Region → Prop} (hkeeps : e.hooks.Keeps R)
    (hrefl : ∀ r, R r r) (event : UInt32) (source : Guid) (target : Option Guid) (isStart : Bool)
    (forwardTo : Option Guid) (w : World σ) :
    ∃ w' : World σ, R w.region w'.region ∧
      (e.startEvent event source target isStart forwardTo w = (true, w') ∨
        e.startEvent event source target isStart forwardTo w =
          e.startEventScript event source target w') := by
  have hhooks := hkeeps.processEvent hrefl event source target isStart w
  unfold startEvent
  split
  · next w' hcall =>
    rw [hcall] at hhooks
    exact ⟨w', hhooks, .inl rfl⟩
  · next w' hcall =>
    rw [hcall] at hhooks
    have hforward := e.forwardEvent_region event source forwardTo w'
    split
    · next w'' hcall' =>
      rw [hcall'] at hforward
      exact ⟨w'', hforward ▸ hhooks, .inl rfl⟩
    · next w'' hcall' =>
      rw [hcall'] at hforward
      exact ⟨w'', hforward ▸ hhooks, .inr rfl⟩

/-- With a module that leaves the schedule alone it stays as it was up to the start. -/
theorem startEvent_cases (e : Engine σ) (hquiet : e.hooks.LeavesSchedule) (event : UInt32)
    (source : Guid) (target : Option Guid) (isStart : Bool) (forwardTo : Option Guid)
    (w : World σ) :
    ∃ w' : World σ, w'.region.schedule = w.region.schedule ∧
      (e.startEvent event source target isStart forwardTo w = (true, w') ∨
        e.startEvent event source target isStart forwardTo w =
          e.startEventScript event source target w') :=
  e.startEvent_keeps (R := fun r r' => r'.schedule = r.schedule) hquiet (fun _ => rfl) event source
    target isStart forwardTo w

end Engine

end RegionScript
