import RegionScript.Proofs.Simulation

/-!
Whom an event is put to.

An engine asks foreign code: the host, the module, the handlers of battlegrounds and outdoor zones.
To see whom it asks, it is given code that does the same and notes each question with its answer in
the memory that is its own to keep (`Engine.noting`). Nothing else becomes of an event by that, and
the record tells that an event is put to the module first, then to at most one handler, where
`Routes` says to which, and that only if neither takes it the event table is tried.
-/

namespace RegionScript

/-- Where an event may be taken by a handler. -/
inductive Area where
  | battleground (id : UInt32)
  | outdoor (zone : UInt32)

/-- What foreign code may be asked. -/
inductive Question where
  | host (call : HookCall)
  | module (call : HookCall)
  | area (area : Area) (event : UInt32) (object : Guid)

/-- Questions with whether they were answered by taking the event, in the order in which they were
asked. -/
abbrev Record := List (Question × Bool)

variable {σ : Type}

/-! ### Noting questions -/

namespace World

def withRecord (w : World σ) (l : Record) : World (σ × Record) := ⟨w.region, w.memory, l⟩

def withoutRecord (w : World (σ × Record)) : World σ := ⟨w.region, w.memory.1⟩

def record (w : World (σ × Record)) : Record := w.memory.2

end World

/-- Asks, and notes the question with its answer. -/
def noting (q : Question) (ask : World σ → Bool × World σ) (w : World (σ × Record)) :
    Bool × World (σ × Record) :=
  let (taken, after) := ask w.withoutRecord
  (taken, after.withRecord (w.record ++ [(q, taken)]))

def Handler.noting (q : HookCall → Question) (h : Handler σ) : Handler (σ × Record) where
  handle call := RegionScript.noting (q call) (h.handle call)
  dialogStatus player giver w :=
    let (status, memory) := h.dialogStatus player giver w.withoutRecord
    (status, memory, w.record)

def Module.noting (m : Module σ) : Module (σ × Record) where
  toHandler := m.toHandler.noting .module
  manifest := m.manifest
  init s := (m.init s.1, s.2)

def PvpHandler.noting (p : PvpHandler σ) : PvpHandler (σ × Record) where
  battleground b event object :=
    RegionScript.noting (.area (.battleground b) event object) (p.battleground b event object)
  outdoor zone event object :=
    RegionScript.noting (.area (.outdoor zone) event object) (p.outdoor zone event object)

def Hooks.noting (h : Hooks σ) : Hooks (σ × Record) where
  module := h.module.map Module.noting
  host := h.host.map (Handler.noting .host)

/-- The engine with all its foreign code noting what it is asked. -/
def Engine.noting (e : Engine σ) : Engine (σ × Record) where
  registry := e.registry
  catalog := e.catalog
  hooks := e.hooks.noting
  pvp := e.pvp.map PvpHandler.noting

/-! ### The module -/

/-- What is noted of the module, if one is bound that declares the hook. -/
def Hooks.noted (h : Hooks σ) (call : HookCall) (taken : Bool) : Record :=
  if (h.moduleFor? call.hook).isSome then [(.module call, taken)] else []

theorem Hooks.askModule_noting (h : Hooks σ) (call : HookCall) (w : World σ) (l : Record) :
    h.noting.askModule call (w.withRecord l) = ((h.askModule call w).1,
      (h.askModule call w).2.withRecord (l ++ h.noted call (h.askModule call w).1)) := by
  have hmodule : h.noting.moduleFor? call.hook = (h.moduleFor? call.hook).map Module.noting := by
    unfold moduleFor? Hooks.noting
    cases h.module with
    | none => rfl
    | some m =>
      simp only [Option.map_some, Option.filter_some]
      show (if m.manifest.hooks.contains _ then _ else _) = _
      split <;> rfl
  unfold askModule noted
  rw [hmodule]
  cases h.moduleFor? call.hook with
  | none => simp [World.withRecord]
  | some m => rfl

/-! ### The handlers -/

/-- Which area the event of an object is for. A forward to a player goes to where the player is, if
here; any other goes to the region's battleground, or else to the zone of the object, if that is
here. -/
inductive Region.Routes (r : Region) (object forward : Guid) : Area → Prop
  | playersBattleground {p : Player} {b : UInt32} (player : forward.isPlayer = true)
      (here : r.player? forward = some p) (fights : p.battleground = some b) :
      Routes r object forward (.battleground b)
  | playersZone {p : Player} (player : forward.isPlayer = true)
      (here : r.player? forward = some p) (roams : p.battleground = none) :
      Routes r object forward (.outdoor p.zone)
  | regionsBattleground {b : UInt32} (other : forward.isPlayer = false)
      (fought : r.battleground = some b) : Routes r object forward (.battleground b)
  | objectsZone {o : GameObject} (other : forward.isPlayer = false)
      (peaceful : r.battleground = none) (here : r.gameObject? object = some o) :
      Routes r object forward (.outdoor o.zone)

/-- A forward to a player who is not here leads nowhere. -/
theorem Region.not_routes_of_absent {r : Region} {object forward : Guid}
    (player : forward.isPlayer = true) (absent : r.player? forward = none) (area : Area) :
    ¬ r.Routes object forward area := by
  intro routes
  cases routes with
  | playersBattleground _ here | playersZone _ here =>
    rw [absent] at here
    cases here
  | regionsBattleground other | objectsZone other =>
    rw [player] at other
    cases other

/-- Nor does any other, if there is no battleground and the object is not here. -/
theorem Region.not_routes_of_gone {r : Region} {object forward : Guid}
    (other : forward.isPlayer = false) (peaceful : r.battleground = none)
    (gone : r.gameObject? object = none) (area : Area) : ¬ r.Routes object forward area := by
  intro routes
  cases routes with
  | playersBattleground player | playersZone player =>
    rw [other] at player
    cases player
  | regionsBattleground _ fought =>
    rw [peaceful] at fought
    cases fought
  | objectsZone _ _ here =>
    rw [gone] at here
    cases here

namespace Engine

/-- What is asked of handlers about an event that is not taken yet: where the source is a game
object, there are handlers and a forward that leads to an area, the handler of that area, and
otherwise nothing. -/
inductive Consults (e : Engine σ) (r : Region) (event : UInt32) (source : Guid) :
    Option Guid → Record → Bool → Prop
  | asked {forward : Guid} {area : Area} {taken : Bool} (object : source.isGameObject = true)
      (handled : e.pvp.isSome = true) (routes : r.Routes source forward area) :
      Consults e r event source (some forward) [(.area area event source, taken)] taken
  | unasked {forwardTo : Option Guid}
      (nowhere : ∀ forward, forwardTo = some forward → source.isGameObject = true →
        e.pvp.isSome = true → ∀ area, ¬ r.Routes source forward area) :
      Consults e r event source forwardTo [] false

/-- Where a forward leads to no area, nobody is asked. -/
theorem Consults.of_nowhere {e : Engine σ} {r : Region} {event : UInt32} {source forward : Guid}
    (h : e.pvp.isSome = true → ∀ area, ¬ r.Routes source forward area) :
    e.Consults r event source (some forward) [] false := by
  refine .unasked fun f hf _ hhandled area => ?_
  obtain rfl := Option.some.inj hf
  exact h hhandled area

/-- A forward asks and answers alike when it is noted, and asks as `Consults` says. -/
theorem forward_noting (e : Engine σ) (event : UInt32) (object forward : Guid) (w : World σ)
    (l : Record) (hobject : object.isGameObject = true) :
    ∃ asked, e.noting.forward event object forward (w.withRecord l) =
        ((e.forward event object forward w).1,
          (e.forward event object forward w).2.withRecord (l ++ asked)) ∧
      e.Consults w.region event object (some forward) asked
        (e.forward event object forward w).1 := by
  -- Nobody is asked, for one reason or the other.
  have hnobody : ∀ {noted : Bool × World (σ × Record)} {plain : Bool × World σ},
      noted = (false, w.withRecord l) → plain = (false, w) →
      (e.pvp.isSome = true → ∀ area, ¬ w.region.Routes object forward area) →
      ∃ asked, noted = (plain.1, plain.2.withRecord (l ++ asked)) ∧
        e.Consults w.region event object (some forward) asked plain.1 := by
    rintro _ _ rfl rfl hnowhere
    exact ⟨[], by rw [List.append_nil], .of_nowhere hnowhere⟩
  unfold Engine.forward
  cases hpvp : e.pvp with
  | none =>
    have hnoting : e.noting.pvp = none := by rw [noting, hpvp]; rfl
    rw [hnoting]
    refine hnobody rfl rfl fun hhandled => ?_
    rw [hpvp] at hhandled
    cases hhandled
  | some pvp =>
    have hnoting : e.noting.pvp = some pvp.noting := by rw [noting, hpvp]; rfl
    have hhandled : e.pvp.isSome = true := by rw [hpvp]; rfl
    rw [hnoting]
    dsimp only [World.withRecord]
    cases hplayer : forward.isPlayer with
    | true =>
      rw [if_pos rfl, if_pos rfl]
      cases hhere : w.region.player? forward with
      | none => exact hnobody rfl rfl fun _ => Region.not_routes_of_absent hplayer hhere
      | some p =>
        dsimp only
        cases harea : p.battleground with
        | some b =>
          exact ⟨_, rfl, .asked hobject hhandled (.playersBattleground hplayer hhere harea)⟩
        | none => exact ⟨_, rfl, .asked hobject hhandled (.playersZone hplayer hhere harea)⟩
    | false =>
      rw [if_neg Bool.false_ne_true, if_neg Bool.false_ne_true]
      cases harea : w.region.battleground with
      | some b => exact ⟨_, rfl, .asked hobject hhandled (.regionsBattleground hplayer harea)⟩
      | none =>
        dsimp only
        cases hhere : w.region.gameObject? object with
        | none => exact hnobody rfl rfl fun _ => Region.not_routes_of_gone hplayer harea hhere
        | some o => exact ⟨_, rfl, .asked hobject hhandled (.objectsZone hplayer harea hhere)⟩

/-- The same of an event that may not be one to forward. -/
theorem forwardEvent_noting (e : Engine σ) (event : UInt32) (source : Guid)
    (forwardTo : Option Guid) (w : World σ) (l : Record) :
    ∃ asked, e.noting.forwardEvent event source forwardTo (w.withRecord l) =
        ((e.forwardEvent event source forwardTo w).1,
          (e.forwardEvent event source forwardTo w).2.withRecord (l ++ asked)) ∧
      e.Consults w.region event source forwardTo asked
        (e.forwardEvent event source forwardTo w).1 := by
  unfold forwardEvent
  cases forwardTo with
  | none => exact ⟨[], by rw [List.append_nil], .unasked fun _ hf => nomatch hf⟩
  | some f =>
    dsimp only
    cases hobject : source.isGameObject with
    | true =>
      rw [if_pos rfl, if_pos rfl]
      exact e.forward_noting event source f w l hobject
    | false =>
      rw [if_neg Bool.false_ne_true, if_neg Bool.false_ne_true]
      refine ⟨[], by rw [List.append_nil], .unasked fun _ _ h => ?_⟩
      rw [hobject] at h
      cases h

/-! ### All together -/

/-- An event goes from one to the next until it is taken. -/
theorem startEvent_eq (e : Engine σ) (event : UInt32) (source : Guid) (target : Option Guid)
    (isStart : Bool) (forwardTo : Option Guid) (w : World σ) :
    e.startEvent event source target isStart forwardTo w =
      let heard := e.hooks.askModule (.processEvent event source target isStart) w
      let sent := e.forwardEvent event source forwardTo heard.2
      if heard.1 = true then heard
      else if sent.1 = true then sent
      else e.startEventScript event source target sent.2 := by
  unfold startEvent
  rw [Hooks.call_processEvent]
  dsimp only
  rcases e.hooks.askModule (.processEvent event source target isStart) w with ⟨_ | _, heard⟩
  · rw [if_neg Bool.false_ne_true]
    dsimp only
    rcases e.forwardEvent event source forwardTo heard with ⟨_ | _, sent⟩ <;> rfl
  · rfl

section

variable (e : Engine σ) (event : UInt32) (source : Guid) (target : Option Guid) (isStart : Bool)
  (forwardTo : Option Guid) (w : World σ)

/-- What becomes of an event once the module has heard of it, and what is noted of that. -/
theorem startEvent_noting {took : Bool} {heard : World σ}
    (hmodule : e.hooks.askModule (.processEvent event source target isStart) w = (took, heard)) :
    ∃ asked taken,
      (e.noting.startEvent event source target isStart forwardTo (w.withRecord []) =
        ((e.startEvent event source target isStart forwardTo w).1,
          (e.startEvent event source target isStart forwardTo w).2.withRecord
            (e.hooks.noted (.processEvent event source target isStart) took ++ asked))) ∧
      (took = true → asked = [] ∧ taken = false ∧
        e.startEvent event source target isStart forwardTo w = (true, heard)) ∧
      (took = false → e.Consults heard.region event source forwardTo asked taken ∧
        (taken = true → (e.startEvent event source target isStart forwardTo w).1 = true ∧
          (e.startEvent event source target isStart forwardTo w).2.region = heard.region) ∧
        (taken = false →
          ((e.startEvent event source target isStart forwardTo w).1,
            (e.startEvent event source target isStart forwardTo w).2.region) =
              e.start heard.region .event event (some source) target
                (eventPolicy source target))) := by
  have hnoting : e.noting.hooks.askModule (.processEvent event source target isStart)
      (w.withRecord []) = (took, heard.withRecord
        (e.hooks.noted (.processEvent event source target isStart) took)) := by
    have h := e.hooks.askModule_noting (.processEvent event source target isStart) w []
    rwa [hmodule] at h
  rw [startEvent_eq, startEvent_eq, hnoting, hmodule]
  dsimp only
  cases took with
  | true =>
    rw [if_pos rfl, if_pos rfl]
    exact ⟨[], false, by rw [List.append_nil], fun _ => ⟨rfl, rfl, rfl⟩, nofun⟩
  | false =>
    rw [if_neg Bool.false_ne_true, if_neg Bool.false_ne_true]
    obtain ⟨asked, hsent, hconsults⟩ := e.forwardEvent_noting event source forwardTo heard
      (e.hooks.noted (.processEvent event source target isStart) false)
    have hregion := e.forwardEvent_region event source forwardTo heard
    rw [hsent]
    generalize e.forwardEvent event source forwardTo heard = sent at hconsults hregion ⊢
    obtain ⟨taken, sent⟩ := sent
    dsimp only at hconsults hregion ⊢
    refine ⟨asked, taken, ?_⟩
    cases taken with
    | true =>
      rw [if_pos rfl, if_pos rfl]
      exact ⟨rfl, nofun, fun _ => ⟨hconsults, fun _ => ⟨rfl, hregion⟩, nofun⟩⟩
    | false =>
      rw [if_neg Bool.false_ne_true, if_neg Bool.false_ne_true]
      refine ⟨rfl, nofun, fun _ => ⟨hconsults, nofun, fun _ => ?_⟩⟩
      rw [← hregion]
      rfl

/-- An event is put to the module first, if one is bound that hears of events. Only if that does not
take it may a handler be asked, at most one, and just the one of the area that the forward of a game
object leads to. Only if that does not take it either is the event table tried; and the event is
taken if one of the three takes it. The region stays as the module left it, unless the table takes
the event: then one invocation is scheduled. That questions are noted changes nothing. -/
theorem events_are_routed :
    let call : HookCall := .processEvent event source target isStart
    let heard := e.hooks.askModule call w
    let table := e.start heard.2.region .event event (some source) target
      (eventPolicy source target)
    let raised := e.startEvent event source target isStart forwardTo w
    let noted := e.noting.startEvent event source target isStart forwardTo (w.withRecord [])
    noted.1 = raised.1 ∧ noted.2.withoutRecord = raised.2 ∧
    ∃ asked taken, noted.2.record = e.hooks.noted call heard.1 ++ asked ∧
      (heard.1 = true → asked = [] ∧ taken = false) ∧
      (heard.1 = false → e.Consults heard.2.region event source forwardTo asked taken) ∧
      (raised.1 = true ↔
        heard.1 = true ∨ taken = true ∨ heard.1 = false ∧ taken = false ∧ table.1 = true) ∧
      (raised.1 = false ∨ heard.1 = true ∨ taken = true → raised.2.region = heard.2.region) ∧
      (raised.1 = true → heard.1 = false → taken = false →
        ∃ t script, e.registry.table? .event = some t ∧ t.get? event = some script ∧
          raised.2.region = { heard.2.region with
            schedule := (heard.2.region.schedule.enqueue heard.2.region.now .event t.name event
              script (some source) target).2 }) := by
  intro call heard table raised noted
  have hcall : e.hooks.askModule call w = (heard.1, heard.2) := rfl
  obtain ⟨asked, taken, hnoting, hmodule, hdeclined⟩ :=
    e.startEvent_noting event source target isStart forwardTo w hcall
  have hnoted : noted = (raised.1, raised.2.withRecord (e.hooks.noted call heard.1 ++ asked)) :=
    hnoting
  rw [hnoted]
  refine ⟨rfl, rfl, asked, taken, rfl, fun hheard => ?_, fun hheard => (hdeclined hheard).1, ?_⟩
  · obtain ⟨hasked, htaken, -⟩ := hmodule hheard
    exact ⟨hasked, htaken⟩
  cases hheard : heard.1 with
  | true =>
    obtain ⟨-, -, hraised⟩ := hmodule hheard
    have hraised' : raised = (true, heard.2) := hraised
    rw [hraised']
    exact ⟨iff_of_true rfl (.inl rfl), fun _ => rfl, nofun⟩
  | false =>
    obtain ⟨-, htaken, htable⟩ := hdeclined hheard
    cases htook : taken with
    | true =>
      obtain ⟨hyes, hregion⟩ := htaken htook
      exact ⟨iff_of_true hyes (.inr (.inl rfl)), fun _ => hregion, nofun⟩
    | false =>
      have hraised : (raised.1, raised.2.region) = table := htable htook
      have hanswer : raised.1 = table.1 := congrArg Prod.fst hraised
      have hregion : raised.2.region = table.2 := congrArg Prod.snd hraised
      rcases e.start_cases heard.2.region .event event (some source) target
        (eventPolicy source target) with ⟨t, script, ht, hscript, -, hstart⟩ | ⟨-, hstart⟩
      · have hyes : raised.1 = true := hanswer.trans (congrArg Prod.fst hstart)
        refine ⟨iff_of_true hyes (.inr (.inr ⟨rfl, rfl, congrArg Prod.fst hstart⟩)), ?_, ?_⟩
        · rw [hyes]
          rintro (h | h | h) <;> cases h
        · exact fun _ _ _ => ⟨t, script, ht, hscript, hregion.trans (congrArg Prod.snd hstart)⟩
      · have hno : raised.1 = false := hanswer.trans (congrArg Prod.fst hstart)
        have htable : table.1 = false := congrArg Prod.fst hstart
        rw [hno, htable]
        exact ⟨by simp, fun _ => hregion.trans (congrArg Prod.snd hstart), nofun⟩

end

/-- An engine with a module that takes nothing and handlers that take everything. -/
def contested : Engine Unit where
  registry := {}
  catalog := {}
  hooks := { module := some Simulation.idleModule }
  pvp := some ⟨fun _ _ _ w => (true, w), fun _ _ _ w => (true, w)⟩

/-- A battleground. -/
def battlefield : World Unit := ⟨{ id := 1, battleground := some 30 }, ()⟩

/-- The event of a game object on a battleground is put to the module and then to the handler of the
battleground, which takes it. -/
theorem events_are_routed_contested :
    let beacon : Guid := .gameObject 500 1
    (contested.noting.startEvent 7 beacon none true (some beacon)
        (battlefield.withRecord [])).2.record =
      [(.module (.processEvent 7 beacon none true), false),
        (.area (.battleground 30) 7 beacon, true)] ∧
      (contested.startEvent 7 beacon none true (some beacon) battlefield).1 = true := by
  intro beacon
  have hdeclares : Simulation.idleModule.manifest.hooks.contains .processEvent = true := by
    decide +kernel
  have hmodule : contested.hooks.moduleFor? .processEvent = some Simulation.idleModule := by
    rw [Hooks.moduleFor?, contested, Option.filter_some, if_pos hdeclares]
  have hheard : contested.hooks.askModule (.processEvent 7 beacon none true) battlefield =
      (false, battlefield) := by
    rw [Hooks.askModule, HookCall.hook, hmodule]
    rfl
  have hyes : (contested.startEvent 7 beacon none true (some beacon) battlefield).1 = true := by
    decide +kernel
  obtain ⟨-, -, asked, taken, hrecord, -, hconsults, hanswer, -, -⟩ :=
    events_are_routed contested 7 beacon none true (some beacon) battlefield
  rw [hheard] at hrecord hconsults hanswer
  rw [hrecord, Hooks.noted, HookCall.hook, hmodule]
  refine ⟨?_, hyes⟩
  cases hconsults rfl with
  | asked object handled routes =>
    cases routes with
    | regionsBattleground other fought =>
      obtain rfl := Option.some.inj fought
      rcases hanswer.mp hyes with htook | htook | ⟨-, -, htook⟩
      · cases htook
      · rw [htook]
        rfl
      · cases htook
    | playersBattleground player | playersZone player => cases player
    | objectsZone _ peaceful => cases peaceful
  | unasked nowhere => exact absurd (.regionsBattleground rfl rfl) (nowhere beacon rfl rfl rfl _)

end Engine

end RegionScript
