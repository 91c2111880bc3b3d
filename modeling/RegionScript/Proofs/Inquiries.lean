import RegionScript.Module.Hooks

/-!
Whom an inquiry reaches.

All foreign code is given a memory in which it also notes what it hears: the host and a module each
question with the answer, and a module its initialisation (`Handler.overheard`, `Module.overheard`).
A module goes by the number under which it was bound, so the same module bound twice is not taken
for one. Nothing else becomes of an inquiry by that, and the transcript tells that it is put to the
host first, where that hears of it at all, then to a module that declares the hook, and where nobody
has an answer, that it is the default (`Answered`).

Which hook an inquiry needs is said here from the side of the hooks, `Hook.IsAbout`, and not by what
the entry points choose.
-/

namespace RegionScript

variable {σ : Type}

/-! ### Inquiries -/

/-- What foreign code can be asked: to take a call, or for the dialog status of a giver. -/
inductive Inquiry where
  | call (call : HookCall)
  | status (player giver : Guid)
  deriving DecidableEq

/-- What it says to that. -/
inductive Reply where
  | taken (taken : Bool)
  | status (status : UInt32)
  deriving DecidableEq

/-- The inquiries that a module has to declare a hook for. -/
def Hook.IsAbout : Hook → Inquiry → Prop
  | gossipHello, .call (.gossipHello _ speaker) => speaker.isCreature = true
  | goGossipHello, .call (.gossipHello _ speaker) => speaker.isCreature = false
  | gossipSelect, .call (.gossipSelect _ speaker _ _ none) => speaker.isCreature = true
  | goGossipSelect, .call (.gossipSelect _ speaker _ _ none) => speaker.isCreature = false
  | gossipSelectWithCode, .call (.gossipSelect _ speaker _ _ (some _)) => speaker.isCreature = true
  | goGossipSelectWithCode, .call (.gossipSelect _ speaker _ _ (some _)) =>
    speaker.isCreature = false
  | questAccept, .call (.questAccept _ giver _) => giver.isCreature = true
  | itemQuestAccept, .call (.questAccept _ giver _) => giver.isItem = true
  | goQuestAccept, .call (.questAccept _ giver _) =>
    giver.isCreature = false ∧ giver.isItem = false
  | questRewarded, .call (.questRewarded _ giver _) => giver.isCreature = true
  | goQuestRewarded, .call (.questRewarded _ giver _) => giver.isCreature = false
  | npcDialogStatus, .status _ giver => giver.isCreature = true
  | goDialogStatus, .status _ giver => giver.isCreature = false
  | goUse, .call (.goUse ..) => True
  | itemUse, .call (.itemUse ..) => True
  | areaTrigger, .call (.areaTrigger ..) => True
  | processEvent, .call (.processEvent ..) => True
  | effectDummyCreature, .call (.effectDummy _ _ _ target _) => target.isCreature = true
  | effectDummyItem, .call (.effectDummy _ _ _ target _) => target.isItem = true
  | effectDummyGo, .call (.effectDummy _ _ _ target _) =>
    target.isCreature = false ∧ target.isItem = false
  | effectScriptEffectCreature, .call (.scriptEffect ..) => True
  | auraDummy, .call (.auraDummy ..) => True
  | _, _ => False

/-- The hooks that are the module's alone; the host hears of all others. -/
def Hook.moduleOnly : List Hook := [goUse, processEvent, effectScriptEffectCreature, auraDummy]

/-- An item is no creature. -/
theorem Guid.isCreature_eq_false_of_isItem {g : Guid} (h : g.isItem = true) :
    g.isCreature = false := by
  have hkind : g.kind = .item := of_decide_eq_true h
  rw [Guid.isCreature, hkind]
  rfl

namespace Inquiry

/-- What the host is told; the first caster of an effect it is not. -/
def toHost : Inquiry → Inquiry
  | call (.effectDummy caster spell index target _) =>
    call (.effectDummy caster spell index target none)
  | q => q

/-- How the host leaves an inquiry to the module. -/
def declined : Inquiry → Reply
  | call _ => .taken false
  | status .. => .status 0

/-- The answer when nobody has one. -/
def default : Inquiry → Reply
  | call _ => .taken false
  | status .. => .status 100

/-- The hook that the entry points choose. -/
def hook : Inquiry → Hook
  | call c => c.hook
  | status _ giver => dialogHook giver

/-- What the entry points let the host hear. -/
def forHost? : Inquiry → Option Inquiry
  | call c => c.forHost?.map call
  | status player giver => some (status player giver)

/-- The entry points choose a hook that is about the inquiry. -/
theorem hook_isAbout (q : Inquiry) : q.hook.IsAbout q := by
  cases q with
  | status player giver =>
    cases h : giver.isCreature <;> simp [hook, dialogHook, Hook.IsAbout, h]
  | call c =>
    cases c with
    | gossipHello player speaker =>
      cases h : speaker.isCreature <;> simp [hook, HookCall.hook, Hook.IsAbout, h]
    | gossipSelect player speaker sender action code =>
      cases h : speaker.isCreature <;> cases code <;>
        simp [hook, HookCall.hook, Hook.IsAbout, h]
    | questAccept player giver =>
      cases h : giver.isCreature <;> cases h' : giver.isItem <;>
        simp [hook, HookCall.hook, Hook.IsAbout, h, h']
    | questRewarded player giver =>
      cases h : giver.isCreature <;> simp [hook, HookCall.hook, Hook.IsAbout, h]
    | effectDummy caster spell index target =>
      cases h : target.isCreature <;> cases h' : target.isItem <;>
        simp [hook, HookCall.hook, Hook.IsAbout, h, h']
    | goUse | itemUse | areaTrigger | processEvent | scriptEffect | auraDummy => trivial

/-- No other hook is about it. -/
theorem isAbout_iff {q : Inquiry} {hook : Hook} : hook.IsAbout q ↔ hook = q.hook := by
  constructor
  · intro h
    unfold Hook.IsAbout at h
    split at h <;>
      simp_all [Inquiry.hook, HookCall.hook, dialogHook, Guid.isCreature_eq_false_of_isItem]
  · rintro rfl
    exact hook_isAbout q

theorem forHost?_eq (q : Inquiry) :
    q.forHost? = if q.hook ∈ Hook.moduleOnly then none else some q.toHost := by
  have habout := q.hook_isAbout
  generalize q.hook = hook at habout
  unfold Hook.IsAbout at habout
  split at habout <;> trivial

end Inquiry

/-- What foreign code says to an inquiry, and the world after that. -/
def Handler.reply (h : Handler σ) (q : Inquiry) (w : World σ) : Reply × World σ :=
  match q with
  | .call call =>
    let (taken, w) := h.handle call w
    (.taken taken, w)
  | .status player giver =>
    let (status, memory) := h.dialogStatus player giver w
    (.status status, { w with memory })

/-- What the entry points say. -/
def Hooks.reply (h : Hooks σ) (q : Inquiry) (w : World σ) : Reply × World σ :=
  match q with
  | .call call =>
    let (taken, w) := h.call call w
    (.taken taken, w)
  | .status player giver =>
    let (status, w) := h.dialogStatus player giver w
    (.status status, w)

/-! ### Transcripts -/

/-- What foreign code hears; a module goes by the number of the move that bound it. -/
inductive Hearing where
  | init (binding : Nat)
  | host (q : Inquiry) (reply : Reply)
  | module (binding : Nat) (q : Inquiry) (reply : Reply)
  deriving DecidableEq

abbrev Transcript := List Hearing

namespace World

def withTranscript (w : World σ) (t : Transcript) : World (σ × Transcript) :=
  ⟨w.region, w.memory, t⟩

def withoutTranscript (w : World (σ × Transcript)) : World σ := ⟨w.region, w.memory.1⟩

end World

/-- The same foreign code, with all that it is asked noted. -/
def Handler.overheard (note : Inquiry → Reply → Hearing) (h : Handler σ) :
    Handler (σ × Transcript) where
  handle call w :=
    let (taken, after) := h.handle call w.withoutTranscript
    (taken, after.withTranscript (w.memory.2 ++ [note (.call call) (.taken taken)]))
  dialogStatus player giver w :=
    let (status, memory) := h.dialogStatus player giver w.withoutTranscript
    (status, memory, w.memory.2 ++ [note (.status player giver) (.status status)])

/-- The same module, with all that it is asked noted, and that it is initialised. -/
def Module.overheard (binding : Nat) (m : Module σ) : Module (σ × Transcript) where
  toHandler := m.toHandler.overheard (.module binding)
  manifest := m.manifest
  init s := (m.init s.1, s.2 ++ [.init binding])

theorem Handler.reply_overheard (h : Handler σ) (note : Inquiry → Reply → Hearing) (q : Inquiry)
    (w : World σ) (t : Transcript) :
    (h.overheard note).reply q (w.withTranscript t) =
      ((h.reply q w).1, (h.reply q w).2.withTranscript (t ++ [note q (h.reply q w).1])) := by
  cases q <;> rfl

/-! ### Asking -/

/-- The host leaves an inquiry about a hook to the module: it is asked and declines, or it is not
asked at all. -/
inductive Declines (host : Option (Handler σ)) (hook : Hook) (q : Inquiry) (w : World σ) :
    Transcript → World σ → Prop
  | asked {h : Handler σ} {w' : World σ} (there : host = some h) (hears : hook ∉ Hook.moduleOnly)
      (declines : h.reply q.toHost w = (q.declined, w')) :
      Declines host hook q w [.host q.toHost q.declined] w'
  | unasked (alone : host = none ∨ hook ∈ Hook.moduleOnly) : Declines host hook q w [] w

/-- The ways in which an inquiry about a hook can go: the host takes it; or it does not, and the
bound module answers, if it declares the hook; or nobody does, and there is the default. -/
inductive Answered (host : Option (Handler σ)) (isBound : Nat → Module σ → Prop) (hook : Hook)
    (q : Inquiry) (w : World σ) : Transcript → Reply → World σ → Prop
  | host {h : Handler σ} {reply : Reply} {w' : World σ} (there : host = some h)
      (hears : hook ∉ Hook.moduleOnly) (takes : h.reply q.toHost w = (reply, w'))
      (opinion : reply ≠ q.declined) :
      Answered host isBound hook q w [.host q.toHost reply] reply w'
  | module {n : Nat} {x : Module σ} {asked : Transcript} {w' w'' : World σ} {reply : Reply}
      (declined : Declines host hook q w asked w') (bound : isBound n x)
      (declares : x.manifest.hooks.contains hook = true) (answers : x.reply q w' = (reply, w'')) :
      Answered host isBound hook q w (asked ++ [.module n q reply]) reply w''
  | nobody {asked : Transcript} {w' : World σ} (declined : Declines host hook q w asked w')
      (undeclared : ∀ n x, isBound n x → x.manifest.hooks.contains hook = false) :
      Answered host isBound hook q w asked q.default w'

/-- Nobody is initialised by an inquiry. -/
theorem Answered.not_init {host : Option (Handler σ)} {isBound : Nat → Module σ → Prop}
    {hook : Hook} {q : Inquiry} {w w' : World σ} {heard : Transcript} {reply : Reply}
    (h : Answered host isBound hook q w heard reply w') (n : Nat) : .init n ∉ heard := by
  have hasked : ∀ {asked : Transcript} {w' : World σ}, Declines host hook q w asked w' →
      .init n ∉ asked := by
    rintro _ _ (_ | _)
    · simp
    · simp
  cases h with
  | host => simp
  | module declined =>
    rw [List.mem_append, not_or]
    exact ⟨hasked declined, by simp⟩
  | nobody declined => exact hasked declined

namespace Hooks

/-- What the host says, if it is there and lets itself be asked. -/
def hostReply (h : Hooks σ) (q : Inquiry) (w : World σ) : Reply × World σ :=
  match h.host, q.forHost? with
  | some host, some told => host.reply told w
  | _, _ => (q.declined, w)

/-- What the module says, if it declares the hook. -/
def moduleReply (h : Hooks σ) (q : Inquiry) (w : World σ) : Reply × World σ :=
  match h.moduleFor? q.hook with
  | some m => m.reply q w
  | none => (q.default, w)

/-- The entry points go from one to the other. -/
theorem reply_eq (h : Hooks σ) (q : Inquiry) (w : World σ) :
    h.reply q w =
      if (h.hostReply q w).1 = q.declined then h.moduleReply q (h.hostReply q w).2
      else h.hostReply q w := by
  cases q with
  | call c =>
    have hhost : h.hostReply (.call c) w = (.taken (h.askHost c w).1, (h.askHost c w).2) := by
      unfold hostReply askHost
      dsimp only [Inquiry.forHost?]
      cases h.host <;> cases c.forHost? <;> rfl
    have hmodule : ∀ w, h.moduleReply (.call c) w =
        (.taken (h.askModule c w).1, (h.askModule c w).2) := by
      intro w
      unfold moduleReply askModule Inquiry.hook
      cases h.moduleFor? c.hook <;> rfl
    rw [hhost, hmodule]
    show (Reply.taken (h.call c w).1, (h.call c w).2) = _
    unfold call
    rcases h.askHost c w with ⟨_ | _, w'⟩ <;> rfl
  | status player giver =>
    have hhost : h.hostReply (.status player giver) w = (.status (h.hostStatus player giver w).1,
        { w with memory := (h.hostStatus player giver w).2 }) := by
      unfold hostReply hostStatus Inquiry.forHost?
      cases h.host <;> rfl
    have hmodule : ∀ w, h.moduleReply (.status player giver) w =
        (.status (h.moduleStatus player giver w).1,
          { w with memory := (h.moduleStatus player giver w).2 }) := by
      intro w
      unfold moduleReply moduleStatus Inquiry.hook
      cases h.moduleFor? (dialogHook giver) <;> rfl
    rw [hhost, hmodule]
    show (Reply.status (h.dialogStatus player giver w).1, (h.dialogStatus player giver w).2) = _
    unfold dialogStatus
    rcases h.hostStatus player giver w with ⟨status, memory⟩
    by_cases hzero : status = 0
    · subst hzero
      rfl
    · simp [hzero, Inquiry.declined]

section

variable {h : Hooks σ} {q : Inquiry} {w w' : World σ}

theorem hostReply_of_alone (alone : h.host = none ∨ q.hook ∈ Hook.moduleOnly) (w : World σ) :
    h.hostReply q w = (q.declined, w) := by
  unfold hostReply
  rcases alone with hnone | honly
  · rw [hnone]
  · rw [q.forHost?_eq, if_pos honly]
    cases h.host <;> rfl

theorem hostReply_of_hears {host : Handler σ} (there : h.host = some host)
    (hears : q.hook ∉ Hook.moduleOnly) (w : World σ) :
    h.hostReply q w = host.reply q.toHost w := by
  unfold hostReply
  rw [there, q.forHost?_eq, if_neg hears]

theorem reply_of_opinion {reply : Reply} (takes : h.hostReply q w = (reply, w'))
    (opinion : reply ≠ q.declined) : h.reply q w = (reply, w') := by
  rw [reply_eq, takes, if_neg opinion]

theorem reply_of_declined (declines : h.hostReply q w = (q.declined, w')) :
    h.reply q w = h.moduleReply q w' := by
  rw [reply_eq, declines, if_pos rfl]

end

/-- A host, and a module that was bound by a move. -/
def of (host : Option (Handler σ)) (binding : Option (Nat × Module σ)) : Hooks σ where
  module := binding.map Prod.snd
  host := host

/-- The same, with all that they are asked noted. -/
def overheard (host : Option (Handler σ)) (binding : Option (Nat × Module σ)) :
    Hooks (σ × Transcript) where
  module := binding.map fun e => e.2.overheard e.1
  host := host.map (Handler.overheard .host)

section

variable (host : Option (Handler σ)) (binding : Option (Nat × Module σ)) (q : Inquiry)

/-- The host is not asked, or asked and declines, or it has an opinion. -/
theorem hostReply_overheard (w : World σ) (t : Transcript) :
    (∃ asked w', Declines host q.hook q w asked w' ∧
      (of host binding).hostReply q w = (q.declined, w') ∧
      (overheard host binding).hostReply q (w.withTranscript t) =
        (q.declined, w'.withTranscript (t ++ asked))) ∨
    ∃ h reply w', host = some h ∧ q.hook ∉ Hook.moduleOnly ∧
      h.reply q.toHost w = (reply, w') ∧ reply ≠ q.declined ∧
      (of host binding).hostReply q w = (reply, w') ∧
      (overheard host binding).hostReply q (w.withTranscript t) =
        (reply, w'.withTranscript (t ++ [.host q.toHost reply])) := by
  by_cases halone : host = none ∨ q.hook ∈ Hook.moduleOnly
  · have hnoted : (overheard host binding).host = none ∨ q.hook ∈ Hook.moduleOnly :=
      halone.imp_left Option.map_eq_none_iff.mpr
    refine .inl ⟨[], w, .unasked halone, hostReply_of_alone halone w, ?_⟩
    rw [List.append_nil]
    exact hostReply_of_alone hnoted _
  · obtain ⟨hthere, hears⟩ := not_or.mp halone
    obtain ⟨h, rfl⟩ := Option.ne_none_iff_exists'.mp hthere
    have hplain : (of (some h) binding).hostReply q w = h.reply q.toHost w :=
      hostReply_of_hears rfl hears w
    have hnoted : (overheard (some h) binding).hostReply q (w.withTranscript t) =
        (h.overheard .host).reply q.toHost (w.withTranscript t) :=
      hostReply_of_hears rfl hears _
    rw [Handler.reply_overheard] at hnoted
    cases htold : h.reply q.toHost w with
    | mk reply w' =>
      rw [htold] at hplain hnoted
      by_cases hdeclined : reply = q.declined
      · subst hdeclined
        exact .inl ⟨_, w', .asked rfl hears htold, hplain, hnoted⟩
      · exact .inr ⟨h, reply, w', rfl, hears, htold, hdeclined, hplain, hnoted⟩

/-- What comes after the host has declined. -/
theorem moduleReply_overheard {w w' : World σ} {asked : Transcript}
    (declined : Declines host q.hook q w asked w') (t : Transcript) :
    ∃ heard reply w'',
      Answered host (fun n x => binding = some (n, x)) q.hook q w heard reply w'' ∧
      (of host binding).moduleReply q w' = (reply, w'') ∧
      (overheard host binding).moduleReply q (w'.withTranscript (t ++ asked)) =
        (reply, w''.withTranscript (t ++ heard)) := by
  cases binding with
  | none => exact ⟨asked, q.default, w', .nobody declined nofun, rfl, rfl⟩
  | some e =>
    obtain ⟨n, x⟩ := e
    cases hdeclares : x.manifest.hooks.contains q.hook with
    | false =>
      have hplain : (of host (some (n, x))).moduleFor? q.hook = none :=
        Option.filter_some_neg hdeclares
      have hnoted : (overheard host (some (n, x))).moduleFor? q.hook = none :=
        Option.filter_some_neg hdeclares
      refine ⟨asked, q.default, w', .nobody declined ?_, ?_, ?_⟩
      · rintro _ _ ⟨⟩
        exact hdeclares
      · rw [moduleReply, hplain]
      · rw [moduleReply, hnoted]
    | true =>
      have hplain : (of host (some (n, x))).moduleFor? q.hook = some x :=
        Option.filter_some_pos hdeclares
      have hnoted : (overheard host (some (n, x))).moduleFor? q.hook = some (x.overheard n) :=
        Option.filter_some_pos hdeclares
      refine ⟨_, (x.reply q w').1, (x.reply q w').2, .module declined rfl hdeclares rfl, ?_, ?_⟩
      · rw [moduleReply, hplain]
      · rw [moduleReply, hnoted]
        show (x.toHandler.overheard _).reply q _ = _
        rw [Handler.reply_overheard, List.append_assoc]

/-- A host and a module that are overheard say the same, and the transcript tells how it went. -/
theorem reply_overheard (w : World σ) (t : Transcript) :
    ∃ heard reply w',
      Answered host (fun n x => binding = some (n, x)) q.hook q w heard reply w' ∧
      (of host binding).reply q w = (reply, w') ∧
      (overheard host binding).reply q (w.withTranscript t) =
        (reply, w'.withTranscript (t ++ heard)) := by
  rcases hostReply_overheard host binding q w t with
    ⟨asked, w', hdeclines, hplain, hnoted⟩ |
    ⟨h, reply, w', rfl, hears, htold, hopinion, hplain, hnoted⟩
  · rw [reply_of_declined hplain, reply_of_declined hnoted]
    exact moduleReply_overheard host binding q hdeclines t
  · exact ⟨_, reply, w', .host rfl hears htold hopinion, reply_of_opinion hplain hopinion,
      reply_of_opinion hnoted hopinion⟩

end

end Hooks

end RegionScript
