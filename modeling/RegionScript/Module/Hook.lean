/-!
The hooks of script modules, and sets of them.

A module declares the hooks that it wants to be called for as one bit each. Bits that stand for no
hook are ignored.
-/

namespace RegionScript

/-- What a module can be called for; most hooks differ by the kind of object they are about. -/
inductive Hook where
  | gossipHello
  | goGossipHello
  | gossipSelect
  | goGossipSelect
  | gossipSelectWithCode
  | goGossipSelectWithCode
  | questAccept
  | goQuestAccept
  | itemQuestAccept
  | questRewarded
  | goQuestRewarded
  | npcDialogStatus
  | goDialogStatus
  | goUse
  | itemUse
  | areaTrigger
  | processEvent
  | effectDummyCreature
  | effectDummyGo
  | effectDummyItem
  | effectScriptEffectCreature
  | auraDummy
  deriving DecidableEq, Repr

namespace Hook

/-- All hooks, in the order of their bits. -/
def all : List Hook :=
  [gossipHello, goGossipHello, gossipSelect, goGossipSelect, gossipSelectWithCode,
    goGossipSelectWithCode, questAccept, goQuestAccept, itemQuestAccept, questRewarded,
    goQuestRewarded, npcDialogStatus, goDialogStatus, goUse, itemUse, areaTrigger, processEvent,
    effectDummyCreature, effectDummyGo, effectDummyItem, effectScriptEffectCreature, auraDummy]

/-- The name of a hook in messages. -/
def name : Hook → String
  | gossipHello => "GOSSIP_HELLO"
  | goGossipHello => "GO_GOSSIP_HELLO"
  | gossipSelect => "GOSSIP_SELECT"
  | goGossipSelect => "GO_GOSSIP_SELECT"
  | gossipSelectWithCode => "GOSSIP_SELECT_WITH_CODE"
  | goGossipSelectWithCode => "GO_GOSSIP_SELECT_WITH_CODE"
  | questAccept => "QUEST_ACCEPT"
  | goQuestAccept => "GO_QUEST_ACCEPT"
  | itemQuestAccept => "ITEM_QUEST_ACCEPT"
  | questRewarded => "QUEST_REWARDED"
  | goQuestRewarded => "GO_QUEST_REWARDED"
  | npcDialogStatus => "NPC_DIALOG_STATUS"
  | goDialogStatus => "GO_DIALOG_STATUS"
  | goUse => "GO_USE"
  | itemUse => "ITEM_USE"
  | areaTrigger => "AREA_TRIGGER"
  | processEvent => "PROCESS_EVENT"
  | effectDummyCreature => "EFFECT_DUMMY_CREATURE"
  | effectDummyGo => "EFFECT_DUMMY_GO"
  | effectDummyItem => "EFFECT_DUMMY_ITEM"
  | effectScriptEffectCreature => "EFFECT_SCRIPT_EFFECT_CREATURE"
  | auraDummy => "AURA_DUMMY"

/-- The bit of a hook. -/
def bit (h : Hook) : UInt32 := 1 <<< UInt32.ofNat h.ctorIdx

/-- Every hook has a bit of its own. -/
theorem bit_and_bit_ne_zero_iff (h h' : Hook) : h.bit &&& h'.bit ≠ 0 ↔ h = h' := by
  cases h <;> cases h' <;> decide

/-- The hooks that the engine itself calls; a module without them is of no use. -/
def required : List Hook := [areaTrigger, processEvent]

end Hook

/-- A set of hooks, as the bits that a module declares. -/
structure HookSet where
  bits : UInt32
  deriving DecidableEq, Repr

namespace HookSet

def contains (s : HookSet) (h : Hook) : Bool := s.bits &&& h.bit ≠ 0

/-- The set of a list of hooks. -/
def ofList (hooks : List Hook) : HookSet := ⟨hooks.foldl (fun bits h => bits ||| h.bit) 0⟩

theorem contains_or (a b : UInt32) (h : Hook) :
    contains ⟨a ||| b⟩ h = (contains ⟨a⟩ h || contains ⟨b⟩ h) := by
  have hbits : (a ||| b) &&& h.bit = a &&& h.bit ||| b &&& h.bit :=
    UInt32.toBitVec_inj.mp BitVec.and_or_distrib_right
  simp [contains, hbits, UInt32.or_eq_zero_iff]

/-- The set of a list has the hooks of the list and no others. -/
theorem contains_ofList_iff {hooks : List Hook} {h : Hook} :
    (ofList hooks).contains h = true ↔ h ∈ hooks := by
  suffices hfold : ∀ bits : UInt32,
      contains ⟨hooks.foldl (fun bits h => bits ||| h.bit) bits⟩ h = true ↔
        contains ⟨bits⟩ h = true ∨ h ∈ hooks by
    rw [ofList, hfold]
    simp [contains]
  induction hooks with
  | nil => simp
  | cons first rest ih =>
    intro bits
    have hfirst : contains ⟨first.bit⟩ h = true ↔ h = first := by
      rw [contains, decide_eq_true_iff, Hook.bit_and_bit_ne_zero_iff, eq_comm]
    rw [List.foldl_cons, ih, contains_or, Bool.or_eq_true, hfirst, List.mem_cons, or_assoc]

/-- The hooks of a set, in the order of their bits. -/
def toList (s : HookSet) : List Hook := Hook.all.filter s.contains

/-- The required hooks that a set lacks. -/
def missing (s : HookSet) : List Hook := Hook.required.filter fun h => !s.contains h

theorem missing_eq_nil_iff {s : HookSet} :
    s.missing = [] ↔ ∀ h ∈ Hook.required, s.contains h = true := by
  rw [missing, List.filter_eq_nil_iff]
  simp

end HookSet

end RegionScript
