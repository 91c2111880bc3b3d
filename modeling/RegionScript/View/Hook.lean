import RegionScript.Module.Basic
import RegionScript.View.Basic

/-!
Views of the calls that foreign code receives: the word for a call, what it was called with, and the
one number by which calls of a word are told apart.
-/

namespace RegionScript

open Document

namespace HookCall

/-- The word for a call. -/
def word : HookCall → String
  | gossipHello .. => "gossip_hello"
  | gossipSelect .. => "gossip_select"
  | questAccept .. => "quest_accept"
  | questRewarded .. => "quest_rewarded"
  | goUse .. => "go_use"
  | itemUse .. => "item_use"
  | areaTrigger .. => "area_trigger"
  | processEvent .. => "process_event"
  | effectDummy .. => "effect_dummy"
  | scriptEffect .. => "script_effect"
  | auraDummy .. => "aura_dummy"

/-- What a call is made with, in order. -/
def parts : HookCall → List Json
  | gossipHello player speaker => [player.view, speaker.view]
  | gossipSelect player speaker sender action code =>
    [player.view, speaker.view, .ofUInt32 sender, .ofUInt32 action, .ofOption .text code]
  | questAccept player giver quest | questRewarded player giver quest =>
    [player.view, giver.view, .ofUInt32 quest]
  | goUse player object => [player.view, object.view]
  | itemUse player item => [player.view, item.view]
  | areaTrigger player trigger => [player.view, .ofUInt32 trigger]
  | processEvent event source target isStart =>
    [.ofUInt32 event, source.view, .ofOption Guid.view target, .bool isStart]
  | effectDummy caster spell index target first
  | scriptEffect caster spell index target first =>
    [caster.view, .ofUInt32 spell, .ofNat index, target.view, .ofOption Guid.view first]
  | auraDummy holder spell apply => [holder.view, .ofUInt32 spell, .bool apply]

/-- What a call is made with, as far as the host is told. -/
def hostParts : HookCall → List Json
  | effectDummy caster spell index target _ =>
    [caster.view, .ofUInt32 spell, .ofNat index, target.view]
  | call => call.parts

/-- The number that tells calls of a word apart. -/
def key : HookCall → UInt32
  | gossipHello _ speaker => speaker.counter
  | gossipSelect _ _ _ action _ => action
  | questAccept _ _ quest | questRewarded _ _ quest => quest
  | goUse _ object => object.counter
  | itemUse _ item => item.counter
  | areaTrigger _ trigger => trigger
  | processEvent event _ _ _ => event
  | effectDummy _ spell _ _ _ | scriptEffect _ spell _ _ _ | auraDummy _ spell _ => spell

end HookCall

/-- The tag of a module's failure to be bound. -/
def ModuleError.tag : ModuleError → String
  | notFound .. => "NotFound"
  | wrongApi .. => "WrongApi"
  | outdated .. => "Outdated"

end RegionScript
