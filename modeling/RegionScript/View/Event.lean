import RegionScript.Region.Event
import RegionScript.Step.Basic
import RegionScript.View.Object
import RegionScript.View.Script

/-!
Views of what happens in a region, of what is still to happen, and of what is logged.
-/

namespace RegionScript

open Document

def SoundScope.view : SoundScope → Json
  | direct listener => viewTagged "direct" [.ofOption Guid.view listener]
  | distance listener => viewTagged "distance" [.ofOption Guid.view listener]
  | map => viewTagged "map" []
  | zone z => viewTagged "zone" [.ofUInt32 z]

def WorldEvent.view : WorldEvent → Json
  | text s t x => viewTagged "Text" [s.view, .ofOption Guid.view t, .ofInt32 x]
  | emote s e => viewTagged "Emote" [s.view, .ofUInt32 e]
  | facingSet g o => viewTagged "FacingSet" [g.view, o.view]
  | movedTo g p s => viewTagged "MovedTo" [g.view, p.view, .ofOption Single.view s]
  | nearTeleport g p => viewTagged "NearTeleport" [g.view, p.view]
  | teleported g m p => viewTagged "Teleported" [g.view, .ofUInt32 m, p.view]
  | questExplored p q => viewTagged "QuestExplored" [p.view, .ofUInt32 q]
  | questFailed p q => viewTagged "QuestFailed" [p.view, .ofUInt32 q]
  | killCredit p e => viewTagged "KillCredit" [p.view, .ofUInt32 e]
  | respawned g s => viewTagged "Respawned" [g.view, .ofUInt32 s]
  | despawned g => viewTagged "Despawned" [g.view]
  | summoned g e s => viewTagged "Summoned" [g.view, .ofUInt32 e, s.view]
  | doorOrButtonUsed g s => viewTagged "DoorOrButtonUsed" [g.view, .text s.word]
  | gameObjectUsed g u => viewTagged "GameObjectUsed" [g.view, u.view]
  | auraRemoved g s => viewTagged "AuraRemoved" [g.view, .ofUInt32 s]
  | spellCast c t s triggered o =>
    viewTagged "SpellCast" [c.view, t.view, .ofUInt32 s, .bool triggered, .ofOption Guid.view o]
  | sound s n scope => viewTagged "Sound" [s.view, .ofUInt32 n, scope.view]
  | itemCreated p i n => viewTagged "ItemCreated" [p.view, .ofUInt32 i, .ofUInt32 n]
  | attackStarted a v => viewTagged "AttackStarted" [a.view, v.view]
  | taxiStarted p t => viewTagged "TaxiStarted" [p.view, .ofUInt32 t]

/-- The tag of a step's failure. -/
def StepError.tag : StepError → String
  | unsupportedGuid .. => "UnsupportedGuid"
  | buddyDead .. => "BuddyDead"
  | buddyNotLoaded .. => "BuddyNotLoaded"
  | noSearcher .. => "NoSearcher"
  | buddyNotFound .. => "BuddyNotFound"
  | noSource => "NoSource"
  | notCreature => "NotCreature"
  | notUnit => "NotUnit"
  | notGameObject => "NotGameObject"
  | notPlayer => "NotPlayer"
  | invalidField .. => "InvalidField"
  | textNotDisplayed .. => "TextNotDisplayed"
  | noWorldObject => "NoWorldObject"
  | noCreditSource => "NoCreditSource"
  | gameObjectMissing .. => "GameObjectMissing"
  | wrongGameObjectType .. => "WrongGameObjectType"
  | unknownTemplate .. => "UnknownTemplate"
  | summonFailed .. => "SummonFailed"
  | friendlyTarget .. => "FriendlyTarget"
  | unsupported .. => "Unsupported"

def LogLevel.tag : LogLevel → String
  | error => "ERROR"
  | warn => "WARN"
  | info => "INFO"
  | debug => "DEBUG"

def LogLine.view (l : LogLine) : Json :=
  .array [.text l.level.tag, .text l.target, .text l.message]

def PendingStep.view (p : PendingStep) : Json :=
  .record [
    ("invocation", .ofNat p.invocation),
    ("table", .text p.table),
    ("command", p.command.view),
    ("source", .ofOption Guid.view p.source),
    ("target", .ofOption Guid.view p.target)]

end RegionScript
