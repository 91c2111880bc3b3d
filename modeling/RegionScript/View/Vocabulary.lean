import RegionScript.Module.Hook
import RegionScript.Step.Run
import RegionScript.View.Script

/-!
The words and limits of the engine, for tools that check scripts themselves.
-/

namespace RegionScript

open Document

def TableKind.view (k : TableKind) : Json := viewTexts [k.word, k.tableName, k.tableName]

def Hook.view (h : Hook) : Json := .array [.text h.name, .ofUInt32 h.bit]

def GameObjectType.view (t : GameObjectType) : Json :=
  .array [.text t.word, .text t.label, .bool t.blocksRespawn]

def ChatType.view (c : ChatType) : Json := .array [.text c.word, .bool c.needsPlayerTarget]

/-- Limits of coordinates, delays, texts, stand states and fields. -/
def viewLimits : Json :=
  .array [Position.mapHalfSize.view, Position.maxHeight.view, Step.arrivalTolerance.view,
    .ofUInt32 Step.minDoorReset, .ofUInt32 Step.minRespawnDelay, .ofInt32 minTextId,
    .ofInt32 maxTextId, .ofUInt32 standStateCount, .ofUInt32 Fields.playerEnd,
    .ofUInt32 Fields.unitEnd, .ofUInt32 Fields.gameObjectEnd, .ofUInt32 Fields.itemEnd,
    .bool Position.origin.isOrigin]

/-- All words and limits. -/
def viewVocabulary : Json :=
  .record [
    ("tables", .ofList TableKind.view TableKind.all),
    ("hooks", .ofList Hook.view Hook.all),
    ("required", viewTexts (Hook.required.map Hook.name)),
    ("types", .ofList GameObjectType.view GameObjectType.all),
    ("chats", .ofList ChatType.view ChatType.all),
    ("limits", viewLimits)]

end RegionScript
