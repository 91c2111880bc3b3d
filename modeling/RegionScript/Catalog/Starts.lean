import RegionScript.Catalog.Basic

/-!
What in the game data can start a script: effects of spells and the events that objects, spells and
taxi nodes raise.

Of a spell at most one effect starts its script, the one of the highest priority and of these the
first.
-/

namespace RegionScript.Catalog

/-- How an effect competes with the others of its spell; zero is for those that start no script. -/
def startPriority (c : Catalog) (s : Spell) (index : Nat) : Nat :=
  match s.effects[index]? with
  | none => 0
  | some e =>
    match e.kind with
    | .scriptEffect => 10
    | .dummy => 9
    | .triggerSpell => if c.spells.contains e.triggerSpell then 0 else 5
    | _ => 0

/-- Whether an effect is the one that starts its spell's script. -/
def startsScript (c : Catalog) (s : Spell) (index : Nat) : Bool :=
  let priority := c.startPriority s index
  priority ≠ 0 && (List.range effectCount).all fun other =>
    c.startPriority s other < priority || (c.startPriority s other = priority && index ≤ other)

/-- Whether any effect of a spell can start its script. -/
def isStarter (c : Catalog) (s : Spell) : Bool :=
  (List.range effectCount).any fun index => c.startPriority s index ≠ 0

/-- The events of game object templates. -/
def objectEvents (c : Catalog) : List UInt32 :=
  (c.gameObjectTemplates.values.filter (·.type.raisesEvents)).flatMap (·.eventIds)

/-- The events that spells send; the number is positive where there is one. -/
def spellEvents (c : Catalog) : List UInt32 :=
  c.spells.values.flatMap fun s =>
    (s.effects.toList.filter fun e => e.kind = .sendEvent && 0 < e.miscValue).map
      (·.miscValue.toUInt32)

/-- The events at the ends of taxi nodes. -/
def taxiEvents (c : Catalog) : List UInt32 :=
  c.taxiPaths.values.flatMap fun p => p.nodes.flatMap fun n => [n.arrivalEvent, n.departureEvent]

/-- Every event that something can raise. Zero is no event. -/
def eventIds (c : Catalog) : OrderedSet UInt32 :=
  .ofList ((c.objectEvents ++ c.spellEvents ++ c.taxiEvents).filter (· ≠ 0))

/-- The first spell that sends players along a taxi path. -/
def taxiSpell? (c : Catalog) (path : UInt32) : Option UInt32 :=
  (c.spells.values.find? fun s =>
    s.effects.toList.any fun e => e.kind = .sendTaxi && e.miscValue.toUInt32 = path).map (·.id)

end RegionScript.Catalog
