import RegionScript.Script.Command

/-!
Script tables: the scripts of one event family, by id.

A script is a list of steps ordered by delay; steps of equal delay stay in the order of their rows.
`ofCommands` builds a table by adding one command after the other behind those that are not later,
so a script in a table is never empty.
-/

namespace RegionScript

/-- The event families that scripts are attached to. -/
inductive TableKind where
  | questStart
  | questEnd
  | spell
  | gameObjectUse
  | gameObjectTemplateUse
  | event
  | gossip
  | creatureDeath
  | creatureMovement
  deriving DecidableEq, Repr, Inhabited

namespace TableKind

def all : List TableKind :=
  [questStart, questEnd, spell, gameObjectUse, gameObjectTemplateUse, event, gossip, creatureDeath,
    creatureMovement]

/-- Families are ordered as listed. -/
instance : Ord TableKind := ⟨compareOn TableKind.ctorIdx⟩

instance : Std.TransOrd TableKind := inferInstanceAs (Std.TransCmp (compareOn TableKind.ctorIdx))

instance : Std.LawfulEqOrd TableKind where
  eq_of_compare {a b} h := by
    have hi : a.ctorIdx = b.ctorIdx := Std.LawfulEqOrd.eq_of_compare h
    cases a <;> cases b <;> first | rfl | exact absurd hi (by decide)

/-- The word for a family. -/
def word : TableKind → String
  | questStart => "quest_start"
  | questEnd => "quest_end"
  | spell => "spell"
  | gameObjectUse => "game_object_use"
  | gameObjectTemplateUse => "game_object_template_use"
  | event => "event"
  | gossip => "gossip"
  | creatureDeath => "creature_death"
  | creatureMovement => "creature_movement"

/-- The name of the table that a family is read from unless told otherwise. -/
def tableName : TableKind → String
  | questStart => "dbscripts_on_quest_start"
  | questEnd => "dbscripts_on_quest_end"
  | spell => "dbscripts_on_spell"
  | gameObjectUse => "dbscripts_on_go_use"
  | gameObjectTemplateUse => "dbscripts_on_go_template_use"
  | event => "dbscripts_on_event"
  | gossip => "dbscripts_on_gossip"
  | creatureDeath => "dbscripts_on_creature_death"
  | creatureMovement => "dbscripts_on_creature_movement"

def ofTableName? (name : String) : Option TableKind := all.find? (·.tableName = name)

end TableKind

/-- A list of steps in the order in which they are due. -/
abbrev Script := List Command

/-- Puts a step behind all that are not later. -/
def Script.add (c : Command) : Script → Script
  | [] => [c]
  | d :: rest => if c.delay < d.delay then c :: d :: rest else d :: add c rest

/-- The scripts of one family, loaded from the table of the given name. -/
structure ScriptTable where
  kind : TableKind
  name : String
  scripts : OrderedMap UInt32 Script
  deriving DecidableEq

namespace ScriptTable

/-- A table without scripts. -/
def empty (kind : TableKind) (name : String) : ScriptTable := ⟨kind, name, ∅⟩

/-- Adds a command to the script of its id. -/
def add (t : ScriptTable) (c : Command) : ScriptTable :=
  { t with scripts := t.scripts.upsert c.id fun script => Script.add c (script.getD []) }

/-- The table of a list of commands. -/
def ofCommands (kind : TableKind) (name : String) (commands : List Command) : ScriptTable :=
  commands.foldl add (empty kind name)

def get? (t : ScriptTable) (id : UInt32) : Option Script := t.scripts.get? id

def contains (t : ScriptTable) (id : UInt32) : Bool := t.scripts.contains id

/-- The script ids, ascending. -/
def ids (t : ScriptTable) : List UInt32 := t.scripts.keys

/-- The number of scripts. -/
def size (t : ScriptTable) : Nat := t.scripts.size

def isEmpty (t : ScriptTable) : Bool := t.scripts.isEmpty

/-- The number of commands in all scripts. -/
def commandCount (t : ScriptTable) : Nat := t.scripts.values.flatten.length

end ScriptTable

end RegionScript
