import RegionScript.Document.Encode
import RegionScript.Guid.Text
import RegionScript.Position

/-!
Views: documents that show values to tools which look into a running engine.

A view rounds and formats nothing. A single is shown as its bit pattern, with one pattern for all
that are no number; identities are shown as texts; a value of a sum is an array that begins with
its tag.
-/

namespace RegionScript

open Document

/-- The pattern that stands for every NaN. -/
def Single.canonicalNaN : UInt32 := 0x7fc00000

def Single.view (x : Single) : Json := .ofUInt32 (if x.isNaN then canonicalNaN else x.bits)

/-- Coordinates and facing. -/
def Position.views (p : Position) : List Json := [p.x.view, p.y.view, p.z.view, p.o.view]

def Position.view (p : Position) : Json := .array p.views

def Guid.view (g : Guid) : Json := .text g.toText

/-- An array of words. -/
def viewWords (l : List UInt32) : Json := .ofList .ofUInt32 l

/-- An array of texts. -/
def viewTexts (l : List String) : Json := .ofList .text l

/-- A value of a sum: its tag and its parts. -/
def viewTagged (tag : String) (parts : List Json) : Json := .array (.text tag :: parts)

end RegionScript
