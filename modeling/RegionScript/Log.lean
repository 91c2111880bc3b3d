/-!
Lines of the log, and the one-line form in which designer-written text appears in them.

A text is cut after 200 characters, and then carries an ellipsis. Backslashes and control
characters are escaped, so that a line never breaks and the text can be read back up to the cut.
-/

namespace RegionScript

inductive LogLevel where
  | error
  | warn
  | info
  | debug
  deriving DecidableEq, Repr

/-- One message, with the part of the engine that wrote it. -/
structure LogLine where
  level : LogLevel
  target : String
  message : String
  deriving DecidableEq, Repr

namespace Log

/-- Longest text that is shown in full. -/
def previewLength : Nat := 200

/-- The control characters: below U+0020, and U+007F to U+009F. -/
def isControl (c : Char) : Bool := c.toNat < 0x20 || (0x7f ≤ c.toNat && c.toNat < 0xa0)

def hexDigit (n : Nat) : Char := (Nat.digitChar n).toUpper

/-- A backslash is doubled, the usual line and tab controls have a letter, any other control
character its two hexadecimal digits. -/
def escapeChar (c : Char) : List Char :=
  if c = '\\' then ['\\', '\\']
  else if c = '\n' then ['\\', 'n']
  else if c = '\r' then ['\\', 'r']
  else if c = '\t' then ['\\', 't']
  else if isControl c then ['\\', 'x', hexDigit (c.toNat / 16), hexDigit (c.toNat % 16)]
  else [c]

def escapeChars (cs : List Char) : List Char :=
  (cs.take previewLength).flatMap escapeChar ++
    if previewLength < cs.length then ['…'] else []

/-- The text on one line. -/
def escape (s : String) : String := String.ofList (escapeChars s.toList)

/-- Whether a text is short and free of anything to escape, so that it stands for itself. -/
def isPlain (s : String) : Bool :=
  s.length ≤ previewLength && s.toList.all fun c => c ≠ '\\' && !isControl c

end Log

end RegionScript
