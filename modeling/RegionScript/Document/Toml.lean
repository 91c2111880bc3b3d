import RegionScript.Document.Json

/-!
Settings files: tables of keys, one key or one table heading a line.

Values are texts in double quotes, integers of 64 bits and truth values. A table may be headed once
and a key set once, and nothing is a table and a value at the same time. Comments start with a
number sign and go to the end of the line. A heading has fewer than 80 names.
-/

namespace RegionScript.Document.Toml

inductive Value where
  | text (value : String)
  | integer (value : Int)
  | boolean (value : Bool)
  deriving DecidableEq

/-- The names that lead to a table or a value. -/
abbrev Path := List String

/-- The headed tables and the values of a file, in order. -/
structure File where
  tables : List Path := []
  values : List (Path × Value) := []

/-! ### Lexical parts -/

def isBlank (c : Char) : Bool := c = ' ' || c = '\t'

def skipBlanks (cs : List Char) : List Char := cs.dropWhile isBlank

/-- A character of a name that needs no quotes. -/
def isNameChar (c : Char) : Bool := c.isAlphanum || c = '_' || c = '-'

/-- Whether a character may stand in a text or comment as it is. -/
def isPrintable (c : Char) : Bool := c = '\t' || (0x20 ≤ c.toNat && c.toNat ≠ 0x7f)

/-- Whether nothing but blanks and a comment is left of a line. -/
def isRest (cs : List Char) : Bool :=
  match skipBlanks cs with
  | [] => true
  | '#' :: comment => comment.all isPrintable
  | _ => false

/-- The number that hexadecimal digits stand for. -/
def ofHex? (cs : List Char) : Option Nat :=
  cs.foldlM (fun n c => (Json.hexValue? c).map (16 * n + ·)) 0

/-- The character of a code point. -/
def scalar? (n : Nat) : Option Char := if n.isValidChar then some (Char.ofNat n) else none

/-- Where the reader of a text is: in plain text, behind a backslash, or inside a code point. -/
inductive TextMode where
  | plain
  | escape
  | codePoint (digits : List Char) (left : Nat)
  | closed

/-- The reader of a text: what it holds so far, in reverse. -/
structure TextReader where
  written : List Char := []
  mode : TextMode := .plain

/-- What a one-letter escape stands for. -/
def escaped? (c : Char) : Option Char :=
  match c with
  | 'b' => some '\x08'
  | 't' => some '\t'
  | 'n' => some '\n'
  | 'f' => some '\x0c'
  | 'r' => some '\r'
  | '"' => some '"'
  | '\\' => some '\\'
  | _ => none

/-- Reads one character of a text. -/
def TextReader.step (t : TextReader) (c : Char) : Option TextReader :=
  match t.mode with
  | .plain =>
    if c = '"' then some { t with mode := .closed }
    else if c = '\\' then some { t with mode := .escape }
    else if isPrintable c then some { t with written := c :: t.written }
    else none
  | .escape =>
    if c = 'u' then some { t with mode := .codePoint [] 4 }
    else if c = 'U' then some { t with mode := .codePoint [] 8 }
    else (escaped? c).map fun e => { written := e :: t.written }
  | .codePoint digits left =>
    if left ≤ 1 then do
      let e ← scalar? (← ofHex? (c :: digits).reverse)
      some { written := e :: t.written }
    else some { t with mode := .codePoint (c :: digits) (left - 1) }
  | .closed => none

/-- Reads a text up to its closing quote; also what follows. -/
def takeText (t : TextReader) : List Char → Option (String × List Char)
  | [] => none
  | c :: rest => do
    let t ← t.step c
    match t.mode with
    | .closed => some (String.ofList t.written.reverse, rest)
    | _ => takeText t rest

/-- Reads a name, bare or in quotes; also what follows. -/
def takeName (cs : List Char) : Option (String × List Char) :=
  match cs with
  | '"' :: rest => takeText {} rest
  | cs =>
    let name := cs.takeWhile isNameChar
    if name = [] then none else some (String.ofList name, cs.dropWhile isNameChar)

/-! ### Values -/

/-- The digits of an integer in a base; single underscores may stand between digits. -/
def digits? (base : Nat) (cs : List Char) : Option Nat :=
  let word := String.ofList cs
  let parts := word.splitOn "_"
  if parts.any (·.isEmpty) then none
  else
    (parts.flatMap String.toList).foldlM (fun n c => do
      let d ← Json.hexValue? c
      if d < base then some (base * n + d) else none) 0

/-- A decimal integer without superfluous zeros. -/
def decimal? (cs : List Char) : Option Nat :=
  if cs.head? = some '0' ∧ cs ≠ ['0'] then none else digits? 10 cs

/-- An integer: decimal with an optional sign, or without one in another base. -/
def integer? (cs : List Char) : Option Int :=
  match cs with
  | '0' :: 'x' :: rest => (digits? 16 rest).map Int.ofNat
  | '0' :: 'o' :: rest => (digits? 8 rest).map Int.ofNat
  | '0' :: 'b' :: rest => (digits? 2 rest).map Int.ofNat
  | '+' :: rest => (decimal? rest).map Int.ofNat
  | '-' :: rest => (decimal? rest).map fun n => -(n : Int)
  | cs => (decimal? cs).map Int.ofNat

/-- The value of a bare word. -/
def word? (cs : List Char) : Option Value :=
  if cs = "true".toList then some (.boolean true)
  else if cs = "false".toList then some (.boolean false)
  else do
    let n ← integer? cs
    if -0x8000000000000000 ≤ n ∧ n < 0x8000000000000000 then some (.integer n) else none

/-- Reads a value; also what follows. -/
def takeValue (cs : List Char) : Option (Value × List Char) :=
  match cs with
  | '"' :: rest => (takeText {} rest).map fun (s, rest) => (.text s, rest)
  | cs =>
    let isWordChar (c : Char) : Bool := isNameChar c || c = '+'
    (word? (cs.takeWhile isWordChar)).map fun v => (v, cs.dropWhile isWordChar)

/-! ### Lines -/

/-- What a line says. -/
inductive Line where
  | blank
  | heading (path : Path)
  | value (name : String) (value : Value)

/-- A heading has at most this many names. -/
def headingLimit : Nat := 79

/-- Reads at most `limit` names of a heading up to its closing bracket. -/
def headingPath? : Nat → List Char → Option Path
  | 0, _ => none
  | limit + 1, cs => do
    let (name, rest) ← takeName (skipBlanks cs)
    match skipBlanks rest with
    | '.' :: rest => do some (name :: (← headingPath? limit rest))
    | ']' :: rest => if isRest rest then some [name] else none
    | _ => none

/-- Reads one line. -/
def line? (cs : List Char) : Option Line :=
  if isRest cs then some .blank
  else
    match skipBlanks cs with
    | '[' :: rest => (headingPath? headingLimit rest).map .heading
    | cs => do
      let (name, rest) ← takeName cs
      match skipBlanks rest with
      | '=' :: rest =>
        let (value, rest) ← takeValue (skipBlanks rest)
        if isRest rest then some (.value name value) else none
      | _ => none

/-! ### Files -/

/-- Whether some value lies on the way to a path or at its end. -/
def File.isBlocked (f : File) (path : Path) : Bool := f.values.any fun (p, _) => p.isPrefixOf path

/-- Whether a path is a table, or leads to one. -/
def File.isTable (f : File) (path : Path) : Bool := f.tables.any path.isPrefixOf

/-- The reader of a file: what it holds so far and the table it is in. -/
structure FileReader where
  file : File := {}
  table : Path := []

/-- Reads one line of a file. -/
def FileReader.step (r : FileReader) (cs : List Char) : Option FileReader := do
  match ← line? cs with
  | .blank => some r
  | .heading path =>
    if r.file.tables.contains path || r.file.isBlocked path then none
    else some { file := { r.file with tables := r.file.tables ++ [path] }, table := path }
  | .value name value =>
    let path := r.table ++ [name]
    if r.file.isTable path || r.file.isBlocked path then none
    else some { r with file := { r.file with values := r.file.values ++ [(path, value)] } }

/-- A line without the return character before its end. -/
def unreturned (line : List Char) : List Char :=
  if line.getLast? = some '\r' then line.dropLast else line

/-- The lines of a file. A line ends with a newline, which may follow a return character; what
is behind the last newline is a line too. -/
def lines (contents : String) : List (List Char) :=
  let pieces := (contents.splitOn "\n").map String.toList
  pieces.dropLast.map unreturned ++ pieces.getLast?.toList

/-- A text without the mark that may stand at the beginning of a file. -/
def unmarked (contents : String) : String :=
  match contents.toList with
  | '\ufeff' :: rest => String.ofList rest
  | _ => contents

/-- Reads a settings file. -/
def read? (contents : String) : Option File :=
  ((lines (unmarked contents)).foldlM FileReader.step {}).map (·.file)

namespace File

/-- The value at a path. -/
def value? (f : File) (path : Path) : Option Value := f.values.lookup path

/-- The values directly inside a table, by name. -/
def valuesIn (f : File) (table : Path) : List (String × Value) :=
  f.values.filterMap fun (path, value) =>
    if path.dropLast = table then path.getLast?.map fun name => (name, value) else none

/-- Whether a path is neither a table nor a value. -/
def isAbsent (f : File) (path : Path) : Bool := (f.value? path).isNone && !f.isTable path

end File

end RegionScript.Document.Toml
