import RegionScript.Document.Number
import RegionScript.Document.Written

/-!
Data documents: their values and how they are read.

Reading is two folds. The characters are cut into tokens by a machine that is between tokens, inside
a word or inside a text; the tokens are folded over the stack of containers that are part way
through. A document is exactly one value. Members of an object keep their order and their
repetitions.

Reading asks only for the form. A number too large to hold, a text that is none and any depth of
containers are let through, and it is for those who use a value to refuse them: what nobody uses
may hold all of that.
-/

namespace RegionScript.Document

/-- The key of a member. -/
structure Key where
  /-- The key as a text, unless a half of a pair stands alone in it. -/
  text : Option String
  /-- Whether the key is written without escapes. -/
  plain : Bool

namespace Key

def ofText (s : String) : Key := ⟨some s, true⟩

def ofWritten (written : List Written) : Key :=
  ⟨Written.text? written, written.all Written.isPlain⟩

end Key

/-- A document value. -/
inductive Json where
  | null
  | bool (value : Bool)
  | number (value : Number)
  | text (value : String)
  /-- A text in which a half of a pair stands alone. -/
  | brokenText
  | array (elements : List Json)
  | object (members : List (Key × Json))

namespace Json

def ofWritten (written : List Written) : Json :=
  match Written.text? written with
  | some s => text s
  | none => brokenText

/-! ### Tokens -/

/-- What a document is made of: punctuation, texts, and the other values without parts. -/
inductive Token where
  | openArray
  | closeArray
  | openObject
  | closeObject
  | comma
  | colon
  | text (written : List Written)
  | scalar (value : Json)

/-- Where the tokeniser is. Texts and words are kept in reverse. -/
inductive Mode where
  | between
  | word (letters : List Char)
  | text (written : List Written)
  /-- After a backslash. -/
  | escape (written : List Written)
  /-- Inside the digits of a Unicode escape. -/
  | unicode (written : List Written) (digits : List Nat)

def isBlank (c : Char) : Bool := c = ' ' || c = '\n' || c = '\t' || c = '\r'

/-- Characters of numbers, `true`, `false` and `null`. -/
def isWordChar (c : Char) : Bool := c.isAlphanum || c = '-' || c = '+' || c = '.'

def punctuation? (c : Char) : Option Token :=
  match c with
  | '[' => some .openArray
  | ']' => some .closeArray
  | '\x7b' => some .openObject
  | '\x7d' => some .closeObject
  | ',' => some .comma
  | ':' => some .colon
  | _ => none

/-- The value of a bare word. -/
def word? (word : List Char) : Option Json :=
  if word = "true".toList then some (bool true)
  else if word = "false".toList then some (bool false)
  else if word = "null".toList then some null
  else (Number.ofWord? word).map number

/-- What a one-letter escape stands for. -/
def escaped? (c : Char) : Option Char :=
  match c with
  | '"' => some '"'
  | '\\' => some '\\'
  | '/' => some '/'
  | 'b' => some '\x08'
  | 'f' => some '\x0c'
  | 'n' => some '\n'
  | 'r' => some '\r'
  | 't' => some '\t'
  | _ => none

def hexValue? (c : Char) : Option Nat :=
  if c.isDigit then some (c.toNat - '0'.toNat)
  else if 'a' ≤ c ∧ c ≤ 'f' then some (c.toNat - 'a'.toNat + 10)
  else if 'A' ≤ c ∧ c ≤ 'F' then some (c.toNat - 'A'.toNat + 10)
  else none

/-- The tokeniser: tokens so far, in reverse, and where it is. -/
structure Tokeniser where
  tokens : List Token
  mode : Mode

/-- The step between two tokens. -/
def Tokeniser.start (tokens : List Token) (c : Char) : Option Tokeniser :=
  if isBlank c then some ⟨tokens, .between⟩
  else if c = '"' then some ⟨tokens, .text []⟩
  else if isWordChar c then some ⟨tokens, .word [c]⟩
  else (punctuation? c).map fun t => ⟨t :: tokens, .between⟩

/-- Reads one character. -/
def Tokeniser.step (t : Tokeniser) (c : Char) : Option Tokeniser :=
  match t.mode with
  | .between => start t.tokens c
  | .word letters =>
    if isWordChar c then some { t with mode := .word (c :: letters) }
    else do start (.scalar (← word? letters.reverse) :: t.tokens) c
  | .text written =>
    if c = '"' then some ⟨.text written.reverse :: t.tokens, .between⟩
    else if c = '\\' then some { t with mode := .escape written }
    else if c.toNat < 0x20 then none
    else some { t with mode := .text (.plain c :: written) }
  | .escape written =>
    if c = 'u' then some { t with mode := .unicode written [] }
    else (escaped? c).map fun e => { t with mode := .text (.escape e.toNat :: written) }
  | .unicode written digits => do
    let d ← hexValue? c
    match digits with
    | [d2, d1, d0] =>
      let unit := ((d0 * 16 + d1) * 16 + d2) * 16 + d
      some { t with mode := .text (.escape unit :: written) }
    | ds => some { t with mode := .unicode written (d :: ds) }

/-- The tokens of a text. -/
def tokens? (s : String) : Option (List Token) := do
  let t ← s.toList.foldlM Tokeniser.step ⟨[], .between⟩
  match t.mode with
  | .between => some t.tokens.reverse
  | .word letters => do some (.scalar (← word? letters.reverse) :: t.tokens).reverse
  | _ => none

/-! ### Values -/

/-- A container part way through, with what it holds so far in reverse; an object also knows the
key of the member it waits for. -/
inductive Frame where
  | array (done : List Json)
  | object (done : List (Key × Json)) (key : Key)

/-- What may come next. -/
inductive Expected where
  | value
  | valueOrClose
  | key
  | keyOrClose
  | colon
  | commaOrClose
  | nothing (document : Json)

/-- The reader of values: open containers, innermost first, and what may come next. -/
structure Reader where
  frames : List Frame
  next : Expected

/-- Hands a finished value to the innermost container. -/
def Reader.deliver (v : Json) : List Frame → Reader
  | [] => ⟨[], .nothing v⟩
  | .array done :: k => ⟨.array (v :: done) :: k, .commaOrClose⟩
  | .object done key :: k => ⟨.object ((key, v) :: done) key :: k, .commaOrClose⟩

/-- A token where a value is due. -/
def Reader.value (frames : List Frame) : Token → Option Reader
  | .text written => some (deliver (ofWritten written) frames)
  | .scalar v => some (deliver v frames)
  | .openArray => some ⟨.array [] :: frames, .valueOrClose⟩
  | .openObject => some ⟨.object [] (.ofText "") :: frames, .keyOrClose⟩
  | _ => none

/-- The end of the innermost container. -/
def Reader.close (t : Token) : List Frame → Option Reader
  | .array done :: k =>
    match t with
    | .closeArray => some (deliver (.array done.reverse) k)
    | _ => none
  | .object done _ :: k =>
    match t with
    | .closeObject => some (deliver (.object done.reverse) k)
    | _ => none
  | [] => none

/-- The key of the next member. -/
def Reader.key (frames : List Frame) (t : Token) : Option Reader :=
  match frames, t with
  | .object done _ :: k, .text written => some ⟨.object done (.ofWritten written) :: k, .colon⟩
  | _, _ => none

/-- Reads one token. -/
def Reader.step (r : Reader) (t : Token) : Option Reader :=
  match r.next with
  | .value => value r.frames t
  | .valueOrClose => (close t r.frames).or (value r.frames t)
  | .key => key r.frames t
  | .keyOrClose => (close t r.frames).or (key r.frames t)
  | .colon => match t with
    | .colon => some { r with next := .value }
    | _ => none
  | .commaOrClose => match t, r.frames with
    | .comma, .array _ :: _ => some { r with next := .value }
    | .comma, .object .. :: _ => some { r with next := .key }
    | t, frames => close t frames
  | .nothing _ => none

/-- The document that a text holds, if it is well formed. -/
def read? (s : String) : Option Json := do
  let r ← (← tokens? s).foldlM Reader.step ⟨[], .value⟩
  match r.next with
  | .nothing v => some v
  | _ => none

/-! ### Values used as a whole -/

/-- Deepest nesting of containers in what is used. -/
def depthLimit : Nat := 127

mutual

/-- Whether all of a value can be used: its numbers can be held, its texts and keys are texts, and
its containers are nested to no more than a limit. -/
def isSound (limit : Nat) : Json → Bool
  | number (.real none) => false
  | brokenText => false
  | array vs => 0 < limit && allSound (limit - 1) vs
  | object ms => 0 < limit && membersSound (limit - 1) ms
  | _ => true

def allSound (limit : Nat) : List Json → Bool
  | [] => true
  | v :: rest => isSound limit v && allSound limit rest

def membersSound (limit : Nat) : List (Key × Json) → Bool
  | [] => true
  | (k, v) :: rest => k.text.isSome && isSound limit v && membersSound limit rest

end

end Json

end RegionScript.Document
