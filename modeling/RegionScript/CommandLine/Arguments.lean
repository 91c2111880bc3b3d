/-!
The arguments of the command line.

Arguments are read from left to right by a machine that knows the command it is in, the option that
was read last, and whether a double dash has made everything behind it plain. Asking for help or for
the version ends the reading at once, and so does anything that is out of place. The options that
every command knows may be given before the command and behind it; what is given behind it counts.

An option counts only when the next flag or place of the same command is read, or when nothing
follows. A settings path right before the command therefore counts after the command, whose own
request for help comes before the complaint about a path that is given twice.
-/

namespace RegionScript.CommandLine

/-- The words that a command line is about. -/
inductive Subcommand where
  | init
  | importSeed
  | validate
  | status
  | help
  deriving DecidableEq, Repr

namespace Subcommand

def all : List Subcommand := [init, importSeed, validate, status, help]

def word : Subcommand → String
  | init => "init"
  | importSeed => "import"
  | validate => "validate"
  | status => "status"
  | help => "help"

def ofWord? (s : String) : Option Subcommand := all.find? (·.word = s)

end Subcommand

/-- What is to be done. -/
inductive Task where
  | init
  | importSeed (path : String) (replacing : Bool)
  | validate (seed : Option String) (denyRejections : Bool)
  | status
  deriving DecidableEq

inductive Flag where
  | config
  | verbose
  | help
  | version
  | replace
  | seed
  | denyRejections
  deriving DecidableEq, Repr

namespace Flag

def takesValue : Flag → Bool
  | config | seed => true
  | _ => false

/-- Whether a flag may stand behind a command, or before every command. -/
def isKnownTo (f : Flag) (command : Option Subcommand) : Bool :=
  match f with
  | config | verbose | help => true
  | version => command = none
  | replace => command = some .importSeed
  | seed | denyRejections => command = some .validate

def ofWord? (s : String) : Option Flag :=
  match s with
  | "config" => some config
  | "verbose" => some verbose
  | "help" => some help
  | "version" => some version
  | "replace" => some replace
  | "seed" => some seed
  | "deny-rejections" => some denyRejections
  | _ => none

def ofLetter? (c : Char) : Option Flag :=
  match c with
  | 'c' => some config
  | 'v' => some verbose
  | 'h' => some help
  | 'V' => some version
  | _ => none

/-- How a flag is named in messages. -/
def display : Flag → String
  | config => "--config <CONFIG>"
  | verbose => "--verbose..."
  | help => "--help"
  | version => "--version"
  | replace => "--replace"
  | seed => "--seed <SEED>"
  | denyRejections => "--deny-rejections"

end Flag

/-- What is wrong with a command line. -/
inductive Misuse where
  | unknownArgument (written : String)
  | unknownCommand (word : String)
  | surplusValue (flag : Flag) (value : String)
  | missingValue (flag : Flag)
  | repeated (flag : Flag)
  | missingSeed
  | missingCommand
  deriving DecidableEq

def Misuse.message : Misuse → String
  | unknownArgument written => s!"unexpected argument '{written}' found"
  | unknownCommand word => s!"unrecognized subcommand '{word}'"
  | surplusValue f value =>
    s!"unexpected value '{value}' for '{f.display}' found; no more were expected"
  | missingValue f => s!"a value is required for '{f.display}' but none was supplied"
  | repeated f => s!"the argument '{f.display}' cannot be used multiple times"
  | missingSeed => "a seed file is required"
  | missingCommand => "a subcommand is required"

/-- What a command line asks for. -/
inductive Request where
  | run (settings : String) (verbosity : Nat) (task : Task)
  /-- Help about a command, or about the program. -/
  | help (topic : Option Subcommand)
  | version
  | misuse (fault : Misuse)
  deriving DecidableEq

/-- The options that every command knows. -/
structure CommonOptions where
  config : Option String := none
  verbosity : Nat := 0

/-- An option before its value, and the value once it is read. -/
structure PendingOption where
  flag : Flag
  value : Option String := none

/-- What has been read of a command line. -/
structure Line where
  command : Option Subcommand := none
  /-- The options before the command. -/
  outer : CommonOptions := {}
  /-- The settings path right before the command, which counts when nothing follows. -/
  held : Option String := none
  /-- The options behind the command. -/
  inner : CommonOptions := {}
  /-- The seed, by place or by option. -/
  seed : Option String := none
  replacing : Bool := false
  denyRejections : Bool := false
  topic : Option Subcommand := none
  /-- The option read last, as long as it does not count. -/
  pending : Option PendingOption := none
  /-- Whether a double dash has been read. -/
  literal : Bool := false

/-- The line so far, or what the reading ended with. -/
abbrev Scanned := Except Request Line

namespace Line

/-- A line that is at fault. -/
def wrong {α : Type} (fault : Misuse) : Except Request α := .error (.misuse fault)

/-- Puts the value of an option where there is none yet. -/
def once (f : Flag) (now : Option String) (value : String) : Except Request (Option String) :=
  if now.isSome then wrong (.repeated f) else .ok (some value)

/-- Raises a flag that is not raised yet. -/
def raise (f : Flag) (now : Bool) : Except Request Bool :=
  if now then wrong (.repeated f) else .ok true

/-- The common options on the side of the command that is being read. -/
def common (l : Line) : CommonOptions := if l.command.isSome then l.inner else l.outer

def withCommon (l : Line) (o : CommonOptions) : Line :=
  if l.command.isSome then { l with inner := o } else { l with outer := o }

/-- A flag without value. -/
def setFlag (l : Line) (f : Flag) : Scanned :=
  match f with
  | .verbose => .ok (l.withCommon { l.common with verbosity := l.common.verbosity + 1 })
  | .help => .error (.help l.command)
  | .version => .error .version
  | .replace => (raise f l.replacing).map fun replacing => { l with replacing }
  | .denyRejections =>
    (raise f l.denyRejections).map fun denyRejections => { l with denyRejections }
  | .config | .seed => wrong (.missingValue f)

/-- A flag with its value. -/
def setValue (l : Line) (f : Flag) (value : String) : Scanned :=
  match f with
  | .config =>
    (once f l.common.config value).map fun config => l.withCommon { l.common with config }
  | .seed => (once f l.seed value).map fun seed => { l with seed }
  | _ => wrong (.surplusValue f value)

/-- Has the option read last count. -/
def settle (l : Line) : Scanned :=
  match l.pending with
  | none => .ok l
  | some ⟨f, none⟩ => wrong (.missingValue f)
  | some ⟨f, some value⟩ => { l with pending := none }.setValue f value

/-- A flag as it is written, whose value may be attached to it. -/
def flag (l : Line) (written : String) (f : Option Flag) (attached : Option String) : Scanned :=
  match f.filter (·.isKnownTo l.command), attached with
  | none, _ => wrong (.unknownArgument written)
  | some f, some value =>
    if f.takesValue then do (← l.settle).setValue f value else wrong (.surplusValue f value)
  | some f, none => do
    let l ← l.settle
    if f.takesValue then .ok { l with pending := some ⟨f, none⟩ } else l.setFlag f

/-- A word behind two dashes, with its value behind an equals sign. -/
def long (l : Line) (word : List Char) : Scanned :=
  let name := String.ofList (word.takeWhile (· ≠ '='))
  let attached :=
    match word.dropWhile (· ≠ '=') with
    | [] => none
    | _ :: value => some (String.ofList value)
  l.flag s!"--{name}" (Flag.ofWord? name) attached

/-- What is attached to a letter, behind an equals sign or without one. -/
def attachedValue? : List Char → Option String
  | [] => none
  | '=' :: value => some (String.ofList value)
  | value => some (String.ofList value)

/-- Letters behind one dash; what is behind the letter of an option is its value. -/
def short (l : Line) : List Char → Scanned
  | [] => .ok l
  | c :: rest =>
    let f := Flag.ofLetter? c
    if (f.map (·.takesValue)).getD false then l.flag s!"-{c}" f (attachedValue? rest)
    else do (← l.flag s!"-{c}" f none).short rest

/-- The name of a command; an option right before it is put aside. -/
def name (l : Line) (word : String) : Scanned :=
  match Subcommand.ofWord? word with
  | some c => .ok { l with command := some c, held := l.pending.bind (·.value), pending := none }
  | none => wrong (.unknownCommand word)

/-- The command that help is asked about. -/
def topicNamed (l : Line) (word : String) : Scanned :=
  match l.topic, Subcommand.ofWord? word with
  | none, some c => .ok { l with topic := some c }
  | _, _ => wrong (.unknownCommand word)

/-- An argument that is no flag. -/
def plain (l : Line) (word : String) : Scanned :=
  match l.command, l.seed with
  | none, _ => if l.literal then wrong (.unknownCommand word) else l.name word
  | some .importSeed, none => return { ← l.settle with seed := some word }
  | some _, _ => wrong (.unknownArgument word)

/-- An argument that may begin with dashes. -/
def dashed (l : Line) (word : String) : Scanned :=
  match word.toList with
  | ['-', '-'] => .ok { l with literal := true }
  | '-' :: '-' :: rest => l.long rest
  | ['-'] => l.plain word
  | '-' :: rest => l.short rest
  | _ => l.plain word

/-- Whether an argument is taken for a flag. -/
def looksLikeFlag (word : String) : Bool :=
  match word.toList with
  | ['-'] => false
  | '-' :: _ => true
  | _ => false

/-- Reads one argument. -/
def step (l : Line) (word : String) : Scanned :=
  if l.command = some .help then l.topicNamed word
  else if l.literal then l.plain word
  else
    match l.pending, looksLikeFlag word with
    | some ⟨f, none⟩, false => .ok { l with pending := some ⟨f, some word⟩ }
    | _, _ => l.dashed word

/-- The task of a line, if nothing is missing. -/
def task (l : Line) : Except Request Task :=
  match l.command, l.seed with
  | some .init, _ => .ok .init
  | some .importSeed, some path => .ok (.importSeed path l.replacing)
  | some .importSeed, none => wrong .missingSeed
  | some .validate, seed => .ok (.validate seed l.denyRejections)
  | some .status, _ => .ok .status
  | some .help, _ | none, _ => wrong .missingCommand

/-- Has the settings path count that was put aside. -/
def settleHeld (l : Line) : Scanned :=
  match l.held with
  | none => .ok l
  | some value =>
    (once .config l.outer.config value).map fun config =>
      { l with outer := { l.outer with config } }

/-- The common options that count. -/
def effective (l : Line) : CommonOptions where
  config := l.inner.config.or l.outer.config
  verbosity := if 0 < l.inner.verbosity then l.inner.verbosity else l.outer.verbosity

/-- The run that a line asks for when nothing follows. -/
def run (l : Line) (usualSettings : String) : Except Request Request := do
  let l ← l.settle
  let task ← l.task
  let options := (← l.settleHeld).effective
  return .run (options.config.getD usualSettings) options.verbosity task

/-- What a line asks for when nothing follows. -/
def finish (l : Line) (usualSettings : String) : Request :=
  if l.command = some .help then .help l.topic
  else
    match l.run usualSettings with
    | .ok r | .error r => r

end Line

/-- The settings file that is used unless another is named. -/
def usualSettings : String := "dbscripts.toml"

/-- What a list of arguments asks for. -/
def Request.ofArguments (arguments : List String) : Request :=
  match arguments.foldlM Line.step {} with
  | .ok l => l.finish usualSettings
  | .error r => r

end RegionScript.CommandLine
