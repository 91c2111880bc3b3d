import RegionScript.CommandLine.Arguments
import RegionScript.Text.Numeral

/-!
What the program says about itself: its version and the help on each command.
-/

namespace RegionScript.CommandLine

open Text

def programName : String := "dbscripts"

def programVersion : String := "0.1.0"

/-- Lines as a text, each one ended. -/
def ofLines (lines : List String) : String := String.join (lines.map (· ++ "\n"))

namespace Subcommand

/-- What a command does. -/
def about : Subcommand → String
  | init => "Write a default configuration and create the script store"
  | importSeed => "Import a JSON seed file into the script store"
  | validate => "Load all script tables against the game catalog and report what would be dropped"
  | status => "Show what the script store holds"
  | help => "Print this message or the help of the given subcommand(s)"

/-- What may follow a command. -/
def usage : Subcommand → String
  | importSeed => "[OPTIONS] <SEED>"
  | help => "[COMMAND]..."
  | _ => "[OPTIONS]"

end Subcommand

namespace Flag

/-- How a flag is written, in a column of its own. -/
def label : Flag → String
  | config => "-c, --config <CONFIG>"
  | verbose => "-v, --verbose..."
  | help => "-h, --help"
  | version => "-V, --version"
  | replace => "    --replace"
  | seed => "    --seed <SEED>"
  | denyRejections => "    --deny-rejections"

/-- What a flag does. -/
def about : Flag → String
  | config =>
    "Configuration file path (can be used before or after subcommand) "
      ++ s!"[default: {usualSettings}]"
  | verbose => "Verbose logging (-v, -vv for more; may appear before or after subcommand)"
  | help => "Print help"
  | version => "Print version"
  | replace => "Clear every table named in the seed before writing its rows"
  | seed => "Validate this seed file instead of the store contents"
  | denyRejections => "Exit with an error when any row is rejected"

def line (f : Flag) : String := "  " ++ leftColumn 23 f.label ++ f.about

end Flag

/-- The flags of a command, or of the program, as they are listed: its own come first. -/
def flagsOf : Option Subcommand → List Flag
  | none => [.config, .verbose, .help, .version]
  | some .importSeed => [.replace, .config, .verbose, .help]
  | some .validate => [.seed, .denyRejections, .config, .verbose, .help]
  | some .help => []
  | some _ => [.config, .verbose, .help]

/-- A titled list, if there is anything in it. -/
def listing (title : String) (lines : List String) : List String :=
  if lines.isEmpty then [] else "" :: title :: lines

/-- The help on a command, or on the program. -/
def helpText (topic : Option Subcommand) : String :=
  let flags := listing "Options:" ((flagsOf topic).map Flag.line)
  match topic with
  | none =>
    ofLines (["Load, validate and inspect data-driven world scripts", "",
        s!"Usage: {programName} [OPTIONS] <COMMAND>"]
      ++ listing "Commands:" (Subcommand.all.map fun c => "  " ++ leftColumn 10 c.word ++ c.about)
      ++ flags)
  | some c =>
    let arguments :=
      match c with
      | .importSeed => ["  <SEED>  Seed file path"]
      | .help => ["  [COMMAND]...  Print help for the subcommand(s)"]
      | _ => []
    ofLines ([c.about, "", s!"Usage: {programName} {c.word} {c.usage}"]
      ++ listing "Arguments:" arguments ++ flags)

def versionText : String := ofLines [s!"{programName} {programVersion}"]

end RegionScript.CommandLine
