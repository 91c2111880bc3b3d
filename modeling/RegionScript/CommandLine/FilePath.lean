/-!
Paths as they are written: names with slashes between them.

A path starts at the root or at the working folder. One dot names the folder it stands in and two
dots the folder around it, so that a path is followed name by name and not shortened beforehand.
-/

namespace RegionScript

structure FilePath where
  /-- Whether the path starts at the root. -/
  absolute : Bool
  names : List String
  /-- Whether the path ends with a slash, so that it can only be that of a folder. -/
  closed : Bool := false
  deriving DecidableEq

namespace FilePath

def ofText (s : String) : FilePath where
  absolute := s.startsWith "/"
  names := (s.splitOn "/").filter (· ≠ "")
  closed := s.endsWith "/"

/-- Whether a path has no name, not even that of the root. -/
def isEmpty (p : FilePath) : Bool := !p.absolute && p.names.isEmpty

/-- The names without the dots that lead nowhere; one at the beginning stays. -/
def significantNames (p : FilePath) : List String :=
  match p.absolute, p.names with
  | false, "." :: rest => "." :: rest.filter (· ≠ ".")
  | _, names => names.filter (· ≠ ".")

/-- The path to what a path is in. -/
def parent? (p : FilePath) : Option FilePath :=
  match p.significantNames with
  | [] => none
  | names => some { absolute := p.absolute, names := names.dropLast }

end FilePath

end RegionScript
