import RegionScript.Store.Basic

/-!
What commands do outside of the program: they read and write files and open stores.

The commands are written against `Disk`, so that they run on any collection of files, in memory as
well as on a real disk.
-/

namespace RegionScript

/-- Why a file or folder could not be used. -/
inductive DiskError where
  | notFound
  | occupied
  | notFolder
  | isFolder
  | nameTooLong
  /-- The path holds the character zero. -/
  | unusablePath
  /-- The file holds no text. -/
  | notText
  deriving DecidableEq, Repr

/-- The reason in words. -/
def DiskError.message : DiskError → String
  | notFound => "No such file or directory (os error 2)"
  | occupied => "File exists (os error 17)"
  | notFolder => "Not a directory (os error 20)"
  | isFolder => "Is a directory (os error 21)"
  | nameTooLong => "File name too long (os error 36)"
  | unusablePath => "file name contained an unexpected NUL byte"
  | notText => "stream did not contain valid UTF-8"

/-- Files and stores by their paths. -/
structure Disk (m : Type → Type) where
  readText : String → m (Except DiskError String)
  /-- Writes a file anew. -/
  writeText : String → String → m (Except DiskError Unit)
  /-- Makes a file that is not there yet; tells whether lines can be added to it. -/
  prepareLog : String → m Bool
  /-- Adds lines to a file. -/
  appendLines : String → List String → m Unit
  /-- Makes a folder and those that it is in. -/
  makeFolder : String → m (Except DiskError Unit)
  /-- Opens the store in a folder, which is made if it is not there. -/
  openStore : String → m (Except DiskError (Store Blocks))
  /-- Keeps what an opened store holds now. -/
  saveStore : String → Store Blocks → m Unit

end RegionScript
