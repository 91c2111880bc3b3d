import RegionScript.CommandLine.Run
import RegionScript.Store.Image
import Std.Time.Format

/-!
The program on a real disk. A store is one file in the folder of the store, and every line of the
log begins with the time at which it was added.
-/

namespace RegionScript

/-- What went wrong on the disk, as far as commands tell it apart. -/
def DiskError.ofError (e : IO.Error) : DiskError :=
  match e with
  | .inappropriateType .. => .isFolder
  | .alreadyExists .. => .occupied
  | .userError _ => .notText
  | _ => .notFound

/-- An action on the disk with its failure as a value. -/
def onDisk {α : Type} (action : IO α) : IO (Except DiskError α) := do
  match ← action.toBaseIO with
  | .ok a => return .ok a
  | .error e => return .error (.ofError e)

/-- The file that holds a store. -/
def storeFile (folder : String) : String := joinPath folder "db"

def writeStore (folder : String) (s : Store Blocks) : IO Unit :=
  IO.FS.writeBinFile (storeFile folder) ⟨s.toBytes.toArray⟩

/-- A store from its folder; where there is none yet, an empty one is made. -/
def readStore (folder : String) : IO (Store Blocks) := do
  IO.FS.createDirAll folder
  match ← (IO.FS.readBinFile (storeFile folder)).toBaseIO with
  | .ok contents => return (Store.ofBytes? contents.data.toList).getD ∅
  | .error _ =>
    writeStore folder ∅
    return ∅

/-- Whether a file is there or can be made, so that lines can be added to it. -/
def canAppendTo (path : String) : IO Bool := do
  return (← (IO.FS.Handle.mk path .append).toBaseIO).toBool

/-- The time in UTC. -/
def timestamp : IO String := do
  let now ← Std.Time.Timestamp.now
  return (Std.Time.DateTime.ofTimestamp now .UTC).format "uuuu-MM-dd'T'HH:mm:ss'Z'"

/-- Adds lines to a file, if it can be opened. -/
def appendTo (path : String) (lines : List String) : IO Unit := do
  match ← (IO.FS.Handle.mk path .append).toBaseIO with
  | .ok handle => for line in lines do handle.putStrLn s!"{← timestamp} {line}"
  | .error _ => return

def realDisk : Disk IO where
  readText path := onDisk (IO.FS.readFile path)
  writeText path contents := onDisk (IO.FS.writeFile path contents)
  prepareLog := canAppendTo
  appendLines := appendTo
  makeFolder path := onDisk (IO.FS.createDirAll path)
  openStore folder := onDisk (readStore folder)
  saveStore := writeStore

end RegionScript

open RegionScript in
def main (arguments : List String) : IO UInt32 := do
  let exit ← CommandLine.perform realDisk arguments
  IO.print exit.output
  for line in exit.log do IO.eprintln s!"{← timestamp} {line}"
  IO.eprint exit.error
  return exit.code
