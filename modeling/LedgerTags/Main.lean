import LedgerTags.CommandLine.Run

/-!
# The program

The program runs a command line over the files below the current directory and those next to the
files that the words of the line name. It stores what the run has written and ends as the run ends.
-/

namespace LedgerTags.Program

/-- Where the shipped files are. -/
def home : Location := ["usr", "share", "txntag"]

/-- The place that a word leads to from a directory. -/
def placeOf (current : Location) (word : Text) : Location :=
  let start := if Path.isAbsolute word then [] else current
  (Path.names word).foldl
    (fun (p : Location) n => if n = (".." : Text) then p.dropLast else p ++ [n]) start

/-- The path of a place on the disk. -/
def diskPath (p : Location) : String := (FileSystem.absolute p).toString

/-- The tree with the entries of a directory and with all that is below them. What cannot be read is
left out. -/
partial def gather (place : Location) (entries : Array IO.FS.DirEntry) (fs : FileSystem) :
    IO FileSystem :=
  entries.foldlM
    (fun fs e => do
      let here := place ++ [Text.ofString e.fileName]
      if (fs.find? here).isSome then return fs
      try
        if ← e.path.isDir then gather here (← e.path.readDir) (fs.add here .directory)
        else return fs.add here (.file (← IO.FS.readBinFile e.path).toList)
      catch _ => return fs)
    fs

/-- The tree with the directory that a word leads to or whose file it names. -/
def gatherWord (current : Location) (fs : FileSystem) (word : String) : IO FileSystem := do
  let place := placeOf current (Text.ofString word)
  let path := (← IO.currentDir) / word
  try
    if ← path.isDir then gather place (← path.readDir) (fs.add place .directory)
    else
      match path.parent with
      | some directory => gather place.dropLast (← directory.readDir) fs
      | none => return fs
  catch _ => return fs

/-- The files that a run can work with. -/
def gatherAll (words : List String) : IO FileSystem := do
  let directory ← IO.currentDir
  let current := Path.names (Text.ofString directory.toString)
  let empty : FileSystem := { current }
  let fs ← gather current (← directory.readDir) (empty.add current .directory)
  let fs ← (words.filter fun w => !w.startsWith "-").foldlM (gatherWord current) fs
  return Shipped.install home fs

/-- Stores the files of a tree that are not in another one. -/
def store (before after : FileSystem) : IO Unit :=
  after.entries.forM fun (place, entry) => do
    match entry with
    | .file octets =>
      if before.find? place ≠ some entry then
        IO.FS.writeBinFile (diskPath place) ⟨octets.toArray⟩
    | .directory => return ()

/-- Runs the words that the program is given. -/
def run (words : List String) : IO UInt32 := do
  let fs ← gatherAll words
  let (console, ending) := CommandLine.run home fs (words.map Text.ofString)
  console.output.forM fun line => IO.println line.toString
  console.messages.forM fun line => IO.eprintln line.toString
  store fs console.files
  match ending with
  | .exit code => return code.toUInt32
  | .failure e =>
    IO.eprintln ("Error: " ++ e.message.toString)
    return 1

end LedgerTags.Program

/-- Runs the words that the program is given. -/
def main (words : List String) : IO UInt32 := LedgerTags.Program.run words
