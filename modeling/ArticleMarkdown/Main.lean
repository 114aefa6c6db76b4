import ArticleMarkdown.Cli.Run

/-!
# The program

The program reads the files that its arguments name, runs the command on them, and writes the files
that have changed. There is no network: images of the web are only converted offline.
-/

namespace ArticleMarkdown.Main

open Cli

/-- The bytes of a body. -/
def toByteArray (body : Bytes) : ByteArray :=
  ⟨body.toArray⟩

/-- The files that arguments name. -/
def namedFiles (arguments : List Text) : List Text :=
  match Invocation.read arguments with
  | .convert options => options.config.toList ++ options.inputs
  | .showHelp | .showVersion | .misuse => []

/-- Reads the files that exist of a list. -/
def load (paths : List Text) : IO Folder := do
  let mut files := []
  for path in paths do
    match ← (IO.FS.readBinFile (String.ofList path)).toBaseIO with
    | .ok body => files := files ++ [(path, body.toList)]
    | .error _ => pure ()
  return Folder.ofFiles files

/-- Writes a file and makes its folder. -/
def store (path : Text) (body : Bytes) : IO Unit := do
  let parent := Path.parent path
  if !parent.isEmpty then IO.FS.createDirAll (String.ofList parent)
  IO.FS.writeBinFile (String.ofList path) (toByteArray body)

/-- Writes the files that a run has changed. -/
def storeChanges (before after : Folder) : IO Unit := do
  for (location, body) in after.files.reverse do
    if before.file? location ≠ some body then store location.path body

/-- The answer where there is no network. -/
def noNetwork : Asset.Fetcher :=
  fun address => ⟨0, .error (.unreachable address 1 "no network".toList)⟩

end ArticleMarkdown.Main

/-- Runs the command with the arguments of the program. -/
def main (arguments : List String) : IO UInt32 := do
  let arguments := arguments.map String.toList
  let before ← ArticleMarkdown.Main.load (ArticleMarkdown.Main.namedFiles arguments)
  let report := ArticleMarkdown.Cli.run ArticleMarkdown.Main.noNetwork before arguments
  ArticleMarkdown.Main.storeChanges before report.folder
  match report.complaint with
  | some complaint =>
    IO.eprintln (String.ofList (ArticleMarkdown.Cli.complaintText complaint))
  | none => pure ()
  IO.print (String.ofList report.output)
  return UInt32.ofNat report.code
