import ArticleMarkdown.Folder.Path

/-!
# Folders

A folder with all that lies below it: which files there are and what they hold, and which folders.
Reading and writing go by paths from the folder. What lies outside of it can be written but is not
part of it.
-/

namespace ArticleMarkdown

/-- The names on the way from a folder to something below it. Parts that lead above the folder stand
at the start. -/
abbrev Location := List Text

namespace Location

/-- Where a part of a path leads from a location. -/
def step (location : Location) (part : Text) : Location :=
  if part == ['/'] then [part]
  else if part == Path.above then
    match location.getLast? with
    | none => [part]
    | some last =>
      if last == Path.above then location ++ [part]
      else if last == ['/'] then location
      else location.dropLast
  else location ++ [part]

/-- Whether a location lies outside for certain, where every folder exists. -/
def isOutside (location : Location) : Bool :=
  location.all fun part => part == Path.above || part == ['/']

/-- Whether a location is in the folder that locations start from. -/
def isInside (location : Location) : Bool :=
  !location.any fun part => part == Path.above || part == ['/']

/-- The path of a location. -/
def path (location : Location) : Text :=
  Text.join ['/'] location

end Location

/-- Files and folders below a folder. -/
structure Folder where
  files : List (Location × Bytes) := []
  folders : List Location := []
  deriving DecidableEq, Repr, Inhabited

namespace Folder

/-- Whether there is a folder at a location. -/
def hasFolder (f : Folder) (location : Location) : Bool :=
  location.isOutside || f.folders.contains location

/-- What the file at a location holds. -/
def file? (f : Folder) (location : Location) : Option Bytes :=
  f.files.lookup location

/-- Follows parts of a path through folders. -/
def follow? (f : Folder) (location : Location) : List Text → Option Location
  | [] => some location
  | part :: rest =>
    let next := location.step part
    if f.hasFolder next then f.follow? next rest else none

/-- Follows parts of a path through folders and makes those that are missing. -/
def makeFrom? (f : Folder) (location : Location) : List Text → Option Folder
  | [] => some f
  | part :: rest =>
    let next := location.step part
    if f.hasFolder next then f.makeFrom? next rest
    else if (f.file? next).isSome || !Path.isName part then none
    else { f with folders := next :: f.folders }.makeFrom? next rest

/-- Makes the folder at a path, and those on the way to it. It fails where a file is in the way or a
name is not possible. -/
def make? (f : Folder) (path : Text) : Option Folder :=
  f.makeFrom? [] (Path.parts path)

/-- The location of a file, from a path through folders. -/
def fileLocation? (f : Folder) (path : Text) : Option Location :=
  if Path.isOfFolder path then none
  else
    let parts := Path.parts path
    (f.follow? [] parts.dropLast).bind fun location =>
      parts.getLast?.map fun name => location.step name

/-- What the file at a path holds. -/
def read? (f : Folder) (path : Text) : Option Bytes :=
  (f.fileLocation? path).bind f.file?

/-- Sets what the file at a location holds. -/
def set (f : Folder) (location : Location) (body : Bytes) : Folder :=
  { f with files := (location, body) :: f.files.filter (·.1 ≠ location) }

/-- Writes the file at a path. Its folder must exist. -/
def write? (f : Folder) (path : Text) (body : Bytes) : Option Folder :=
  (f.fileLocation? path).bind fun location =>
    if f.hasFolder location || !location.getLast?.all Path.isName then none
    else some (f.set location body)

/-- Writes the file at a path and makes the folders on the way to it. A failure tells the path that
could not be made or written. -/
def place (f : Folder) (path : Text) (body : Bytes) : Except Text Folder :=
  match f.make? (Path.parent path) with
  | none => .error (Path.parent path)
  | some made =>
    match made.write? path body with
    | none => .error path
    | some written => .ok written

/-- A folder that holds given files. -/
def ofFiles (files : List (Text × Bytes)) : Folder :=
  files.foldl (fun f (path, body) => (f.place path body).toOption.getD f) {}

/-- All files with their paths, in the order of their paths. -/
def listing (f : Folder) : List (Text × Bytes) :=
  let inside := f.files.filter fun (location, _) => location.isInside
  (inside.map fun (location, body) => (location.path, body)).mergeSort fun a b =>
    Text.isAtMost a.1 b.1

end Folder
end ArticleMarkdown
