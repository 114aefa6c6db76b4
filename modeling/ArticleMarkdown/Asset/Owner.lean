import ArticleMarkdown.Text.Basic
import ArticleMarkdown.Text.Bytes

/-!
# Owners and their file names

Documents that share a store of assets do not share names: each owner, which is a file name prefix
and a directory, counts its own files and remembers its own images and drawings. A proposed name
becomes a name that is safe as one component of a path: no separators, reserved or control
characters, no whitespace, at most 255 bytes, and never empty or dots only.
-/

/-! ## File names -/

namespace ArticleMarkdown.FileName

/-- A character that some file system reserves. -/
def isReserved (c : Char) : Bool :=
  "/?<>\\:*|\"".toList.contains c

/-- A control character. -/
def isControl (c : Char) : Bool :=
  c.toNat ≤ 0x1F || (0x80 ≤ c.toNat && c.toNat ≤ 0x9F)

/-- The largest length of a name in bytes. -/
def maxLength : Nat := 255

/-- A name of dots only names a directory and is dropped. -/
def dropDots (name : Text) : Text :=
  if name.all (· == '.') then [] else name

/-- The name without characters that a path component cannot hold, cut to the largest length. -/
def component (name : Text) : Text :=
  Text.takeUtf8 maxLength (dropDots (name.filter fun c => !isReserved c && !isControl c))

/-- The file name made from a proposed name. -/
def ofText (name : Text) : Text :=
  let cleaned := (component (Text.stripInvisible (Text.trim name))).map fun c =>
    if Text.isSpace c then '_' else c
  if cleaned.isEmpty then "untitled".toList else cleaned

end ArticleMarkdown.FileName

/-! ## Owners -/

namespace ArticleMarkdown.Asset

/-- Whose asset it is. -/
structure Owner where
  namePrefix : Text
  /-- The directory of the owner's files, without slashes at its end. -/
  directory : Text
  deriving DecidableEq, Repr

/-- The owner with a prefix and a directory; slashes at the directory's end do not count. -/
def Owner.of (namePrefix directory : Text) : Owner :=
  ⟨namePrefix, Text.dropEndWhile (· == '/') directory⟩

/-- Paths by the key of what they hold. -/
abbrev PathTable := List (Text × Text)

/-- The table with a path for a key, in place of any other path for it. -/
def PathTable.insert (table : PathTable) (key path : Text) : PathTable :=
  (key, path) :: table.filter (·.1 != key)

/-- The table without a path for a key. -/
def PathTable.erase (table : PathTable) (key : Text) : PathTable :=
  table.filter (·.1 != key)

/-- What an owner has named so far. -/
structure Scope where
  lastNumber : Nat := 0
  /-- Paths of images by canonical address. -/
  images : PathTable := []
  /-- Paths of drawings by digest. -/
  drawings : PathTable := []
  deriving DecidableEq, Repr, Inhabited

namespace Scope

/-- The path of the image at a canonical address. -/
def imagePath? (s : Scope) (canonical : Text) : Option Text :=
  s.images.lookup canonical

/-- The path of the drawing with a digest. -/
def drawingPath? (s : Scope) (digest : Text) : Option Text :=
  s.drawings.lookup digest

/-- Gives out the next file number. -/
def nextNumber (s : Scope) : Scope × Nat :=
  ({ s with lastNumber := s.lastNumber + 1 }, s.lastNumber + 1)

/-- Remembers the path of an image. -/
def rememberImage (s : Scope) (canonical path : Text) : Scope :=
  { s with images := s.images.insert canonical path }

/-- Remembers the path of a drawing. -/
def rememberDrawing (s : Scope) (digest path : Text) : Scope :=
  { s with drawings := s.drawings.insert digest path }

/-- Forgets the path of an image that could not be fetched. -/
def forgetImage (s : Scope) (canonical : Text) : Scope :=
  { s with images := s.images.erase canonical }

end Scope
end ArticleMarkdown.Asset
