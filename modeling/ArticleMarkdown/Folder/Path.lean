import ArticleMarkdown.Text.Bytes

/-!
# Paths

Paths within a folder, as texts with a slash between their parts. Empty parts and parts of one dot
lead nowhere; two dots lead to the folder above.
-/

namespace ArticleMarkdown.Path

/-- The name of the same folder. -/
def here : Text := ['.']

/-- The name of the folder above. -/
def above : Text := ['.', '.']

/-- Whether a part of a path leads nowhere. -/
def isIdle (part : Text) : Bool :=
  part.isEmpty || part == here

/-- All parts of a path, idle ones too. -/
def rawParts (path : Text) : List Text :=
  Text.splitOn '/' path

/-- The parts of a path that lead somewhere. A slash at the start is a part of its own, which leads
to the outermost folder. -/
def parts (path : Text) : List Text :=
  let parts := (rawParts path).filter fun part => !isIdle part
  if path.head? == some '/' then ['/'] :: parts else parts

/-- A path without idle parts at its start and end. -/
def tidy (path : Text) : Text :=
  Text.join ['/'] ((((rawParts path).dropWhile isIdle).reverse.dropWhile isIdle).reverse)

/-- The path of the folder that holds what a path leads to. -/
def parent (path : Text) : Text :=
  let inner := (((rawParts path).reverse.dropWhile isIdle).drop 1).dropWhile isIdle
  Text.join ['/'] inner.reverse

/-- A path within a folder. A path that starts at the outermost folder stays as it is. -/
def join (folder path : Text) : Text :=
  if path.head? == some '/' then path
  else if folder.isEmpty || folder.getLast? == some '/' then folder ++ path
  else folder ++ '/' :: path

/-- Whether a path can only lead to a folder. -/
def isOfFolder (path : Text) : Bool :=
  match (rawParts path).getLast? with
  | some last => isIdle last || last == above
  | none => true

/-- The name that a path ends in, if it ends in one. -/
def name? (path : Text) : Option Text :=
  (parts path).getLast?.filter fun last => last ≠ above && last ≠ ['/']

/-- A name without its extension. A dot at the start begins no extension. -/
def stem (name : Text) : Text :=
  match Text.splitLast? '.' name with
  | some (before, _) => if before.isEmpty then name else before
  | none => name

/-- The greatest length of a name, in bytes. -/
def maxNameLength : Nat := 255

/-- Whether a file or folder can have a name. -/
def isName (part : Text) : Bool :=
  !part.contains '\x00' && Text.utf8Length part ≤ maxNameLength

end ArticleMarkdown.Path
