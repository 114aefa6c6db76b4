import ArticleMarkdown.Text.Basic

/-!
# Settings

What a reader of articles can choose about a conversion. Only the depth of list nesting changes
on the way down a document, and it does so in a derived value.
-/

namespace ArticleMarkdown

/-- The choices for one conversion. -/
structure Settings where
  /-- The directory of assets, relative to the document. -/
  assetDirectory : Text := "assets".toList
  assetPrefix : Text := []
  /-- Whether a table of contents is asked for at its placeholder. -/
  tableOfContents : Bool := true
  localizeAssets : Bool := false
  /-- Whether every image stands in a paragraph of its own. -/
  centerImages : Bool := false
  keepImageSizes : Bool := true
  keepColors : Bool := false
  stripSearchLinks : Bool := true
  /-- The number of lists around the current place. -/
  listDepth : Nat := 0
  deriving DecidableEq, Repr, Inhabited

namespace Settings

/-- The settings for the items of a list. -/
def descend (s : Settings) : Settings :=
  { s with listDepth := s.listDepth + 1 }

/-- The settings with another start of asset file names. -/
def withAssetPrefix (s : Settings) (start : Text) : Settings :=
  { s with assetPrefix := start }

/-- Why a directory of assets is refused. -/
inductive Refusal where
  /-- The name shows nothing. -/
  | blank
  /-- The directory does not depend on the document's place. -/
  | absolute (directory : Text)
  /-- The directory may lie outside the document's folder. -/
  | escaping (directory : Text)
  deriving DecidableEq, Repr

/-- The text of a refusal. -/
def Refusal.message : Refusal → Text
  | .blank => "Asset directory name cannot be empty".toList
  | .absolute directory =>
    "Asset directory '".toList ++ directory ++ "' must be relative".toList
  | .escaping directory =>
    "Asset directory '".toList ++ directory ++ "' must not leave the output folder".toList

/-- The parts of a path between slashes. -/
def pathParts (path : Text) : List Text :=
  Text.splitOn '/' path

/-- Refuses settings whose assets may lie outside the output folder. -/
def validate (s : Settings) : Except Refusal Settings :=
  if Text.isBlank s.assetDirectory then .error .blank
  else if s.assetDirectory.head? == some '/' then .error (.absolute s.assetDirectory)
  else if (pathParts s.assetDirectory).contains ['.', '.'] then
    .error (.escaping s.assetDirectory)
  else .ok s

end Settings
end ArticleMarkdown
