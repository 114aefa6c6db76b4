import ArticleMarkdown.Text.Basic
import ArticleMarkdown.Text.Bytes

/-!
# Assets

A record of one file that belongs to a document: where it lies, what it holds, of which type it is,
and when it was created; and the reasons for which there may be none.
-/

namespace ArticleMarkdown.Asset

/-! ## Faults -/

/-- Why an asset is not available. -/
inductive Fault where
  /-- The caller handed over something that can never become an asset. -/
  | invalid (what reason : Text)
  /-- Every attempt to fetch an image failed. -/
  | unreachable (address : Text) (attempts : Nat) (reason : Text)
  /-- A file could not be written. The reason of the file system is told where it is known. -/
  | unwritable (path : Text) (reason : Option Text)
  deriving DecidableEq, Repr

namespace Fault

/-- The address of an image shows nothing. -/
def emptyAddress : Fault :=
  .invalid "image url".toList "empty string".toList

/-- The address of an image holds the image itself. -/
def selfContainedAddress : Fault :=
  .invalid "image url".toList "data: URLs are already self-contained".toList

/-- The markup of a drawing is not an element of that kind. -/
def notDrawing : Fault :=
  .invalid "svg markup".toList "expected an <svg> element".toList

/-- Whether the caller asked for something that can never become an asset. -/
def isContractBreach : Fault → Bool
  | .invalid _ _ => true
  | .unreachable _ _ _ | .unwritable _ _ => false

/-- The text of a fault. -/
def message : Fault → Text
  | .invalid what reason => "Invalid ".toList ++ what ++ ": ".toList ++ reason
  | .unreachable address attempts reason =>
    "Failed to fetch ".toList ++ address ++ " after ".toList ++ Text.ofNat attempts ++
      " attempt(s): ".toList ++ reason
  | .unwritable path reason =>
    "Failed to write asset ".toList ++ path ++
      match reason with
      | some reason => ": ".toList ++ reason
      | none => []

end Fault

/-! ## Entries -/

/-- What an asset file holds. -/
inductive Payload where
  | bytes (body : Bytes)
  | text (markup : Text)
  | pending (address : Text)
  deriving DecidableEq, Repr

/-- The kinds of assets. -/
inductive Kind where
  | image
  | drawing
  deriving DecidableEq, Repr

/-- One asset file. -/
structure Entry where
  /-- The path relative to the document, as the document refers to it. -/
  path : Text
  payload : Payload
  mediaType : Text
  /-- The place in the order of creation. -/
  order : Nat
  kind : Kind
  deriving DecidableEq, Repr

/-- Entries in the order of creation. -/
def Entry.sorted (entries : List Entry) : List Entry :=
  entries.mergeSort fun a b => a.order ≤ b.order

/-- An image that has been fetched. -/
structure FetchedImage where
  body : Bytes
  mediaType : Text
  deriving DecidableEq, Repr

/-- What a fetch gives in the end: an image, or the fault that the fetcher reports. -/
abbrev FetchOutcome := Except Fault FetchedImage

end ArticleMarkdown.Asset

/-! ## Media types -/

namespace ArticleMarkdown.Media

/-- The media type of unknown content. -/
def unknownType : String := "application/octet-stream"

/-- The media type that a file extension in lower case stands for. -/
def typeOfExtension (extension : Text) : String :=
  match String.ofList extension with
  | "png" => "image/png"
  | "jpg" => "image/jpeg"
  | "jpeg" => "image/jpeg"
  | "gif" => "image/gif"
  | "webp" => "image/webp"
  | "svg" => "image/svg+xml"
  | "bmp" => "image/bmp"
  | "ico" => "image/x-icon"
  | "avif" => "image/avif"
  | _ => unknownType

/-- A media type without its parameters, in lower case. -/
def essence (mediaType : Text) : Text :=
  Text.lower (Text.trim (mediaType.takeWhile (· != ';')))

/-- The preferred file extension for the media type of an image. -/
def extensionOfType? (mediaType : Text) : Option String :=
  match String.ofList (essence mediaType) with
  | "image/png" => some "png"
  | "image/jpeg" => some "jpg"
  | "image/jpg" => some "jpg"
  | "image/gif" => some "gif"
  | "image/webp" => some "webp"
  | "image/svg+xml" => some "svg"
  | "image/bmp" => some "bmp"
  | "image/x-icon" => some "ico"
  | "image/vnd.microsoft.icon" => some "ico"
  | "image/avif" => some "avif"
  | _ => none

end ArticleMarkdown.Media
