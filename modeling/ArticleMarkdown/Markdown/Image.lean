import ArticleMarkdown.Document.Node
import ArticleMarkdown.Document.Markup
import ArticleMarkdown.Markdown.Draft
import ArticleMarkdown.Markdown.Link
import ArticleMarkdown.Settings.Basic
import ArticleMarkdown.Text.Numeral

/-!
# Images

An image becomes a Markdown image, or raw markup when its size is to be kept. An image that shows
a formula becomes the formula. Images of asset documents are replaced by their files.
-/

namespace ArticleMarkdown.Image

/-- Digits, and if a point and digits follow, those too; with the rest. -/
def spanNumber (t : Text) : Text × Text :=
  let whole := t.takeWhile Text.isDecimalDigit
  let rest := t.dropWhile Text.isDecimalDigit
  match rest with
  | '.' :: more =>
    let fraction := more.takeWhile Text.isDecimalDigit
    if fraction.isEmpty then (whole, rest)
    else (whole ++ '.' :: fraction, more.dropWhile Text.isDecimalDigit)
  | _ => (whole, rest)

/-- A letter or the percent sign, of which units are made. -/
def isUnitChar (c : Char) : Bool :=
  Text.isAsciiLetter c || c == '%'

/-- The style length of a dimension, in pixels when no unit is given. -/
def cssLength? (raw : Text) : Option Text :=
  let (number, rest) := spanNumber (Text.trim raw)
  let unit := Text.trimStart rest
  if number.isEmpty || !unit.all isUnitChar then none
  else some (number ++ if unit.isEmpty then "px".toList else Text.lower unit)

/-- A declaration of a length, if there is one. -/
def sizeStyle (property : String) (length : Option Text) : Text :=
  match length with
  | none => []
  | some length => property.toList ++ ':' :: length ++ [';']

/-- Raw markup of an image with the given bounds. -/
def sizedTag (address alt : Text) (width height : Option Text) : Text :=
  "<img src=\"".toList ++ Markup.encodeValue address ++ "\" alt=\"".toList ++
    Markup.encodeValue alt ++ "\" style=\"".toList ++ sizeStyle "max-width" width ++
    sizeStyle "max-height" height ++ "\">".toList

/-- The Markdown of an image. -/
def markdown (address alt : Text) (width height : Option Text) : Text :=
  if width.isSome || height.isSome then sizedTag address alt width height
  else '!' :: Link.ofText alt address

/-- The class of images that show a formula. -/
def formulaClass : String := "mathcode"

/-- A displayed formula. -/
def displayFormula (source : Text) : Fragment :=
  Fragment.blockText ("$$\n".toList ++ source ++ "\n$$".toList)

/-- The fragment of an image; a centred one starts a block. -/
def placed (centered : Bool) (image : Text) : Fragment :=
  (if centered then Fragment.blockBreak else Fragment.inlineBreak) ++ Fragment.ofText image ++
    Fragment.blockBreak

/-- The draft of an image with given attributes; `centered` tells that it stands within a centring
element. -/
def draft (s : Settings) (centered : Bool) (attributes : List Attribute) : Draft Fragment :=
  let alt := Text.trim (Attribute.valueOf attributes "alt")
  let address := Text.trim (Attribute.valueOf attributes "src")
  if Attribute.hasClass attributes formulaClass then
    .of (if alt.isEmpty then ∅ else displayFormula alt)
  else if address.isEmpty then .of ∅
  else
    let centered := centered || (Attribute.find? attributes Node.centerMark).isSome ||
      s.centerImages
    let length (name : String) : Option Text :=
      if s.keepImageSizes then (Attribute.find? attributes name).bind cssLength? else none
    let localize := s.localizeAssets && !Asset.Sink.isSelfContained address
    let source : Draft Text :=
      if localize then .path (.image address s.assetDirectory s.assetPrefix) else .of address
    source.map fun source =>
      placed centered (markdown source alt (length "width") (length "height"))

end ArticleMarkdown.Image
