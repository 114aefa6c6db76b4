import ArticleMarkdown.Document.Markup
import ArticleMarkdown.Document.Node
import ArticleMarkdown.Fragment.Basic
import ArticleMarkdown.Fragment.Resolve
import ArticleMarkdown.Markup.OneLine

/-!
# Inline content

The text of a document is flowed anew: whitespace at its ends becomes separators, and runs of
whitespace inside become single spaces. Emphasis, superscripts and subscripts wrap their trimmed
content; content that shows nothing gives nothing, since a pair of empty marks would be read as
text. Where colours are kept, an element that only colours a text is written as raw markup, and
some elements are passed through as markup on one line.
-/

namespace ArticleMarkdown

/-! ## Text nodes -/

namespace Plain

/-- Whitespace of markup. -/
def isMarkupSpace (c : Char) : Bool :=
  c == ' ' || c == '\t' || c == '\r' || c == '\n' || c == '\x0c'

/-- Replaces runs of markup whitespace by a space; `inRun` tells that one has been written for the
current run. -/
def squeezeFrom (inRun : Bool) : Text → Text
  | [] => []
  | c :: rest =>
    if isMarkupSpace c then (if inRun then [] else [' ']) ++ squeezeFrom true rest
    else c :: squeezeFrom false rest

/-- Each run of markup whitespace as one space. -/
def squeeze (t : Text) : Text :=
  squeezeFrom false t

/-- An inline separator where an edge of the text is whitespace. -/
def edgeBreak (edge : Option Char) : Fragment :=
  if edge.any Text.isSpace then Fragment.inlineBreak else ∅

/-- The fragment of a text node. -/
def fragment (t : Text) : Fragment :=
  match Text.trim t with
  | [] => edgeBreak t.head?
  | trimmed => edgeBreak t.head? ++ Fragment.ofText (squeeze trimmed) ++ edgeBreak t.getLast?

end Plain

/-! ## Marks -/

/-- The kinds of emphasis. -/
inductive Emphasis where
  | bold
  | italic
  | underline
  | strike
  deriving DecidableEq, Repr

namespace Emphasis

/-- The opening mark. -/
def opening : Emphasis → Text
  | .bold => "**".toList
  | .italic => "*".toList
  | .underline => "<u>".toList
  | .strike => "~~".toList

/-- The closing mark. -/
def closing : Emphasis → Text
  | .bold => "**".toList
  | .italic => "*".toList
  | .underline => "</u>".toList
  | .strike => "~~".toList

/-- The separator that content leaves outside the marks: a block separator if one stands among
the tokens before its visible text. -/
def outside (edge : List Token) : Fragment :=
  if edge.contains .blockBreak then Fragment.blockBreak else Fragment.inlineBreak

/-- Emphasis cannot span a blank line. Block separators at the edges of the content move outside
the marks; those inside become inline separators. -/
def wrap (kind : Emphasis) (content : Fragment) : Fragment :=
  let body := content.tokens.dropWhile Token.isBlank
  let leading := content.tokens.takeWhile Token.isBlank
  let trailing := body.reverse.takeWhile Token.isBlank
  let visible := (body.reverse.dropWhile Token.isBlank).reverse
  let inner := (Fragment.flattened ⟨visible⟩).trim
  if inner.isBlank then ∅
  else
    outside leading ++ (Fragment.ofText kind.opening ++ inner ++ Fragment.ofText kind.closing) ++
      outside trailing

end Emphasis

namespace Script

/-- The trimmed content between the tags of a raised or lowered text. -/
def wrap (tag : String) (content : Fragment) : Fragment :=
  let inner := content.trim
  if inner.isBlank then ∅
  else
    Fragment.ofText (Markup.startTag tag []) ++ inner ++ Fragment.ofText (Markup.endTag tag)

end Script

/-! ## Coloured text -/

namespace Color

/-- The trimmed text of an element whose only child is text that shows something. -/
def loneText? : List Node → Option Text
  | [.text content] => if Text.isBlank content then none else some (Text.trim content)
  | _ => none

/-- Whether the inline style of an element gives its text a colour. -/
def isColored (attributes : List Attribute) : Bool :=
  ["color", "background-color", "background"].any fun property =>
    (Attribute.styleProperty? attributes property).isSome

/-- Raw markup of a text in an element with one attribute. -/
def element (name key : String) (value text : Text) : Fragment :=
  Fragment.ofText
    ('<' :: name.toList ++ ' ' :: key.toList ++ '=' :: '"' :: Markup.encodeValue value ++
      '"' :: '>' :: Markup.encodeText text ++ Markup.endTag name)

/-- The coloured text of a span. -/
def span? (attributes : List Attribute) (children : List Node) : Option Fragment :=
  if isColored attributes then
    (loneText? children).map fun text =>
      element "span" "style" (Text.trim (Attribute.valueOf attributes "style")) text
  else none

/-- The coloured text of a font element. -/
def font? (attributes : List Attribute) (children : List Node) : Option Fragment :=
  let color := Text.trim (Attribute.valueOf attributes "color")
  if color.isEmpty then none
  else (loneText? children).map fun text => element "font" "color" color text

end Color

/-! ## Checkboxes -/

namespace Checkbox

/-- The box of a task; other inputs have no Markdown form. -/
def fragment (attributes : List Attribute) : Fragment :=
  if (Attribute.find? attributes "type").any fun t =>
      Text.eqIgnoringCase (Text.trim t) "checkbox".toList then
    Fragment.ofText (if (Attribute.find? attributes "checked").isSome then "[x] ".toList
      else "[ ] ".toList)
  else ∅

end Checkbox

/-! ## Markup that is passed through -/

namespace Raw

/-- Where an element that is passed through stands. -/
inductive Placement where
  | block
  | inline
  deriving DecidableEq, Repr

/-- The markup of a node on one line. -/
def fragment (placement : Placement) (node : Node) : Fragment :=
  let markup := Markup.oneLine (Markup.outer node)
  if markup.isEmpty then ∅
  else
    match placement with
    | .block => Fragment.blockText markup
    | .inline => Fragment.inlineText markup

end Raw
end ArticleMarkdown
