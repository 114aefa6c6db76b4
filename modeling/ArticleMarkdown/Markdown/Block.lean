import ArticleMarkdown.Document.Node
import ArticleMarkdown.Document.Markup
import ArticleMarkdown.Fragment.Lines
import ArticleMarkdown.Fragment.Resolve
import ArticleMarkdown.Markup.OneLine
import ArticleMarkdown.Settings.Basic
import ArticleMarkdown.Text.Basic
import ArticleMarkdown.Text.Numeral
import ArticleMarkdown.Text.Bytes

/-!
# Blocks

Headings, quotations, list items and paragraphs: what marks their lines, and which paragraphs are
something else.
-/

namespace ArticleMarkdown

namespace Heading

/-- Whether a node is a link that shows neither text nor an image. -/
def isEmptyLink (node : Node) : Bool :=
  node.isElement "a" && Text.isBlank (Text.stripInvisible node.textContent) &&
    !node.descendants.any (Node.isElement "img")

/-- Whether a line starts with an image. -/
def isImageLine (line : Text) : Bool :=
  let line := Text.trimStart line
  Text.startsWith "![".toList line || Text.startsWith "<img".toList line

/-- What marks the lines of a heading of a level. -/
def mark (level : Nat) : Text :=
  Text.repeated level '#' ++ [' ']

/-- A heading with the given content; lines that are blank or start with an image are not
marked. -/
def fragment (level : Nat) (content : Fragment) : Fragment :=
  let content := content.resolve
  if content.isBlank then ∅
  else
    Fragment.blocked <| content.markLines fun _ line =>
      if Text.isBlank line || isImageLine line then [] else mark level

end Heading

namespace Quotation

/-- A quotation of the given content. -/
def fragment (content : Fragment) : Fragment :=
  let content := content.resolve
  if content.isBlank then ∅
  else Fragment.blocked (content.markLines fun _ _ => ['>', ' '])

end Quotation

/-- The kinds of lists. -/
inductive ListKind where
  | ordered
  | unordered
  deriving DecidableEq, Repr

namespace ListKind

/-- The kind of list that an element is. -/
def ofName? (name : String) : Option ListKind :=
  match name with
  | "ol" => some .ordered
  | "ul" => some .unordered
  | _ => none

/-- How far the further lines of an item are indented. -/
def indent : ListKind → Nat
  | .ordered => 3
  | .unordered => 2

/-- The mark of an item with a number. -/
def mark (kind : ListKind) (number : Nat) : Text :=
  match kind with
  | .ordered => Text.ofNat number ++ ['.', ' ']
  | .unordered => ['-', ' ']

/-- The number of the first item of a list with given attributes. -/
def start (kind : ListKind) (attributes : List Attribute) : Nat :=
  match kind with
  | .ordered =>
    ((Attribute.find? attributes "start").bind fun t => Text.count? (Text.trim t)).getD 1
  | .unordered => 1

/-- The indentation of a further line; blank lines have none. -/
def continuation (kind : ListKind) (line : Text) : Text :=
  if Text.isBlank line then [] else Text.repeated kind.indent ' '

/-- An item of a list. -/
def item (kind : ListKind) (number : Nat) (content : Fragment) : Fragment :=
  content.resolve.markLines fun index line =>
    if index = 0 then kind.mark number else kind.continuation line

/-- A list that stands directly in another one and continues its item. -/
def nested (kind : ListKind) (content : Fragment) : Fragment :=
  content.resolve.markLines fun _ line => kind.continuation line

end ListKind

namespace Paragraph

/-- The class of paragraphs whose images are centred. -/
def centerClass : String := "img-center"

/-- The id of the paragraph in place of the table of contents. -/
def contentsId : Text := "main-toc".toList

/-- The label above the table of contents. -/
def contentsLabel : Text := "**目录**".toList

/-- The table of contents. -/
def contents : Fragment :=
  Fragment.blockText contentsLabel ++ Fragment.ofText "[TOC]".toList ++ Fragment.blockBreak

/-- What a paragraph is. -/
inductive Form where
  /-- Its images are centred. -/
  | centering
  /-- It stands in place of the table of contents. -/
  | contents
  | dropped
  /-- It is aligned and holds no image. -/
  | aligned (side : Text)
  /-- It is nothing but a paragraph. -/
  | plain
  deriving DecidableEq, Repr

/-- The form of a paragraph. -/
def form (s : Settings) (attributes : List Attribute) (children : List Node) : Form :=
  if Attribute.hasClass attributes centerClass then .centering
  else if Attribute.find? attributes "id" == some contentsId then
    if s.tableOfContents then .contents else .dropped
  else if (Attribute.styleProperty? attributes "padding-left").isSome then .dropped
  else
    match (Attribute.styleProperty? attributes "text-align").map Text.lower with
    | some side =>
      if side == "center".toList || side == "right".toList then
        if (Node.subtrees children).any (Node.isElement "img") then .centering else .aligned side
      else .plain
    | none => .plain

/-- An aligned paragraph with the given children, as raw markup. -/
def aligned (side : Text) (children : List Node) : Fragment :=
  let inner := Markup.oneLine (Markup.inner children)
  if inner.isEmpty then ∅
  else
    Fragment.blockText
      ("<div style=\"text-align:".toList ++ side ++ ";\">".toList ++ inner ++ "</div>".toList)

end Paragraph

namespace Centered

/-- The trimmed text of an element whose only child is text. -/
def loneText? : List Node → Option Text
  | [.text content] => some (Text.trim content)
  | _ => none

/-- Centred text. -/
def text (t : Text) : Fragment :=
  if t.isEmpty then ∅
  else Fragment.blockText ("<center>".toList ++ Markup.encodeText t ++ "</center>".toList)

end Centered

end ArticleMarkdown
