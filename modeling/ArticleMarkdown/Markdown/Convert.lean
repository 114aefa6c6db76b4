import ArticleMarkdown.Fragment.Layout
import ArticleMarkdown.Markdown.Inline
import ArticleMarkdown.Markdown.Code
import ArticleMarkdown.Markdown.Drawing
import ArticleMarkdown.Markdown.Formula
import ArticleMarkdown.Markdown.Link
import ArticleMarkdown.Markdown.Rule
import ArticleMarkdown.Markdown.Table

/-!
# Converting documents

The walk over a document. Each element is converted by its rule, from the drafts of its children;
a node is converted at most once. `centered` tells that a node stands within an element that
centres its images.
-/

namespace ArticleMarkdown

/-- Whether a table with given children has rows. -/
def Table.hasRows (children : List Node) : Bool :=
  let isRow (node : Node) : Bool := node.name? == some "tr"
  children.any fun node =>
    isRow node || (node.name?.any isRowGroup && node.children.any isRow)

/-- Content that ends a block. -/
def Fragment.closed (content : Fragment) : Fragment :=
  content ++ blockBreak

mutual

/-- The draft of a node. -/
def draftNode (s : Settings) (centered : Bool) : Node → Draft Fragment
  | .text content => .of (Plain.fragment content)
  | .element space name attributes children =>
    match Rule.ofName name with
    | .heading level =>
      (draftHeading s centered children).map (Heading.fragment level)
    | .paragraph =>
      match Paragraph.form s attributes children with
      | .centering => (draftNodes s true children).map Fragment.blocked
      | .contents => .of Paragraph.contents
      | .dropped => .of ∅
      | .aligned side => .of (Paragraph.aligned side (Node.allShown centered children))
      | .plain => (draftNodes s centered children).map Fragment.blocked
    | .emphasis kind => (draftNodes s centered children).map fun content => kind.wrap content.trim
    | .link =>
      match Link.form s.stripSearchLinks attributes with
      | .dropped => .of ∅
      | .card title address => .of (Fragment.inlineText (Link.ofText title address))
      | .stripped => (draftNodes s centered children).map Link.stripped
      | .unlinked => (draftNodes s centered children).map Link.unlinked
      | .linked address => (draftNodes s centered children).map (Link.around address)
    | .image => Image.draft s centered attributes
    | .list kind =>
      (draftItems s.descend centered kind (kind.start attributes) children).map
        (Fragment.blockBreak ++ ·)
    | .quotation => (draftNodes s centered children).map Quotation.fragment
    | .codeBlock => .of (Code.block children)
    | .inlineCode => .of (Code.inline children)
    | .table =>
      if Table.hasRows children then
        (draftRows s centered false children).map fun rows => (Table.fragment? rows).getD ∅
      else (draftNodes s centered children).map Fragment.closed
    | .span =>
      match Formula.fragment? attributes children with
      | some formula => .of formula
      | none =>
        match (if s.keepColors then Color.span? attributes children else none) with
        | some colored => .of colored
        | none => draftNodes s centered children
    | .font =>
      match (if s.keepColors then Color.font? attributes children else none) with
      | some colored => .of colored
      | none => draftNodes s centered children
    | .superscript =>
      match Note.reference? attributes children with
      | some reference => .of reference
      | none => (draftNodes s centered children).map (Script.wrap "sup")
    | .subscript => (draftNodes s centered children).map (Script.wrap "sub")
    | .checkbox => .of (Checkbox.fragment attributes)
    | .drawing =>
      Drawing.draft s space name attributes (Node.allShown centered children)
    | .center =>
      match Centered.loneText? children with
      | some text => .of (Centered.text text)
      | none => (draftNodes s true children).map Fragment.blocked
    | .container =>
      if Attribute.hasClass attributes Note.sectionClass then .of (Note.definitions children)
      else (draftNodes s centered children).map Fragment.closed
    | .thematicBreak => .of (Fragment.blockText "---".toList)
    | .raw placement =>
      .of (Raw.fragment placement (Node.shown centered (.element space name attributes children)))
    | .discard => .of ∅
    | .transparent => (draftNodes s centered children).map Fragment.closed
  | .document children => draftNodes s centered children
  | .comment _ => .of ∅
  | .doctype _ => .of ∅
  | .instruction _ _ => .of ∅

/-- The draft of nodes one after another. -/
def draftNodes (s : Settings) (centered : Bool) : List Node → Draft Fragment
  | [] => .of ∅
  | node :: rest => (draftNode s centered node).append (draftNodes s centered rest)

/-- The draft of the content of a heading, without links that show nothing. -/
def draftHeading (s : Settings) (centered : Bool) : List Node → Draft Fragment
  | [] => .of ∅
  | node :: rest =>
    if Heading.isEmptyLink node then draftHeading s centered rest
    else (draftNode s centered node).append (draftHeading s centered rest)

/-- The draft of what stands directly below a node. -/
def draftContent (s : Settings) (centered : Bool) : Node → Draft Fragment
  | .element _ _ _ children => draftNodes s centered children
  | .document children => draftNodes s centered children
  | .text _ => .of ∅
  | .comment _ => .of ∅
  | .doctype _ => .of ∅
  | .instruction _ _ => .of ∅

/-- The draft of the items of a list, numbered from `number` on. -/
def draftItems (s : Settings) (centered : Bool) (kind : ListKind) (number : Nat) :
    List Node → Draft Fragment
  | [] => .of ∅
  | node :: rest =>
    if node.name? == some "li" then
      ((draftContent s centered node).map fun content =>
        (kind.item number content).closed).append
        (draftItems s centered kind (Text.countAfter number 1) rest)
    else if (node.name?.bind ListKind.ofName?).isSome then
      ((draftNode s centered node).map fun content => (kind.nested content).closed).append
        (draftItems s centered kind number rest)
    else draftItems s centered kind number rest

/-- The draft of the rows of a table; `grouped` tells that they stand in a group. -/
def draftRows (s : Settings) (centered grouped : Bool) : List Node → Draft (List Table.Row)
  | [] => .of []
  | node :: rest =>
    match node with
    | .element _ name _ children =>
      if name == "tr" then
        .cons (draftCells s centered children) (draftRows s centered grouped rest)
      else if Table.isRowGroup name && !grouped then
        .combine (· ++ ·) (draftRows s centered true children) (draftRows s centered grouped rest)
      else draftRows s centered grouped rest
    | _ => draftRows s centered grouped rest

/-- The draft of the cells of a row. -/
def draftCells (s : Settings) (centered : Bool) : List Node → Draft Table.Row
  | [] => .of []
  | node :: rest =>
    if node.name?.any Table.isCell then
      .cons ((draftContent s centered node).map fun content =>
        ⟨Table.cellText content, node.attributes⟩) (draftCells s centered rest)
    else draftCells s centered rest

end

/-- The final text of a document: empty, or ended by a blank line so that documents can be put one
after another. -/
def Fragment.documentText (content : Fragment) : Text :=
  let text := content.finalText
  if text.isEmpty then [] else text ++ ['\n', '\n']

/-- The draft of the Markdown for the children of a root node. -/
def draftDocument (s : Settings) (children : List Node) : Draft Text :=
  (draftNodes s false children).map Fragment.documentText

end ArticleMarkdown
