import ArticleMarkdown.Html.Arena
import ArticleMarkdown.Html.Lexer
import ArticleMarkdown.Html.Stack

/-!
# Building documents

A builder holds a document that is being read: its nodes, the open elements, and the formatting
elements that are to be opened again where text follows after their parents have ended.
-/

namespace ArticleMarkdown.Html

/-- Which rules a token follows. -/
inductive Mode where
  | initial
  | beforeHtml
  | beforeHead
  | inHead
  | afterHead
  | inBody
  /-- In an element whose text has no tags. -/
  | inText
  | inTable
  | inTableText
  | inCaption
  | inColumns
  | inTableBody
  | inRow
  | inCell
  | inSelection
  | inSelectionInTable
  | inTemplate
  | afterBody
  | afterRoot
  /-- In a document of frames, which has no body. -/
  | inFrames
  deriving DecidableEq, Repr, Inhabited

/-- An entry of the list of formatting elements. -/
inductive Formatting where
  /-- The start of an element that formatting does not enter from outside. -/
  | boundary
  /-- A formatting element and the tag that started it. -/
  | element (id : Nat) (tag : Tag)
  deriving DecidableEq, Repr

namespace Formatting

/-- The node of an entry. -/
def id? : Formatting → Option Nat
  | .boundary => none
  | .element id _ => some id

/-- Whether an entry is of a node. -/
def isOf (id : Nat) (f : Formatting) : Bool :=
  f.id? == some id

/-- Whether an entry is a boundary. -/
def isBoundary : Formatting → Bool
  | .boundary => true
  | .element _ _ => false

/-- Whether an entry is of an element of a name. -/
def isNamed (name : String) : Formatting → Bool
  | .boundary => false
  | .element _ tag => tag.name == name

/-- Whether two tags have the same name and the same attributes in some order. -/
def sameTag (a b : Tag) : Bool :=
  a.name == b.name && a.attributes.all b.attributes.contains &&
    b.attributes.all a.attributes.contains

end Formatting

/-- A document that is being read. -/
structure Builder where
  arena : Arena := (({} : Arena).add .document)
  stack : Stack := []
  /-- The formatting elements, the latest first. -/
  formatting : List Formatting := []
  mode : Mode := .initial
  returnMode : Mode := .initial
  /-- The modes of the open templates, the latest first. -/
  templateModes : List Mode := []
  head : Option OpenElement := none
  form : Option Nat := none
  /-- Whether frames may still take the place of the body. -/
  mayHaveFrames : Bool := true
  /-- Whether a line feed at the start of the next text is to be dropped. -/
  dropsLineFeed : Bool := false
  /-- Whether what does not belong in a table is put before it. -/
  fosters : Bool := false
  /-- The text directly in a table, in order. -/
  tableText : List Token := []
  /-- Whether the document is laid out by legacy rules. -/
  legacy : Bool := false
  /-- What the input is read as. -/
  content : Content := .markup

/-- What becomes of a token. -/
inductive Outcome where
  | done (b : Builder)
  /-- The token follows the rules of the builder's mode once more. -/
  | again (b : Builder)

/-- A place for a node. -/
inductive Place where
  /-- After the children of a node. -/
  | lastIn (parent : Nat)
  | before (parent sibling : Nat)
  deriving DecidableEq, Repr

namespace Builder

/-- The number of the document's node. -/
def documentId : Nat := 0

/-! ## Places -/

/-- The place before the innermost table: before its node if that has a parent, else in the element
below it. A template within the table takes the node instead. -/
def fosterPlace (arena : Arena) : Stack → Place
  | [] => .lastIn documentId
  | e :: rest =>
    if e.isHtml "template" then .lastIn e.inside
    else if e.isHtml "table" then
      match arena.parent? e.id with
      | some parent => .before parent e.id
      | none => .lastIn ((rest.head?.map (·.inside)).getD documentId)
    else if rest.isEmpty then .lastIn e.inside
    else fosterPlace arena rest

/-- The place for a node that belongs in an element. -/
def placeIn (b : Builder) (target : OpenElement) : Place :=
  if b.fosters && target.isAny ["table", "tbody", "tfoot", "thead", "tr"] then
    fosterPlace b.arena b.stack
  else .lastIn target.inside

/-- The place for a node that belongs in the current element. -/
def place (b : Builder) : Place :=
  match b.stack with
  | [] => .lastIn documentId
  | current :: _ => b.placeIn current

/-- Puts a node without a place in a place. -/
def put (arena : Arena) (id : Nat) : Place → Arena
  | .lastIn parent => arena.append parent id
  | .before parent sibling => arena.appendBefore parent sibling id

/-! ## Text and comments -/

/-- Appends text. -/
def appendText (b : Builder) (t : Text) : Builder :=
  match b.place with
  | .lastIn parent => { b with arena := b.arena.appendText parent t }
  | .before parent sibling => { b with arena := b.arena.appendTextBefore parent sibling t }

/-- Appends a comment in a place. -/
def appendCommentAt (b : Builder) (place : Place) (content : Text) : Builder :=
  { b with arena := put (b.arena.add (.comment content)) b.arena.size place }

/-- Appends a comment. -/
def appendComment (b : Builder) (content : Text) : Builder :=
  b.appendCommentAt b.place content

/-! ## Elements -/

/-- Whether the attributes of an annotation say that it holds HTML. -/
def annotatesHtml (attributes : List Attribute) : Bool :=
  attributes.any fun a => a.space == .none && a.name == "encoding" &&
    (Text.eqIgnoringCase a.value "text/html".toList ||
      Text.eqIgnoringCase a.value "application/xhtml+xml".toList)

/-- Creates an element without a place. A template has a second node for its children, which is not
part of the document. -/
def create (arena : Arena) (space : ElementSpace) (name : String) (attributes : List Attribute) :
    OpenElement × Arena :=
  let id := arena.size
  let arena := arena.add (.element space name attributes)
  let embeds := space == .mathml && name == "annotation-xml" && annotatesHtml attributes
  if space == .html && name == "template" then
    (⟨id, arena.size, space, name, embeds⟩, arena.add .document)
  else (⟨id, id, space, name, embeds⟩, arena)

/-- Inserts an element at the place for the current element's children. -/
def insert (b : Builder) (space : ElementSpace) (name : String) (attributes : List Attribute) :
    OpenElement × Builder :=
  let (e, arena) := create b.arena space name attributes
  (e, { b with arena := put arena e.id b.place })

/-- Makes an element the current one. -/
def push (b : Builder) (e : OpenElement) : Builder :=
  { b with stack := e :: b.stack }

/-- Opens an HTML element. -/
def openElement (b : Builder) (name : String) (attributes : List Attribute) : Builder :=
  let (e, b) := b.insert .html name attributes
  b.push e

/-- Opens the element of a tag. -/
def openTag (b : Builder) (tag : Tag) : Builder :=
  b.openElement tag.name tag.attributes

/-- Opens an element that markup left out. -/
def openImplied (b : Builder) (name : String) : Builder :=
  b.openElement name []

/-- Inserts the element of a tag, which has no content. -/
def insertVoid (b : Builder) (tag : Tag) : Builder :=
  (b.insert .html tag.name tag.attributes).2

/-- Opens an element whose text is read in another way. -/
def openText (b : Builder) (tag : Tag) (content : Content) : Builder :=
  { b.openTag tag with returnMode := b.mode, mode := .inText, content }

/-- Changes the stack. -/
def withStack (b : Builder) (change : Stack → Stack) : Builder :=
  { b with stack := change b.stack }

/-- Closes the current element. -/
def pop (b : Builder) : Builder :=
  b.withStack (·.drop 1)

/-- Closes the current element if it has a name. -/
def popIf (b : Builder) (name : String) : Builder :=
  if b.stack.currentIs name then b.pop else b

/-- Closes elements up to and including the first of a name. -/
def closeThrough (b : Builder) (name : String) : Builder :=
  b.withStack (Stack.closeThrough (OpenElement.isHtml name))

/-- Frames may no longer take the place of the body. -/
def withoutFrames (b : Builder) : Builder :=
  { b with mayHaveFrames := false }

/-- Changes the mode. -/
def withMode (b : Builder) (mode : Mode) : Builder :=
  { b with mode }

/-! ## Paragraphs -/

/-- Closes the innermost paragraph. -/
def closeParagraph (b : Builder) : Builder :=
  (b.withStack (Stack.closeImpliedExcept "p")).closeThrough "p"

/-- Closes the paragraph that is open, if there is one. -/
def endParagraph (b : Builder) : Builder :=
  if b.stack.hasInScope OpenElement.boundsParagraphs (OpenElement.isHtml "p") then b.closeParagraph
  else b

/-! ## Formatting elements -/

/-- Whether an entry is a boundary or an open element. -/
def isSettled (b : Builder) (f : Formatting) : Bool :=
  match f.id? with
  | none => true
  | some id => b.stack.any (·.id == id)

/-- Opens formatting elements again, the earliest last in the list. -/
def reopen : List Formatting → Builder → Builder
  | [], b => b
  | .boundary :: rest, b => reopen rest b
  | .element _ tag :: rest, b =>
    let b := reopen rest b
    let (e, b) := b.insert .html tag.name tag.attributes
    { b.push e with formatting := .element e.id tag :: b.formatting }

/-- Opens those formatting elements again that have been closed with their parents. -/
def restoreFormatting (b : Builder) : Builder :=
  let closed := b.formatting.takeWhile fun f => !b.isSettled f
  reopen closed { b with formatting := b.formatting.drop closed.length }

/-- The formatting elements since the last boundary. -/
def recentFormatting (b : Builder) : List Formatting :=
  b.formatting.takeWhile fun f => !f.isBoundary

/-- Marks the start of an element that formatting does not enter. -/
def pushBoundary (b : Builder) : Builder :=
  { b with formatting := .boundary :: b.formatting }

/-- Drops the formatting elements since the last boundary, and the boundary. -/
def dropToBoundary (b : Builder) : Builder :=
  { b with formatting := (b.formatting.dropWhile fun f => !f.isBoundary).drop 1 }

/-- Drops the formatting element of a node. -/
def dropFormatting (id : Nat) (list : List Formatting) : List Formatting :=
  list.filter fun f => !f.isOf id

/-- Opens a formatting element. Of equal ones since the last boundary only three are kept. -/
def openFormatting (b : Builder) (tag : Tag) : Builder :=
  let isEqual : Formatting → Bool
    | .boundary => false
    | .element _ old => Formatting.sameTag tag old
  let equal := b.recentFormatting.filter isEqual
  let kept :=
    if equal.length < 3 then b.formatting
    else match equal.getLast?.bind Formatting.id? with
      | some id => dropFormatting id b.formatting
      | none => b.formatting
  let (e, b) := b.insert .html tag.name tag.attributes
  { b.push e with formatting := .element e.id tag :: kept }

/-! ## Tables and templates -/

/-- The mode that the open elements call for. -/
def modeOf (templateMode : Mode) (hasHead : Bool) : Stack → Mode
  | [] => .inBody
  | e :: below =>
    if e.space ≠ .html then modeOf templateMode hasHead below
    else
      match e.name with
      | "select" =>
        match below.find? (OpenElement.isAny ["template", "table"]) with
        | some ancestor =>
          if ancestor.name == "table" then .inSelectionInTable else .inSelection
        | none => .inSelection
      | "td" | "th" => if below.isEmpty then .inBody else .inCell
      | "tr" => .inRow
      | "tbody" | "thead" | "tfoot" => .inTableBody
      | "caption" => .inCaption
      | "colgroup" => .inColumns
      | "table" => .inTable
      | "template" => templateMode
      | "head" => if below.isEmpty then .inBody else .inHead
      | "body" => .inBody
      | "frameset" => .inFrames
      | "html" => if hasHead then .afterHead else .beforeHead
      | _ => modeOf templateMode hasHead below

/-- Goes to the mode that the open elements call for. -/
def resetMode (b : Builder) : Builder :=
  { b with mode := modeOf (b.templateModes.headD .inBody) b.head.isSome b.stack }

/-- Whether a template is open. -/
def inTemplate (b : Builder) : Bool :=
  b.stack.hasOpen "template"

/-- Gives the root element attributes of a tag. -/
def addRootAttributes (b : Builder) (tag : Tag) : Builder :=
  match b.stack.getLast? with
  | some root =>
    if b.inTemplate then b else { b with arena := b.arena.addAttributes root.id tag.attributes }
  | none => b

end Builder
end ArticleMarkdown.Html
