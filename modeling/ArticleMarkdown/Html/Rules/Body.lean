import ArticleMarkdown.Html.Adoption
import ArticleMarkdown.Html.Rules.Foreign
import ArticleMarkdown.Html.Rules.Head

/-!
# In the body

The rules for tags and text in a document's body. Other modes use them for what they have no rules
of their own for.
-/

namespace ArticleMarkdown.Html.Rules

open Builder

/-- Elements that end a paragraph when they start. -/
def blockNames : List String :=
  ["address", "article", "aside", "blockquote", "center", "details", "dialog", "dir", "div", "dl",
    "fieldset", "figcaption", "figure", "footer", "header", "hgroup", "main", "menu", "nav", "ol",
    "p", "search", "section", "summary", "ul"]

/-- Elements that end at their end tag, with all that is open in them. -/
def containerNames : List String :=
  ["button", "listing", "pre"] ++ blockNames.filter (· ≠ "p")

/-- Formatting elements other than links. -/
def formattingNames : List String :=
  ["b", "big", "code", "em", "font", "i", "s", "small", "strike", "strong", "tt", "u"]

/-- Elements that formatting does not enter from outside. -/
def islandNames : List String :=
  ["applet", "marquee", "object"]

/-- Elements without content that stand in text. -/
def voidNames : List String :=
  ["area", "br", "embed", "img", "keygen", "wbr", "input"]

/-- Elements of tables and documents, which have no place in a body. -/
def strayNames : List String :=
  ["caption", "col", "colgroup", "frame", "head", "tbody", "td", "tfoot", "th", "thead", "tr"]

/-- Whether a tag starts an input that is not shown. -/
def isHiddenInput (tag : Tag) : Bool :=
  tag.name == "input" && tag.attributes.any fun a =>
    a.space == .none && a.name == "type" && Text.eqIgnoringCase a.value "hidden".toList

/-- Ends the innermost element of a name, with all that is open in it. -/
def endContainer (b : Builder) (name : String) : Builder :=
  (b.withStack (Stack.closeImplied impliedEnds)).closeThrough name

/-- Whether an element of a name is in scope. -/
def hasInScope (b : Builder) (name : String) : Bool :=
  b.stack.hasInScope OpenElement.bounds (OpenElement.isHtml name)

/-- Before a list item starts, ends the item of the same list that is open. -/
def endOpenItem (b : Builder) (names : List String) : Builder :=
  let stops (e : OpenElement) : Bool :=
    e.isAny names || (e.isSpecial && !e.isAny ["address", "div", "p"])
  match b.stack.find? stops with
  | some e =>
    if e.isAny names then
      (b.withStack (Stack.closeImpliedExcept e.name)).closeThrough e.name
    else b
  | none => b

/-- Lets frames take the place of the body. -/
def startFrames (b : Builder) (tag : Tag) : Builder :=
  match b.stack.body? with
  | some body =>
    if b.mayHaveFrames then
      let b := { b with arena := b.arena.detach body.id, stack := b.stack.reverse.take 1 }
      (b.openTag tag).withMode .inFrames
    else b
  | none => b

/-- Gives the body attributes of a tag. -/
def addBodyAttributes (b : Builder) (tag : Tag) : Builder :=
  match b.stack.body? with
  | some body =>
    if b.inTemplate then b
    else { b.withoutFrames with arena := b.arena.addAttributes body.id tag.attributes }
  | none => b

/-- Opens a form, unless one is open. -/
def openForm (b : Builder) (tag : Tag) : Builder :=
  if b.form.isSome && !b.inTemplate then b
  else
    let (form, b) := b.endParagraph.insert .html tag.name tag.attributes
    let b := b.push form
    if b.inTemplate then b else { b with form := some form.id }

/-- Ends a form. -/
def endForm (b : Builder) : Builder :=
  if b.inTemplate then if hasInScope b "form" then endContainer b "form" else b
  else
    match b.form with
    | none => b
    | some id =>
      let b := { b with form := none }
      if b.stack.hasInScope OpenElement.bounds (·.id == id) then
        b.withStack fun s => (s.closeImplied impliedEnds).remove id
      else b

/-- Opens a selection. -/
def openSelection (b : Builder) (tag : Tag) : Builder :=
  let mode := match b.mode with
    | .inTable | .inCaption | .inTableBody | .inRow | .inCell => Mode.inSelectionInTable
    | _ => Mode.inSelection
  ((b.restoreFormatting.openTag tag).withoutFrames).withMode mode

/-- The start of an element in the body. -/
def startInBody (b : Builder) (tag : Tag) : Builder :=
  let name := tag.name
  if name == "html" then b.addRootAttributes tag
  else if headNames.contains name then insertInHead b tag
  else if name == "body" then addBodyAttributes b tag
  else if name == "frameset" then startFrames b tag
  else if blockNames.contains name then b.endParagraph.openTag tag
  else if headingNames.contains name then
    let b := b.endParagraph
    (if b.stack.head?.any (OpenElement.isAny headingNames) then b.pop else b).openTag tag
  else if name == "pre" || name == "listing" then
    { (b.endParagraph.openTag tag).withoutFrames with dropsLineFeed := true }
  else if name == "form" then openForm b tag
  else if name == "li" then ((endOpenItem b.withoutFrames ["li"]).endParagraph).openTag tag
  else if name == "dd" || name == "dt" then
    ((endOpenItem b.withoutFrames ["dd", "dt"]).endParagraph).openTag tag
  else if name == "plaintext" then { b.endParagraph.openTag tag with content := .plain }
  else if name == "button" then
    let b := if hasInScope b "button" then endContainer b "button" else b
    (b.restoreFormatting.openTag tag).withoutFrames
  else if name == "a" then b.endOpenLink.restoreFormatting.openFormatting tag
  else if formattingNames.contains name then b.restoreFormatting.openFormatting tag
  else if name == "nobr" then
    let b := b.restoreFormatting
    let b := if hasInScope b "nobr" then (b.endFormatting "nobr").restoreFormatting else b
    b.openFormatting tag
  else if islandNames.contains name then
    ((b.restoreFormatting.openTag tag).pushBoundary).withoutFrames
  else if name == "table" then
    (((if b.legacy then b else b.endParagraph).openTag tag).withoutFrames).withMode .inTable
  else if voidNames.contains name then
    let b := b.restoreFormatting.insertVoid tag
    if isHiddenInput tag then b else b.withoutFrames
  else if name == "image" then
    (b.restoreFormatting.insertVoid { tag with name := "img" }).withoutFrames
  else if name == "param" || name == "source" || name == "track" then b.insertVoid tag
  else if name == "hr" then (b.endParagraph.insertVoid tag).withoutFrames
  else if name == "textarea" then
    { b.withoutFrames.openText tag (.escapable name) with dropsLineFeed := true }
  else if name == "xmp" then
    (b.endParagraph.restoreFormatting.withoutFrames).openText tag (.raw name)
  else if name == "iframe" then b.withoutFrames.openText tag (.raw name)
  else if name == "noembed" || name == "noscript" then b.openText tag (.raw name)
  else if name == "select" then openSelection b tag
  else if name == "optgroup" || name == "option" then
    (b.popIf "option").restoreFormatting.openTag tag
  else if name == "rb" || name == "rtc" then
    (if hasInScope b "ruby" then b.withStack (Stack.closeImplied impliedEnds) else b).openTag tag
  else if name == "rp" || name == "rt" then
    (if hasInScope b "ruby" then b.withStack (Stack.closeImpliedExcept "rtc") else b).openTag tag
  else if name == "math" then openForeign b .mathml tag
  else if name == "svg" then openForeign b .svg tag
  else if strayNames.contains name then b
  else b.restoreFormatting.openTag tag

/-- The end of an element in the body, other than the body itself and the root element. -/
def endInBody (b : Builder) (name : String) : Builder :=
  if name == "template" then endTemplate b
  else if containerNames.contains name then if hasInScope b name then endContainer b name else b
  else if name == "form" then endForm b
  else if name == "p" then
    let hasParagraph := b.stack.hasInScope OpenElement.boundsParagraphs (OpenElement.isHtml "p")
    (if hasParagraph then b else b.openImplied "p").closeParagraph
  else if name == "li" || name == "dd" || name == "dt" then
    let boundary := if name == "li" then OpenElement.boundsItems else OpenElement.bounds
    if b.stack.hasInScope boundary (OpenElement.isHtml name) then
      (b.withStack (Stack.closeImpliedExcept name)).closeThrough name
    else b
  else if headingNames.contains name then
    if b.stack.hasInScope OpenElement.bounds (OpenElement.isAny headingNames) then
      b.withStack fun s =>
        (s.closeImplied impliedEnds).closeThrough (OpenElement.isAny headingNames)
    else b
  else if name == "a" || name == "nobr" || formattingNames.contains name then b.endFormatting name
  else if islandNames.contains name then
    if hasInScope b name then (endContainer b name).dropToBoundary else b
  else if name == "br" then startInBody b { name }
  else b.closeOrdinary name

/-- The end of the input in a template. -/
def endOfInputInTemplate (b : Builder) : Outcome :=
  if b.inTemplate then
    let b := (b.closeThrough "template").dropToBoundary
    .again { b with templateModes := b.templateModes.drop 1 }.resetMode
  else .done b

/-- In the body. -/
def inBody (b : Builder) (token : Token) : Outcome :=
  match token with
  | .null | .doctype _ | .malformed => .done b
  | .space t => .done (b.restoreFormatting.appendText t)
  | .text t => .done (b.restoreFormatting.withoutFrames.appendText t)
  | .comment content => .done (b.appendComment content)
  | .startTag tag => .done (startInBody b tag)
  | .endTag name =>
    if name == "body" then
      .done (if hasInScope b "body" then b.withMode .afterBody else b)
    else if name == "html" then
      if hasInScope b "body" then .again (b.withMode .afterBody) else .done b
    else .done (endInBody b name)
  | .eof => if b.templateModes.isEmpty then .done b else endOfInputInTemplate b

/-- In an element whose text has no tags. -/
def inText (b : Builder) (token : Token) : Outcome :=
  match token with
  | .space t | .text t => .done (b.appendText t)
  | .endTag _ => .done (b.pop.withMode b.returnMode)
  | .eof => .again (b.pop.withMode b.returnMode)
  | .startTag _ | .comment _ | .doctype _ | .null | .malformed => .done b

/-- After the body. -/
def afterBody (b : Builder) (token : Token) : Outcome :=
  match token with
  | .space _ => inBody b token
  | .comment content =>
    let root := (b.stack.getLast?.map (·.id)).getD documentId
    .done (b.appendCommentAt (.lastIn root) content)
  | .eof => .done b
  | .startTag tag =>
    if tag.name == "html" then .done (b.addRootAttributes tag) else .again (b.withMode .inBody)
  | .endTag name =>
    if name == "html" then .done (b.withMode .afterRoot) else .again (b.withMode .inBody)
  | .doctype _ | .text _ | .null | .malformed => .again (b.withMode .inBody)

/-- After the root element. -/
def afterRoot (b : Builder) (token : Token) : Outcome :=
  match token with
  | .space _ => inBody b token
  | .comment content => .done (b.appendCommentAt (.lastIn documentId) content)
  | .eof => .done b
  | .startTag tag =>
    if tag.name == "html" then .done (b.addRootAttributes tag) else .again (b.withMode .inBody)
  | .doctype _ | .endTag _ | .text _ | .null | .malformed => .again (b.withMode .inBody)

end ArticleMarkdown.Html.Rules
