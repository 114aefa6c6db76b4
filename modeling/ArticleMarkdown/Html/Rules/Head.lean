import ArticleMarkdown.Html.Builder

/-!
# Before the body

The rules before a document's body. Elements that markup leaves out are added where the first
token comes that belongs in them.
-/

namespace ArticleMarkdown.Html.Rules

open Builder

/-- Elements of the head that may stand elsewhere too. -/
def headNames : List String :=
  ["base", "basefont", "bgsound", "link", "meta", "noframes", "script", "style", "template",
    "title"]

/-- Elements whose end tags imply what stands before the body. -/
def isFarEnd (name : String) : Bool :=
  ["head", "body", "html", "br"].contains name

/-- Opens a template. -/
def openTemplate (b : Builder) (tag : Tag) : Builder :=
  let b := (b.openTag tag).pushBoundary.withoutFrames
  { b with mode := .inTemplate, templateModes := .inTemplate :: b.templateModes }

/-- Ends the innermost template. -/
def endTemplate (b : Builder) : Builder :=
  if b.inTemplate then
    let b := ((b.withStack (Stack.closeImplied impliedEndsInTemplate)).closeThrough
      "template").dropToBoundary
    { b with templateModes := b.templateModes.drop 1 }.resetMode
  else b

/-- Inserts one of `headNames`. -/
def insertInHead (b : Builder) (tag : Tag) : Builder :=
  match tag.name with
  | "title" => b.openText tag (.escapable tag.name)
  | "noframes" | "style" => b.openText tag (.raw tag.name)
  | "script" => b.openText tag .script
  | "template" => openTemplate b tag
  | _ => b.insertVoid tag

/-- Before the document. -/
def initial (b : Builder) : Token → Outcome
  | .space _ => .done b
  | .comment content => .done (b.appendCommentAt (.lastIn documentId) content)
  | .startTag _ | .endTag _ | .doctype _ | .text _ | .null | .malformed | .eof =>
    .again { b with legacy := true, mode := .beforeHtml }

/-- Opens the root element. -/
def openRoot (b : Builder) (attributes : List Attribute) : Builder :=
  (b.openElement "html" attributes).withMode .beforeHead

/-- Before the root element. -/
def beforeHtml (b : Builder) : Token → Outcome
  | .space _ => .done b
  | .comment content => .done (b.appendCommentAt (.lastIn documentId) content)
  | .startTag tag =>
    if tag.name == "html" then .done (openRoot b tag.attributes) else .again (openRoot b [])
  | .endTag name => if isFarEnd name then .again (openRoot b []) else .done b
  | .doctype _ | .text _ | .null | .malformed | .eof => .again (openRoot b [])

/-- Opens the head. -/
def openHead (b : Builder) (attributes : List Attribute) : Builder :=
  let (head, b) := b.insert .html "head" attributes
  { b.push head with head := some head, mode := .inHead }

/-- Before the head. -/
def beforeHead (b : Builder) : Token → Outcome
  | .space _ => .done b
  | .comment content => .done (b.appendComment content)
  | .startTag tag =>
    if tag.name == "html" then .done (b.addRootAttributes tag)
    else if tag.name == "head" then .done (openHead b tag.attributes)
    else .again (openHead b [])
  | .endTag name => if isFarEnd name then .again (openHead b []) else .done b
  | .doctype _ | .text _ | .null | .malformed | .eof => .again (openHead b [])

/-- In the head. -/
def inHead (b : Builder) (token : Token) : Outcome :=
  let leave := Outcome.again (b.pop.withMode .afterHead)
  match token with
  | .space t => .done (b.appendText t)
  | .comment content => .done (b.appendComment content)
  | .startTag tag =>
    if tag.name == "html" then .done (b.addRootAttributes tag)
    else if headNames.contains tag.name then .done (insertInHead b tag)
    else if tag.name == "noscript" then .done (b.openText tag (.raw tag.name))
    else if tag.name == "head" then .done b
    else leave
  | .endTag name =>
    if name == "head" then .done (b.pop.withMode .afterHead)
    else if name == "template" then .done (endTemplate b)
    else if isFarEnd name then leave
    else .done b
  | .doctype _ | .text _ | .null | .malformed | .eof => leave

/-- Between the head and the body. -/
def afterHead (b : Builder) (token : Token) : Outcome :=
  let enter := Outcome.again ((b.openImplied "body").withMode .inBody)
  match token with
  | .space t => .done (b.appendText t)
  | .comment content => .done (b.appendComment content)
  | .startTag tag =>
    if tag.name == "html" then .done (b.addRootAttributes tag)
    else if tag.name == "body" then .done ((b.openTag tag).withoutFrames.withMode .inBody)
    else if tag.name == "frameset" then .done ((b.openTag tag).withMode .inFrames)
    else if headNames.contains tag.name then
      match b.head with
      | some head =>
        .done ((insertInHead (b.push head) tag).withStack (Stack.remove head.id))
      | none => .done b
    else if tag.name == "head" then .done b
    else enter
  | .endTag name =>
    if name == "template" then .done (endTemplate b)
    else if isFarEnd name && name ≠ "head" then enter
    else .done b
  | .doctype _ | .text _ | .null | .malformed | .eof => enter

end ArticleMarkdown.Html.Rules
