import ArticleMarkdown.Html.Rules.Body

/-!
# Tables

The rules in tables and their parts. What does not belong directly in a table follows the rules of
the body and is put before the table.
-/

namespace ArticleMarkdown.Html.Rules

open Builder

/-- Groups of rows. -/
def rowGroupNames : List String :=
  ["tbody", "tfoot", "thead"]

/-- Closes elements until the current one bounds a table. -/
def closeToTable (b : Builder) : Builder :=
  b.withStack (Stack.closeUntil OpenElement.boundsTables)

/-- Closes elements until the current one is a group of rows. -/
def closeToRowGroup (b : Builder) : Builder :=
  b.withStack (Stack.closeUntil (OpenElement.isAny (rowGroupNames ++ ["template", "html"])))

/-- Closes elements until the current one is a row. -/
def closeToRow (b : Builder) : Builder :=
  b.withStack (Stack.closeUntil (OpenElement.isAny ["tr", "template", "html"]))

/-- Whether an element of a name is open in the current table. -/
def hasInTable (b : Builder) (name : String) : Bool :=
  b.stack.hasInScope OpenElement.boundsTables (OpenElement.isHtml name)

/-- Follows the rules of the body, and puts what does not belong in a table before it. -/
def fosterInBody (b : Builder) (token : Token) : Outcome :=
  match inBody { b with fosters := true } token with
  | .done b => .done { b with fosters := false }
  | .again b => .again { b with fosters := false }

/-- Text in a table: directly in one of its parts it is collected first. -/
def textInTable (b : Builder) (token : Token) : Outcome :=
  if b.stack.head?.any (OpenElement.isAny ("table" :: "tr" :: rowGroupNames)) then
    .again { b with returnMode := b.mode, mode := .inTableText }
  else fosterInBody b token

/-- The start of an element in a table. -/
def startInTable (b : Builder) (tag : Tag) : Outcome :=
  let name := tag.name
  if name == "caption" then
    .done (((closeToTable b).pushBoundary.openTag tag).withMode .inCaption)
  else if name == "colgroup" then .done (((closeToTable b).openTag tag).withMode .inColumns)
  else if name == "col" then
    .again (((closeToTable b).openImplied "colgroup").withMode .inColumns)
  else if rowGroupNames.contains name then
    .done (((closeToTable b).openTag tag).withMode .inTableBody)
  else if name == "td" || name == "th" || name == "tr" then
    .again (((closeToTable b).openImplied "tbody").withMode .inTableBody)
  else if name == "table" then
    if hasInTable b "table" then .again (b.closeThrough "table").resetMode else .done b
  else if name == "style" || name == "script" || name == "template" then .done (insertInHead b tag)
  else if isHiddenInput tag then .done (b.insertVoid tag)
  else if name == "form" then
    if b.inTemplate || b.form.isSome then .done b
    else
      let (form, b) := b.insert .html name tag.attributes
      .done { b with form := some form.id }
  else fosterInBody b (.startTag tag)

/-- In a table. -/
def inTable (b : Builder) (token : Token) : Outcome :=
  match token with
  | .space _ | .text _ | .null => textInTable b token
  | .comment content => .done (b.appendComment content)
  | .startTag tag => startInTable b tag
  | .endTag name =>
    if name == "table" then
      .done (if hasInTable b "table" then (b.closeThrough "table").resetMode else b)
    else if ["body", "caption", "col", "colgroup", "html", "tbody", "td", "tfoot", "th", "thead",
        "tr"].contains name then .done b
    else if name == "template" then .done (endTemplate b)
    else fosterInBody b token
  | .eof => inBody b token
  | .doctype _ | .malformed => .done b

/-- Puts text before a table. -/
def fosterText (b : Builder) (token : Token) : Builder :=
  match fosterInBody b token with
  | .done b | .again b => b

/-- In text directly in a table: white space stays where it is, other text is put before the
table. -/
def inTableText (b : Builder) (token : Token) : Outcome :=
  let collected := b.tableText
  let flushed :=
    let b := { b with tableText := [] }
    let isText : Token → Bool
      | .text _ => true
      | _ => false
    let stay (b : Builder) : Token → Builder
      | .space t => b.appendText t
      | _ => b
    if collected.any isText then collected.foldl fosterText b else collected.foldl stay b
  match token with
  | .null => .done b
  | .space _ | .text _ => .done { b with tableText := collected ++ [token] }
  | .startTag _ | .endTag _ | .comment _ | .doctype _ | .malformed | .eof =>
    .again (flushed.withMode b.returnMode)

/-- In the caption of a table. -/
def inCaption (b : Builder) (token : Token) : Outcome :=
  let left := ((endContainer b "caption").dropToBoundary).withMode .inTable
  match token with
  | .startTag tag =>
    if ["caption", "col", "colgroup", "tbody", "td", "tfoot", "th", "thead", "tr"].contains
        tag.name then
      if hasInTable b "caption" then .again left else .done b
    else inBody b token
  | .endTag name =>
    if name == "caption" then .done (if hasInTable b "caption" then left else b)
    else if name == "table" then if hasInTable b "caption" then .again left else .done b
    else if ["body", "col", "colgroup", "html", "tbody", "td", "tfoot", "th", "thead",
        "tr"].contains name then .done b
    else inBody b token
  | .comment _ | .doctype _ | .space _ | .text _ | .null | .malformed | .eof => inBody b token

/-- In a group of columns. -/
def inColumns (b : Builder) (token : Token) : Outcome :=
  let isCurrent := b.stack.currentIs "colgroup"
  let leave := if isCurrent then Outcome.again (b.pop.withMode .inTable) else .done b
  match token with
  | .space t => .done (b.appendText t)
  | .comment content => .done (b.appendComment content)
  | .startTag tag =>
    if tag.name == "html" then .done (b.addRootAttributes tag)
    else if tag.name == "col" then .done (b.insertVoid tag)
    else if tag.name == "template" then .done (openTemplate b tag)
    else leave
  | .endTag name =>
    if name == "colgroup" then .done (if isCurrent then b.pop.withMode .inTable else b)
    else if name == "col" then .done b
    else if name == "template" then .done (endTemplate b)
    else leave
  | .eof => inBody b token
  | .doctype _ | .text _ | .null | .malformed => leave

/-- In a group of rows. -/
def inTableBody (b : Builder) (token : Token) : Outcome :=
  let leave :=
    let isOuter := OpenElement.isAny ["table", "tbody", "tfoot"]
    if b.stack.hasInScope OpenElement.boundsTables isOuter then
      Outcome.again ((closeToRowGroup b).pop.withMode .inTable)
    else .done b
  match token with
  | .startTag tag =>
    if tag.name == "tr" then .done (((closeToRowGroup b).openTag tag).withMode .inRow)
    else if tag.name == "th" || tag.name == "td" then
      .again (((closeToRowGroup b).openImplied "tr").withMode .inRow)
    else if ["caption", "col", "colgroup", "tbody", "tfoot", "thead"].contains tag.name then leave
    else inTable b token
  | .endTag name =>
    if rowGroupNames.contains name then
      .done (if hasInTable b name then (closeToRowGroup b).pop.withMode .inTable else b)
    else if name == "table" then leave
    else if ["body", "caption", "col", "colgroup", "html", "td", "th", "tr"].contains name then
      .done b
    else inTable b token
  | .comment _ | .doctype _ | .space _ | .text _ | .null | .malformed | .eof => inTable b token

/-- In a row. -/
def inRow (b : Builder) (token : Token) : Outcome :=
  let left := (closeToRow b).pop.withMode .inTableBody
  let leave := if hasInTable b "tr" then Outcome.again left else .done b
  match token with
  | .startTag tag =>
    if tag.name == "th" || tag.name == "td" then
      .done (((closeToRow b).openTag tag).pushBoundary.withMode .inCell)
    else if ["caption", "col", "colgroup", "tbody", "tfoot", "thead", "tr"].contains tag.name then
      leave
    else inTable b token
  | .endTag name =>
    if name == "tr" then .done (if hasInTable b "tr" then left else b)
    else if name == "table" then leave
    else if rowGroupNames.contains name then if hasInTable b name then leave else .done b
    else if ["body", "caption", "col", "colgroup", "html", "td", "th"].contains name then .done b
    else inTable b token
  | .comment _ | .doctype _ | .space _ | .text _ | .null | .malformed | .eof => inTable b token

/-- Closes the innermost cell. -/
def closeCell (b : Builder) : Builder :=
  (b.withStack fun s => (s.closeImplied impliedEnds).closeThrough
    (OpenElement.isAny ["td", "th"])).dropToBoundary.withMode .inRow

/-- In a cell. -/
def inCell (b : Builder) (token : Token) : Outcome :=
  match token with
  | .startTag tag =>
    if ["caption", "col", "colgroup", "tbody", "td", "tfoot", "th", "thead", "tr"].contains
        tag.name then
      if b.stack.hasInScope OpenElement.boundsTables (OpenElement.isAny ["td", "th"]) then
        .again (closeCell b)
      else .done b
    else inBody b token
  | .endTag name =>
    if name == "td" || name == "th" then
      .done (if hasInTable b name then (endContainer b name).dropToBoundary.withMode .inRow else b)
    else if ["body", "caption", "col", "colgroup", "html"].contains name then .done b
    else if ["table", "tbody", "tfoot", "thead", "tr"].contains name then
      if hasInTable b name then .again (closeCell b) else .done b
    else inBody b token
  | .comment _ | .doctype _ | .space _ | .text _ | .null | .malformed | .eof => inBody b token

end ArticleMarkdown.Html.Rules
