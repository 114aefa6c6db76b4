import ArticleMarkdown.Html.Rules.Table

/-!
# Selections and templates

A selection holds options and text only. A template takes what is in it out of the document, and
follows the rules of the mode that its first content calls for.
-/

namespace ArticleMarkdown.Html.Rules

open Builder

/-- Whether a selection is in scope. -/
def hasSelection (b : Builder) : Bool :=
  b.stack.hasInScope OpenElement.boundsSelections (OpenElement.isHtml "select")

/-- Ends the selection. -/
def endSelection (b : Builder) : Builder :=
  (b.closeThrough "select").resetMode

/-- Ends a group of options, with the option that is current in it. -/
def endOptionGroup (b : Builder) : Builder :=
  match b.stack with
  | current :: below =>
    if current.isHtml "option" && Stack.currentIs "optgroup" below then b.pop.pop
    else b.popIf "optgroup"
  | [] => b

/-- In a selection. -/
def inSelection (b : Builder) (token : Token) : Outcome :=
  match token with
  | .space t | .text t => .done (b.appendText t)
  | .comment content => .done (b.appendComment content)
  | .startTag tag =>
    let name := tag.name
    if name == "html" then .done (b.addRootAttributes tag)
    else if name == "option" then .done ((b.popIf "option").openTag tag)
    else if name == "optgroup" then .done (((b.popIf "option").popIf "optgroup").openTag tag)
    else if name == "hr" then .done (((b.popIf "option").popIf "optgroup").insertVoid tag)
    else if name == "select" then .done (if hasSelection b then endSelection b else b)
    else if name == "input" || name == "keygen" || name == "textarea" then
      if hasSelection b then .again (endSelection b) else .done b
    else if name == "script" || name == "template" then .done (insertInHead b tag)
    else .done b
  | .endTag name =>
    if name == "optgroup" then .done (endOptionGroup b)
    else if name == "option" then .done (b.popIf "option")
    else if name == "select" then .done (if hasSelection b then endSelection b else b)
    else if name == "template" then .done (endTemplate b)
    else .done b
  | .eof => inBody b token
  | .doctype _ | .null | .malformed => .done b

/-- In a selection in a table. -/
def inSelectionInTable (b : Builder) (token : Token) : Outcome :=
  let ends (name : String) : Bool :=
    ["caption", "table", "tbody", "tfoot", "thead", "tr", "td", "th"].contains name
  match token with
  | .startTag tag => if ends tag.name then .again (endSelection b) else inSelection b token
  | .endTag name =>
    if ends name then if hasInTable b name then .again (endSelection b) else .done b
    else inSelection b token
  | .comment _ | .doctype _ | .space _ | .text _ | .null | .malformed | .eof =>
    inSelection b token

/-- In a template, before content that calls for a mode. -/
def inTemplate (b : Builder) (token : Token) : Outcome :=
  let become (mode : Mode) : Outcome :=
    .again { b with mode, templateModes := mode :: b.templateModes.drop 1 }
  match token with
  | .space _ | .text _ | .null | .comment _ | .doctype _ | .malformed => inBody b token
  | .startTag tag =>
    let name := tag.name
    if headNames.contains name then .done (insertInHead b tag)
    else if (["caption", "colgroup"] ++ rowGroupNames).contains name then become .inTable
    else if name == "col" then become .inColumns
    else if name == "tr" then become .inTableBody
    else if name == "td" || name == "th" then become .inRow
    else become .inBody
  | .endTag name => .done (if name == "template" then endTemplate b else b)
  | .eof => endOfInputInTemplate b

end ArticleMarkdown.Html.Rules
