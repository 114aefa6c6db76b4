import ArticleMarkdown.Html.Rules.Selection

/-!
# Reading documents

`Html.read` reads markup as a document. It never fails: markup of any kind stands for some
document. The tokens are read one after another, and each follows the rules of the mode that the
document is in; a token may change the mode and follow the rules of the new one.
-/

namespace ArticleMarkdown.Html

open Builder Rules

/-- What a token does by the rules of the mode. -/
def stepInMode (b : Builder) (token : Token) : Outcome :=
  match b.mode with
  | .initial => initial b token
  | .beforeHtml => beforeHtml b token
  | .beforeHead => beforeHead b token
  | .inHead => Rules.inHead b token
  | .afterHead => afterHead b token
  | .inBody => inBody b token
  | .inText => inText b token
  | .inTable => inTable b token
  | .inTableText => inTableText b token
  | .inCaption => inCaption b token
  | .inColumns => inColumns b token
  | .inTableBody => inTableBody b token
  | .inRow => inRow b token
  | .inCell => inCell b token
  | .inSelection => inSelection b token
  | .inSelectionInTable => inSelectionInTable b token
  | .inTemplate => Rules.inTemplate b token
  | .afterBody => afterBody b token
  | .afterRoot => afterRoot b token
  | .inFrames => .done b

/-- What a token does in a drawing or a formula. -/
def stepInForeign (b : Builder) (token : Token) : Outcome :=
  match token with
  | .null => .done (b.appendText ['\ufffd'])
  | .space t => .done (b.appendText t)
  | .text t => .done (b.withoutFrames.appendText t)
  | .comment content => .done (b.appendComment content)
  | .startTag tag =>
    if breaksOut tag then stepInMode (closeForeign b) token else .done (startForeign b tag)
  | .endTag name =>
    if name == "br" || name == "p" then stepInMode (closeForeign b) token
    else endForeign b name (stepInMode b token)
  | .doctype _ | .malformed | .eof => .done b

/-- What a token does. -/
def step (b : Builder) (token : Token) : Outcome :=
  if isForeign b.stack token then stepInForeign b token else stepInMode b token

/-- Follows the rules for a token until it is used up, at most `count` times. -/
def settle : (count : Nat) → Builder → Token → Builder
  | 0, b, _ => b
  | count + 1, b, token =>
    match step b token with
    | .done b => b
    | .again b => settle count b token

/-- How often the rules for a token may have to be followed: each time but a few closes elements of
a table or a template. -/
def settleBound (b : Builder) : Nat :=
  3 * (b.stack.length + b.templateModes.length) + 16

/-- Follows the rules for a token. -/
def accept (b : Builder) (token : Token) : Builder :=
  let drops := b.dropsLineFeed
  let b := { b with dropsLineFeed := false }
  match token with
  | .malformed => b
  | .doctype legacy => if b.mode = .initial then { b with legacy, mode := .beforeHtml } else b
  | .space ('\n' :: rest) =>
    if drops then if rest.isEmpty then b else settle (settleBound b) b (.space rest)
    else settle (settleBound b) b token
  | _ => settle (settleBound b) b token

/-- Whether sections of characters are read. -/
def isInForeign (b : Builder) : Bool :=
  b.stack.head?.any (·.space ≠ .html)

/-- Reads an input of fewer than `count` characters. -/
def readFrom : (count : Nat) → Builder → Text → Builder
  | 0, b, _ => b
  | count + 1, b, input =>
    let (tokens, rest) := Lexer.next b.content (isInForeign b) input
    let b := tokens.foldl accept { b with content := .markup }
    if input.isEmpty then b else readFrom count b rest

/-- Ends every line with a line feed. -/
def normalizeLines : Text → Text
  | [] => []
  | '\r' :: '\n' :: rest => '\n' :: normalizeLines rest
  | '\r' :: rest => '\n' :: normalizeLines rest
  | c :: rest => c :: normalizeLines rest

/-- Markup with uniform line ends and without the mark that may open a text. -/
def prepare (markup : Text) : Text :=
  normalizeLines (if markup.head? == some '\ufeff' then markup.drop 1 else markup)

/-- Reads markup as a document. -/
def read (markup : Text) : Node :=
  let input := prepare markup
  let b := readFrom (input.length + 2) {} input
  b.arena.toNode (b.arena.size + 1) documentId

end ArticleMarkdown.Html
