import ArticleMarkdown.Html.Token

/-!
# Open elements

The elements that have started and not ended form a stack, the current element first. Most rules of
reading ask whether an element is in scope: open, with no boundary above it.
-/

namespace ArticleMarkdown.Html

/-- An open element. -/
structure OpenElement where
  id : Nat
  /-- The number of the node that takes its children. -/
  inside : Nat
  space : ElementSpace
  name : String
  /-- Whether it is an annotation that holds markup of the document's language. -/
  embeds : Bool := false
  deriving DecidableEq, Repr

namespace OpenElement

/-- Whether the element is an HTML element of a name. -/
def isHtml (name : String) (e : OpenElement) : Bool :=
  e.space == .html && e.name == name

/-- Whether the element is an HTML element of one of several names. -/
def isAny (names : List String) (e : OpenElement) : Bool :=
  e.space == .html && names.contains e.name

/-- Whether the element is a formula's element that holds text. -/
def holdsFormulaText (e : OpenElement) : Bool :=
  e.space == .mathml && ["mi", "mo", "mn", "ms", "mtext"].contains e.name

/-- Whether the element is a drawing's element that holds HTML. -/
def holdsHtml (e : OpenElement) : Bool :=
  e.space == .svg && ["foreignObject", "desc", "title"].contains e.name

/-- Elements that end those formatting elements in them which nothing else ends. -/
def specialNames : List String :=
  ["address", "applet", "area", "article", "aside", "base", "basefont", "bgsound", "blockquote",
    "body", "br", "button", "caption", "center", "col", "colgroup", "dd", "details", "dir", "div",
    "dl", "dt", "embed", "fieldset", "figcaption", "figure", "footer", "form", "frame", "frameset",
    "h1", "h2", "h3", "h4", "h5", "h6", "head", "header", "hgroup", "hr", "html", "iframe", "img",
    "input", "isindex", "li", "link", "listing", "main", "marquee", "menu", "meta", "nav",
    "noembed", "noframes", "noscript", "object", "ol", "p", "param", "plaintext", "pre", "script",
    "search", "section", "select", "source", "style", "summary", "table", "tbody", "td", "template",
    "textarea", "tfoot", "th", "thead", "title", "tr", "track", "ul", "wbr", "xmp"]

/-- Whether the element is special. -/
def isSpecial (e : OpenElement) : Bool :=
  e.isAny specialNames

/-- Whether an element bounds every scope but that of tables. -/
def bounds (e : OpenElement) : Bool :=
  e.isAny ["applet", "caption", "html", "table", "td", "th", "marquee", "object", "template"] ||
    e.holdsFormulaText || e.holdsHtml

/-- Whether an element bounds the scope of list items. -/
def boundsItems (e : OpenElement) : Bool :=
  e.bounds || e.isAny ["ol", "ul"]

/-- Whether an element bounds the scope of paragraphs. -/
def boundsParagraphs (e : OpenElement) : Bool :=
  e.bounds || e.isHtml "button"

/-- Whether an element bounds the scope of tables. -/
def boundsTables (e : OpenElement) : Bool :=
  e.isAny ["html", "table", "template"]

/-- Whether an element bounds the scope of selections. -/
def boundsSelections (e : OpenElement) : Bool :=
  !e.isAny ["optgroup", "option"]

end OpenElement

/-- Elements whose end tags may be left out. -/
def impliedEnds : List String :=
  ["dd", "dt", "li", "option", "optgroup", "p", "rb", "rp", "rt", "rtc"]

/-- Elements whose end tags may be left out at the end of a template. -/
def impliedEndsInTemplate : List String :=
  impliedEnds ++ ["caption", "colgroup", "tbody", "td", "tfoot", "th", "thead", "tr"]

/-- Headings of all levels. -/
def headingNames : List String :=
  ["h1", "h2", "h3", "h4", "h5", "h6"]

/-- Open elements, the current one first. -/
abbrev Stack := List OpenElement

namespace Stack

/-- Whether an element satisfies `target` before one satisfies `boundary`. -/
def hasInScope (boundary target : OpenElement → Bool) : Stack → Bool
  | [] => false
  | e :: rest => target e || (!boundary e && hasInScope boundary target rest)

/-- Closes elements up to and including the first that satisfies `target`. -/
def closeThrough (target : OpenElement → Bool) (s : Stack) : Stack :=
  (s.dropWhile fun e => !target e).drop 1

/-- Closes elements above the first that satisfies `target`. -/
def closeUntil (target : OpenElement → Bool) (s : Stack) : Stack :=
  s.dropWhile fun e => !target e

/-- Closes elements whose end tags may be left out. -/
def closeImplied (names : List String) (s : Stack) : Stack :=
  s.dropWhile (OpenElement.isAny names)

/-- Closes elements whose end tags may be left out, other than those of one name. -/
def closeImpliedExcept (name : String) (s : Stack) : Stack :=
  s.closeImplied (impliedEnds.filter (· ≠ name))

/-- Whether an element of a name is open. -/
def hasOpen (name : String) (s : Stack) : Bool :=
  s.any (OpenElement.isHtml name)

/-- Whether the current element has a name. -/
def currentIs (name : String) (s : Stack) : Bool :=
  s.head?.any (OpenElement.isHtml name)

/-- Takes an element out of the stack. -/
def remove (id : Nat) (s : Stack) : Stack :=
  s.filter (·.id ≠ id)

/-- The body, if it is the second element that was opened. -/
def body? (s : Stack) : Option OpenElement :=
  match s.reverse with
  | _ :: second :: _ => if second.isHtml "body" then some second else none
  | _ => none

end Stack
end ArticleMarkdown.Html
