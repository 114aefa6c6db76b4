import ArticleMarkdown.Document.Node
import ArticleMarkdown.Markdown.Image
import ArticleMarkdown.Text.Basic

/-!
# Formulas

A rendered formula has two halves: one holds the rendered symbols and then the source, the other
the rendered symbols only. The source is what the first half has beyond the second. Where the two
disagree, it is the longest piece of the first half between long runs of whitespace.
-/

namespace ArticleMarkdown.Formula

/-- The class of formulas in a line. -/
def inlineClass : String := "katex--inline"

/-- The class of displayed formulas. -/
def displayClass : String := "katex--display"

/-- The class of the half that holds the source. -/
def sourceClass : String := "katex-mathml"

/-- The class of the half that holds symbols only. -/
def symbolsClass : String := "katex-html"

/-- Classes of elements that are no part of a formula's text. -/
def decorationClasses : List String :=
  ["katex-error", "MathJax_Preview", "mjx-assistive-mml"]

/-- Whether an element is no part of a formula's text. -/
def isDecoration (attributes : List Attribute) : Bool :=
  decorationClasses.any (Attribute.hasClass attributes)

/-- The least length of whitespace that separates pieces. -/
def separatorLength : Nat := 10

/-- The pieces between long runs of whitespace; `held` is the whitespace read last. -/
def piecesFrom (held : Text) : Text → List Text
  | [] => if held.length ≥ separatorLength then [[], []] else [held]
  | c :: rest =>
    if Text.isSpace c then piecesFrom (held ++ [c]) rest
    else
      let (piece, pieces) := match piecesFrom [] rest with
        | [] => ([], [])
        | piece :: pieces => (piece, pieces)
      if held.length ≥ separatorLength then [] :: (c :: piece) :: pieces
      else (held ++ c :: piece) :: pieces

/-- The pieces between long runs of whitespace. -/
def pieces (t : Text) : List Text :=
  piecesFrom [] t

/-- The last one of the longest texts. -/
def lastLongest (texts : List Text) : Text :=
  texts.foldl (fun best t => if best.length ≤ t.length then t else best) []

/-- The source of a formula from the texts of its halves. -/
def source (first second : Text) : Text :=
  let first := Text.stripInvisible first
  let rest := Text.trim ((Text.dropPrefix? (Text.stripInvisible second) first).getD [])
  if rest.isEmpty then lastLongest ((pieces first).map Text.trim) else rest

/-- The fragment of a formula. -/
def fragment (display : Bool) (source : Text) : Fragment :=
  if source.isEmpty then ∅
  else if display then Image.displayFormula source
  else Fragment.inlineText ('$' :: source ++ ['$'])

/-- The first node below that has a class. -/
def half? (name : String) (children : List Node) : Option Node :=
  (Node.subtrees children).find? (Node.hasClass name)

/-- The formula that an element with given attributes and children shows, if it shows one. -/
def fragment? (attributes : List Attribute) (children : List Node) : Option Fragment :=
  let display := Attribute.hasClass attributes displayClass
  if display || Attribute.hasClass attributes inlineClass then
    (half? sourceClass children).map fun first =>
      let second := ((half? symbolsClass children).map
        (Node.textContentWithout isDecoration)).getD []
      fragment display (source (first.textContentWithout isDecoration) second)
  else none

end ArticleMarkdown.Formula
