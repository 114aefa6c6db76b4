import ArticleMarkdown.Document.Node

/-!
# Tokens of markup

Markup is read as a sequence of tokens. What a token does to the document depends on where it
stands; see `Html.Builder`.
-/

namespace ArticleMarkdown.Html

/-- The tag that starts an element. -/
structure Tag where
  name : String
  attributes : List Attribute := []
  /-- Whether the tag closes itself. Elements of markup languages other than this one end there. -/
  selfClosing : Bool := false
  deriving DecidableEq, Repr, Inhabited

/-- A piece of markup with one meaning. -/
inductive Token where
  | startTag (tag : Tag)
  | endTag (name : String)
  | comment (content : Text)
  /-- A document type; `legacy` if it asks for the layout of old documents. -/
  | doctype (legacy : Bool)
  /-- White space that no other text precedes. -/
  | space (content : Text)
  /-- Text that starts with something other than white space. -/
  | text (content : Text)
  | null
  /-- Markup that stands for nothing. -/
  | malformed
  | eof
  deriving DecidableEq, Repr, Inhabited

/-- White space between tags, attributes and words. -/
def isSpace (c : Char) : Bool :=
  c == ' ' || c == '\n' || c == '\t' || c == '\r' || c == '\x0c'

namespace Token

/-- The tokens of a run of text: its leading white space and the rest. -/
def ofText (t : Text) : List Token :=
  let start := t.takeWhile isSpace
  let rest := t.dropWhile isSpace
  (if start.isEmpty then [] else [.space start]) ++ (if rest.isEmpty then [] else [.text rest])

/-- The tokens of text that may hold null characters. -/
def ofTextWithNulls (t : Text) : List Token :=
  (List.intersperse [Token.null] ((Text.splitOn '\x00' t).map ofText)).flatten

end Token
end ArticleMarkdown.Html
