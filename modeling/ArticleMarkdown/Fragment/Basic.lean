import ArticleMarkdown.Text.Basic

/-!
# Fragments

A fragment is Markdown text with the spacing left open: where a blank line or a space belongs,
it holds a separator, and only the final layout decides what the separator becomes. Fragments
are joined with `++`, which lets text that meets text grow together, so that no two text tokens
stand side by side.
-/

namespace ArticleMarkdown

/-- One piece of a fragment. -/
inductive Token where
  | text (text : Text)
  /-- A blank line belongs here. -/
  | blockBreak
  /-- A space belongs here, unless a line starts here. -/
  | inlineBreak
  deriving DecidableEq, Repr, Inhabited

/-- A sequence of tokens. -/
structure Fragment where
  tokens : List Token
  deriving DecidableEq, Repr, Inhabited

namespace Token

/-- The literal text of a token; separators have none. -/
def literal : Token → Text
  | .text t => t
  | .blockBreak | .inlineBreak => []

/-- A token that shows nothing but whitespace. -/
def isBlank (token : Token) : Bool :=
  Text.isBlank token.literal

/-- Concatenation in which a final text and an initial text become one token. -/
def join : List Token → List Token → List Token
  | [], right => right
  | [.text s], .text t :: right => .text (s ++ t) :: right
  | token :: left, right => token :: join left right

end Token

namespace Fragment

/-- The fragment without tokens. -/
def empty : Fragment := ⟨[]⟩

instance : EmptyCollection Fragment := ⟨empty⟩

instance : Append Fragment := ⟨fun left right => ⟨Token.join left.tokens right.tokens⟩⟩

/-- A fragment of literal text; empty when the text is. -/
def ofText (t : Text) : Fragment :=
  if t.isEmpty then ∅ else ⟨[.text t]⟩

/-- A single block separator. -/
def blockBreak : Fragment := ⟨[.blockBreak]⟩

/-- A single inline separator. -/
def inlineBreak : Fragment := ⟨[.inlineBreak]⟩

/-- The content between inline separators. -/
def inlined (content : Fragment) : Fragment :=
  inlineBreak ++ content ++ inlineBreak

/-- The content between block separators. -/
def blocked (content : Fragment) : Fragment :=
  blockBreak ++ content ++ blockBreak

/-- Literal text between inline separators. -/
def inlineText (t : Text) : Fragment :=
  inlined (ofText t)

/-- Literal text between block separators. -/
def blockText (t : Text) : Fragment :=
  blocked (ofText t)

/-- Whether there are no tokens. -/
def isEmpty (f : Fragment) : Bool :=
  f.tokens.isEmpty

/-- Whether no token shows more than whitespace. -/
def isBlank (f : Fragment) : Bool :=
  f.tokens.all Token.isBlank

/-- The literal text, separators left out. -/
def plainText (f : Fragment) : Text :=
  f.tokens.flatMap Token.literal

/-- Every separator weakened to an inline separator. -/
def flattened (f : Fragment) : Fragment :=
  ⟨f.tokens.map fun
    | .text t => .text t
    | .blockBreak | .inlineBreak => .inlineBreak⟩

end Fragment
end ArticleMarkdown
