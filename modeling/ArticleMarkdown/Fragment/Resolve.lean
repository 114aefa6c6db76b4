import ArticleMarkdown.Fragment.Basic

/-!
# Trimming and resolving

Trimming takes inline separators and whitespace off both ends of a fragment. Block separators stay:
they are structure and not spacing. Before lines are marked, they have to become real blank lines: a
run of line breaks and block separators becomes exactly one blank line, as in the final layout;
inline separators survive unless a block separator absorbs them.
-/

namespace ArticleMarkdown

/-! ## The edges of a fragment -/

namespace Token

/-- The tokens without leading inline separators and whitespace. -/
def trimLeading : List Token → List Token
  | .inlineBreak :: rest => trimLeading rest
  | .text t :: rest =>
    match Text.trimStart t with
    | [] => trimLeading rest
    | kept => .text kept :: rest
  | tokens => tokens

/-- The tokens without trailing inline separators and whitespace. -/
def trimTrailing : List Token → List Token
  | [] => []
  | token :: rest =>
    match trimTrailing rest with
    | [] =>
      match token with
      | .inlineBreak => []
      | .blockBreak => [.blockBreak]
      | .text t =>
        match Text.trimEnd t with
        | [] => []
        | kept => [.text kept]
    | kept => token :: kept

end Token

/-- Inline separators and whitespace removed from both ends. -/
def Fragment.trim (f : Fragment) : Fragment :=
  ⟨Token.trimTrailing (Token.trimLeading f.tokens)⟩

/-! ## Block separators -/

/-- The characters that a block separator absorbs at the end of the text before it. -/
def Text.isSpacing (c : Char) : Bool :=
  c == ' ' || c == '\t' || c == '\n' || c == '\r'

namespace Token

/-- Tokens, last first, without what a block separator after them absorbs. -/
def cutSpacing : List Token → List Token
  | .text t :: before =>
    match Text.dropEndWhile Text.isSpacing t with
    | [] => cutSpacing before
    | kept => .text kept :: before
  | .inlineBreak :: before => cutSpacing before
  | before => before

/-- Adds text to tokens held last first. -/
def writeText (t : Text) : List Token → List Token
  | .text s :: before => .text (s ++ t) :: before
  | before => .text t :: before

/-- Resolves the tokens that follow `written` (held last first); `pending` tells that a block
separator waits for its text. -/
def resolveFrom (pending : Bool) (written : List Token) : List Token → List Token
  | [] => written.reverse
  | .blockBreak :: rest => resolveFrom true (written.dropWhile (· == .inlineBreak)) rest
  | .inlineBreak :: rest =>
    resolveFrom pending (if pending then written else .inlineBreak :: written) rest
  | .text t :: rest =>
    if t.isEmpty then resolveFrom pending written rest
    else if pending then
      let kept := cutSpacing written
      match t.dropWhile Text.isLineBreak with
      | [] => resolveFrom true kept rest
      | body =>
        let opened := if kept.isEmpty then kept else writeText ['\n', '\n'] kept
        resolveFrom false (writeText body opened) rest
    else resolveFrom false (writeText t written) rest

end Token

/-- Block separators turned into blank lines, and the edges trimmed. -/
def Fragment.resolve (f : Fragment) : Fragment :=
  Fragment.trim ⟨Token.resolveFrom false [] f.tokens⟩

end ArticleMarkdown
