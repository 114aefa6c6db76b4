import ArticleMarkdown.Fragment.Resolve

/-!
# The final layout

One pass turns the separators of a whole document into spacing. A run of line breaks and block
separators becomes one blank line. A run of inline separators becomes one space, unless the text
before it ends in whitespace or the text after it starts with whitespace or closing punctuation.
Nothing stands before the first text.
-/

namespace ArticleMarkdown

/-- Punctuation that takes no space before it. -/
def Text.isClosingPunctuation (c : Char) : Bool :=
  ".,;:!?)]\x7d。，；：！？、）】」".toList.contains c

/-- Whether an inline separator between two texts becomes a space. -/
def Text.needsSpace (before after : Text) : Bool :=
  match before.getLast?, after.head? with
  | some last, some first =>
    !Text.isSpace last && !Text.isSpace first && !Text.isClosingPunctuation first
  | _, _ => false

/-- What the final layout has written, and which separators wait for the next text. -/
structure Layout where
  written : Text
  pendingBlock : Bool
  pendingInline : Bool
  deriving DecidableEq, Repr

namespace Layout

/-- Nothing written, nothing waiting. -/
def start : Layout := ⟨[], false, false⟩

/-- The layout after one more token. -/
def write (layout : Layout) : Token → Layout
  | .blockBreak => ⟨layout.written, true, false⟩
  | .inlineBreak =>
    ⟨layout.written, layout.pendingBlock, layout.pendingInline || !layout.pendingBlock⟩
  | .text t =>
    if t.isEmpty then layout
    else if layout.pendingBlock then
      match t.dropWhile Text.isLineBreak with
      | [] => layout
      | body =>
        let kept := Text.dropEndWhile Text.isSpacing layout.written
        ⟨(if kept.isEmpty then body else kept ++ '\n' :: '\n' :: body), false, false⟩
    else
      let gap := if layout.pendingInline && Text.needsSpace layout.written t then [' '] else []
      ⟨layout.written ++ gap ++ t, false, false⟩

end Layout

/-- The final text of a fragment. -/
def Fragment.finalText (f : Fragment) : Text :=
  Text.trim (f.tokens.foldl Layout.write Layout.start).written

end ArticleMarkdown
