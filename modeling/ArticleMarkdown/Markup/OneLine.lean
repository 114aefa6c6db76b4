import ArticleMarkdown.Text.Basic

/-!
# Markup on one line

A blank line ends a raw HTML block in Markdown, so markup that is passed through is put on one
line. Whitespace with a line break between two tags vanishes; elsewhere whitespace around line
breaks becomes one space.
-/

namespace ArticleMarkdown.Markup

/-- A space or a tab. -/
def isBlankChar (c : Char) : Bool :=
  c == ' ' || c == '\t'

/-- Whether whitespace between two tags breaks the line right after spaces and tabs. -/
def breaksLine (gap : Text) : Bool :=
  match gap.dropWhile isBlankChar with
  | '\n' :: _ => true
  | '\r' :: '\n' :: _ => true
  | _ => false

/-- Removes line-breaking gaps between tags; `gap` is the whitespace read since the end of a tag,
if nothing else has followed that end. -/
def closeGapsFrom (gap : Option Text) : Text → Text
  | [] => gap.getD []
  | c :: rest =>
    match gap with
    | some held =>
      if Text.isSpace c then closeGapsFrom (some (held ++ [c])) rest
      else
        (if c == '<' && breaksLine held then [] else held) ++
          c :: closeGapsFrom (if c == '>' then some [] else none) rest
    | none => c :: closeGapsFrom (if c == '>' then some [] else none) rest

/-- Removes line-breaking whitespace between tags. -/
def closeGaps (t : Text) : Text :=
  closeGapsFrom none t

/-- Replaces whitespace around line breaks; `held` are the spaces and tabs read last, or nothing
while in whitespace that has broken the line. -/
def joinLinesFrom (held : Option Text) : Text → Text
  | [] => held.getD [' ']
  | '\r' :: '\n' :: rest => joinLinesFrom none rest
  | c :: rest =>
    if c == '\n' then joinLinesFrom none rest
    else if isBlankChar c then joinLinesFrom (held.map (· ++ [c])) rest
    else held.getD [' '] ++ c :: joinLinesFrom (some []) rest

/-- Each run of line breaks, with the spaces and tabs around it, as one space. -/
def joinLines (t : Text) : Text :=
  joinLinesFrom (some []) t

/-- The markup on one line. -/
def oneLine (t : Text) : Text :=
  joinLines (closeGaps (Text.trim t))

end ArticleMarkdown.Markup
