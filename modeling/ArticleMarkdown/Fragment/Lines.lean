import ArticleMarkdown.Fragment.Basic

/-!
# Marking the lines of a fragment

Lists, quotations and headings put a mark in front of each line of their content. Lines are those
of the literal text; a marked line loses its leading inline separators, since it no longer starts
a line.
-/

namespace ArticleMarkdown

namespace Token

/-- A text token, unless the text is empty. -/
def ofText? (t : Text) : List Token :=
  if t.isEmpty then [] else [.text t]

/-- The lines of a token sequence as the first line and the further ones. -/
def lines : List Token → List Token × List (List Token)
  | [] => ([], [])
  | .text t :: rest =>
    let (first, others) := lines rest
    match Text.splitOn '\n' t with
    | [] => (first, others)
    | piece :: pieces =>
      match pieces.reverse with
      | [] => (ofText? piece ++ first, others)
      | last :: middle =>
        (ofText? piece, middle.reverse.map ofText? ++ (ofText? last ++ first) :: others)
  | separator :: rest =>
    let (first, others) := lines rest
    (separator :: first, others)

end Token

namespace Fragment

/-- The lines of the fragment, each with its separators. -/
def lines (f : Fragment) : List Fragment :=
  let (first, others) := Token.lines f.tokens
  (first :: others).map Fragment.mk

/-- The line with `mark` in front. -/
def marked (mark : Text) (line : Fragment) : Fragment :=
  if mark.isEmpty then line
  else ofText mark ++ ⟨line.tokens.dropWhile (· == .inlineBreak)⟩

/-- Marks lines numbered from `index` on, each preceded by a line break. -/
def markFollowing (mark : Nat → Text → Text) : (index : Nat) → List Fragment → Fragment
  | _, [] => ∅
  | index, line :: rest =>
    ofText ['\n'] ++ marked (mark index line.plainText) line ++ markFollowing mark (index + 1) rest

/-- Each line marked with `mark i text`, given its number and its literal text. -/
def markLines (mark : Nat → Text → Text) (f : Fragment) : Fragment :=
  match f.lines with
  | [] => ∅
  | first :: rest => marked (mark 0 first.plainText) first ++ markFollowing mark 1 rest

end Fragment
end ArticleMarkdown
