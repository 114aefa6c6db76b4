import ArticleMarkdown.Document.Node
import ArticleMarkdown.Fragment.Resolve

/-!
# Code

Code is shown between fences of backticks, longer than any run of backticks inside. A code block
is written in one of two ways: as one text, or as a numbered list with a line in each item.
-/

namespace ArticleMarkdown.Code

/-- The length of the longest run of backticks. -/
def longestRun (t : Text) : Nat :=
  ((Text.splitBy (· != '`') t).map List.length).foldl max 0

/-- What the class that tells a language starts with. -/
def languageMark : Text := "language-".toList

/-- The language of code with given classes: told by a class of its own, or the class after the
mark of highlighted code. -/
def language (classes : List Text) : Text :=
  match classes.findSome? (Text.dropPrefix? languageMark) with
  | some (c :: rest) => c :: rest
  | _ =>
    match classes with
    | first :: second :: _ => if first == "hljs".toList then second else []
    | _ => []

/-- The text without one line break at its end. -/
def dropFinalBreak (t : Text) : Text :=
  (Text.dropLast? '\n' t).getD t

/-- The text of code with given children: the items of a numbered list, or all of it. -/
def source (children : List Node) : Text :=
  match children.find? (Node.isElement "ol") with
  | some list =>
    Text.join ['\n'] ((list.children.filter (Node.isElement "li")).map Node.textContent)
  | none => dropFinalBreak (Node.textContents children)

/-- A fenced block of code. -/
def fenced (source language : Text) : Text :=
  let fence := Text.repeated (max (longestRun source) 2 + 1) '`'
  fence ++ language ++ '\n' :: source ++ '\n' :: fence

/-- The fragment of a code block with given children. -/
def block (children : List Node) : Fragment :=
  match (Node.subtrees children).find? (Node.isElement "code") with
  | some code =>
    Fragment.blockText
      (fenced (source code.children) (language (Attribute.classes code.attributes)))
  | none => Fragment.blockText (fenced (dropFinalBreak (Node.textContents children)) [])

/-- Text as inline code. -/
def span (t : Text) : Text :=
  let run := longestRun t
  if run = 0 then '`' :: t ++ ['`']
  else
    let fence := Text.repeated (run + 1) '`'
    fence ++ ' ' :: t ++ ' ' :: fence

/-- The fragment of inline code with given children. -/
def inline (children : List Node) : Fragment :=
  let text := (Node.textContents children).map fun c => if Text.isLineBreak c then ' ' else c
  if Text.isBlank text then ∅ else Fragment.inlineText (span text)

end ArticleMarkdown.Code
