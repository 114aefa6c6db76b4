import ArticleMarkdown.Markdown.Block
import ArticleMarkdown.Markdown.Inline

/-!
# Rules

Which rule converts an element, by its exact name.
-/

namespace ArticleMarkdown

/-- The rules for elements. -/
inductive Rule where
  | heading (level : Nat)
  | paragraph
  | emphasis (kind : Emphasis)
  | link
  | image
  | list (kind : ListKind)
  | quotation
  | codeBlock
  | inlineCode
  | table
  | span
  | font
  | superscript
  | subscript
  | checkbox
  | drawing
  | center
  /-- Footnotes, or nothing but a block. -/
  | container
  | thematicBreak
  | raw (placement : Raw.Placement)
  /-- The element is dropped with its content. -/
  | discard
  /-- The content is kept and ends a block. -/
  | transparent
  deriving DecidableEq, Repr

/-- The rule for the elements of a name. -/
def Rule.ofName (name : String) : Rule :=
  match name with
  | "h1" => .heading 1
  | "h2" => .heading 2
  | "h3" => .heading 3
  | "h4" => .heading 4
  | "h5" => .heading 5
  | "h6" => .heading 6
  | "p" => .paragraph
  | "strong" | "b" => .emphasis .bold
  | "em" | "i" => .emphasis .italic
  | "u" | "ins" => .emphasis .underline
  | "s" | "del" | "strike" => .emphasis .strike
  | "a" => .link
  | "img" => .image
  | "ol" => .list .ordered
  | "ul" => .list .unordered
  | "blockquote" => .quotation
  | "pre" => .codeBlock
  | "code" => .inlineCode
  | "table" => .table
  | "span" => .span
  | "font" => .font
  | "sup" => .superscript
  | "sub" => .subscript
  | "input" => .checkbox
  | "svg" => .drawing
  | "center" => .center
  | "section" | "div" => .container
  | "hr" => .thematicBreak
  | "iframe" | "video" | "audio" => .raw .block
  | "kbd" | "mark" => .raw .inline
  | "script" | "style" | "button" | "noscript" => .discard
  | _ => .transparent

end ArticleMarkdown
