import ArticleMarkdown.Article.Convert
import ArticleMarkdown.Markdown.Convert

/-!
# Prose

Most of what an element can ask for stands in its attributes. Without them a paragraph is nothing
but a paragraph, a link leads nowhere, and most rules only wrap the converted content
(`draftNode_bare`). Such documents ask for no assets: their drafts settle, that is, have a result
that no answer can change.

Prose is made of elements without attributes that flow text, and of lists, code blocks and tables of
the usual shape. Prose asks for no assets, and each of its text nodes is meant to be read.
-/

namespace ArticleMarkdown

variable {α β γ : Type}

/-- A draft that makes no requests, and whose result has a property. -/
def Draft.Settles (draft : Draft α) (property : α → Prop) : Prop :=
  ∃ a, draft = .of a ∧ property a

namespace Draft.Settles

/-- A result that asks for nothing. -/
theorem of {a : α} {property : α → Prop} (holds : property a) : (Draft.of a).Settles property :=
  ⟨a, rfl, holds⟩

/-- A property that a change of the result keeps. -/
theorem map {draft : Draft α} {property : α → Prop} (settled : draft.Settles property)
    {f : α → β} {property' : β → Prop} (keeps : ∀ a, property a → property' (f a)) :
    (draft.map f).Settles property' := by
  obtain ⟨a, rfl, holds⟩ := settled
  exact ⟨f a, rfl, keeps a holds⟩

/-- A property that two results bring to their combination. -/
theorem combine {first : Draft α} {second : Draft β} {property : α → Prop} {property' : β → Prop}
    (settled : first.Settles property) (settled' : second.Settles property') {f : α → β → γ}
    {property'' : γ → Prop} (keeps : ∀ a b, property a → property' b → property'' (f a b)) :
    (Draft.combine f first second).Settles property'' := by
  obtain ⟨a, rfl, holds⟩ := settled
  obtain ⟨b, rfl, holds'⟩ := settled'
  exact ⟨f a b, rfl, keeps a b holds holds'⟩

end Draft.Settles

/-- A document without requests converts to its result and leaves the store as it is. -/
theorem Article.convertNodes_of_settles {s : Settings} {children : List Node}
    {property : Text → Prop} (settled : (draftDocument s children).Settles property)
    (fetcher : Option Asset.Fetcher) (store : Asset.Store) :
    ∃ markdown, Article.convertNodes fetcher s store children = (store, .ok markdown) ∧
      property markdown := by
  obtain ⟨markdown, isOf, holds⟩ := settled
  refine ⟨markdown, ?_, holds⟩
  rw [convertNodes, isOf]
  rfl

private theorem Link.form_bare (stripSearch : Bool) : Link.form stripSearch [] = .unlinked := by
  cases stripSearch <;> decide +kernel

/-- What a rule makes of the content of an element without attributes, if the rule takes the
content as it is converted anywhere. -/
def Rule.wrapBare? : Rule → Option (Fragment → Fragment)
  | .paragraph => some Fragment.blocked
  | .emphasis kind => some fun content => kind.wrap content.trim
  | .link => some Link.unlinked
  | .quotation => some Quotation.fragment
  | .span | .font => some id
  | .superscript => some (Script.wrap "sup")
  | .subscript => some (Script.wrap "sub")
  | .container | .transparent => some Fragment.closed
  | .heading _ | .image | .list _ | .codeBlock | .inlineCode | .table | .checkbox | .drawing
  | .center | .thematicBreak | .raw _ | .discard => none

/-- An element without attributes is converted by wrapping its content. -/
theorem draftNode_bare {name : String} {wrap : Fragment → Fragment}
    (wraps : (Rule.ofName name).wrapBare? = some wrap) (s : Settings) (centered : Bool)
    (space : ElementSpace) (children : List Node) :
    draftNode s centered (.element space name [] children) =
      (draftNodes s centered children).map wrap := by
  have formula : Formula.fragment? [] children = none := rfl
  have colored : Color.span? [] children = none := rfl
  have colored' : Color.font? [] children = none := rfl
  have reference : Note.reference? [] children = none := rfl
  have plain : Paragraph.form s [] children = .plain := rfl
  have unclassed : Attribute.hasClass [] Note.sectionClass = false := rfl
  rw [draftNode.eq_def]
  cases named : Rule.ofName name with
  | span | font =>
      rw [named] at wraps
      cases wraps
      simp only [named, formula, colored, colored', ite_self]
      rfl
  | paragraph | emphasis | link | quotation | superscript | subscript | container | transparent =>
      rw [named] at wraps
      cases wraps
      simp only [named, plain, Link.form_bare, reference, unclassed, Bool.false_eq_true, if_false]
  | _ =>
      rw [named] at wraps
      cases wraps

namespace Node

/-- No nodes have no text. -/
@[simp] theorem textContents_nil : textContents [] = [] := by
  rw [textContents, textContentsWithout]

/-- The text of nodes is that of each, one after another. -/
@[simp] theorem textContents_cons (node : Node) (rest : List Node) :
    textContents (node :: rest) = textContent node ++ textContents rest := by
  rw [textContents, textContentsWithout]
  rfl

/-- A text node is its text. -/
@[simp] theorem textContent_text (content : Text) : textContent (.text content) = content := by
  rw [textContent, textContentWithout]

/-- The text of an element is that of its children. -/
@[simp] theorem textContent_element (space : ElementSpace) (name : String)
    (attributes : List Attribute) (children : List Node) :
    textContent (.element space name attributes children) = textContents children := by
  rw [textContent, textContentWithout, if_neg Bool.false_ne_true]
  rfl

/-- The text of a nested document is that of its children. -/
@[simp] theorem textContent_document (children : List Node) :
    textContent (.document children) = textContents children := by
  rw [textContent, textContentWithout]
  rfl

/-- Elements that flow what stands in them, headings and inline code among them. -/
def flowNames : List String :=
  ["h1", "h2", "h3", "h4", "h5", "h6", "p", "strong", "b", "em", "i", "u", "ins", "s", "del",
    "strike", "a", "blockquote", "code", "span", "font", "sup", "sub", "div", "section"]

/-- Whether elements of a name flow their content; those without a rule of their own do. -/
def isFlow (name : String) : Bool :=
  flowNames.contains name || Rule.ofName name == .transparent

/-- Whether a node is a text. -/
def isText : Node → Bool
  | .text _ => true
  | .element _ _ _ _ | .comment _ | .doctype _ | .instruction _ _ | .document _ => false

/-- Whether a node is no element and shows nothing. -/
def isSilent : Node → Bool
  | .text content => Text.isBlank content
  | .comment _ | .doctype _ | .instruction _ _ => true
  | .element _ _ _ _ | .document _ => false

/-- Whether nodes are the content of a code block: texts, or one element that holds texts. -/
def areCode : List Node → Bool
  | [.element _ "code" attributes children] => attributes.isEmpty && children.all isText
  | nodes => nodes.all isText

mutual

/-- Whether a node is prose. -/
def isProse : Node → Bool
  | .element _ name attributes children =>
    attributes.isEmpty &&
      if isFlow name then areProse children
      else match Rule.ofName name with
        | .list _ => areItems children
        | .codeBlock => areCode children
        | .table => areRows false children
        | _ => false
  | .document children => areProse children
  | .text _ => true
  | .comment _ => true
  | .doctype _ => true
  | .instruction _ _ => true

/-- Whether nodes are prose. -/
def areProse : List Node → Bool
  | [] => true
  | node :: rest => isProse node && areProse rest

/-- Whether a node is an element without attributes that holds prose. -/
def holdsProse : Node → Bool
  | .element _ _ attributes children => attributes.isEmpty && areProse children
  | .text _ => false
  | .comment _ => false
  | .doctype _ => false
  | .instruction _ _ => false
  | .document _ => false

/-- Whether nodes are items of a list, further lists, and nothing else that shows. -/
def areItems : List Node → Bool
  | [] => true
  | node :: rest =>
    (if node.name? == some "li" then holdsProse node
      else if (node.name?.bind ListKind.ofName?).isSome then isProse node
      else isSilent node) && areItems rest

/-- Whether nodes are rows of a table, groups of rows unless they stand in one, and nothing else
that shows. -/
def areRows (grouped : Bool) : List Node → Bool
  | [] => true
  | node :: rest =>
    (match node with
      | .element _ name attributes children =>
        attributes.isEmpty &&
          (if name == "tr" then areCells children
          else Table.isRowGroup name && !grouped && areRows true children)
      | other => isSilent other) && areRows grouped rest

/-- Whether nodes are cells of a row and nothing else that shows. -/
def areCells : List Node → Bool
  | [] => true
  | node :: rest =>
    (if node.name?.any Table.isCell then holdsProse node else isSilent node) && areCells rest

end

end Node
end ArticleMarkdown
