import ArticleMarkdown.Proofs.Document.Prose
import ArticleMarkdown.Proofs.Markdown.Ink

/-!
# Visible text

The Markdown of prose holds all that is seen of its text, in order
(`Article.markdown_holds_visible`). For each part of a document, the ink of its draft holds what is
seen of the part; the induction follows the functions that draft them.
-/

namespace ArticleMarkdown

namespace Node

private theorem visible_of_silent {node : Node} (silent : node.isSilent = true) :
    Text.visible node.textContent = [] := by
  cases node with
  | text content =>
      rw [textContent_text]
      exact Text.visible_of_blank silent
  | element | document => cases silent
  | comment | doctype | instruction =>
      rw [textContent, textContentWithout]
      rfl

private theorem prose_of_silent {node : Node} (silent : node.isSilent = true) :
    node.isProse = true := by
  cases node with
  | element | document => cases silent
  | text | comment | doctype | instruction => rw [isProse]

/-- A link that headings leave out shows nothing. -/
theorem visible_of_emptyLink {node : Node} (empty : Heading.isEmptyLink node = true) :
    Text.visible node.textContent = [] := by
  simp only [Heading.isEmptyLink, Bool.and_eq_true] at empty
  rw [← Text.ink_stripInvisible, Text.ink_eq_nil]
  exact empty.1.2

section Texts

variable {nodes : List Node} (texts : nodes.all isText = true)

include texts

private theorem find?_of_texts (name : String) : nodes.find? (isElement name) = none := by
  rw [List.find?_eq_none]
  intro node member isElement
  have isText := List.all_eq_true.mp texts node member
  cases node with
  | text => cases isElement
  | element | comment | doctype | instruction | document => cases isText

private theorem subtrees_of_texts : subtrees nodes = nodes := by
  induction nodes with
  | nil => rw [subtrees]
  | cons node rest ih =>
      rw [List.all_cons, Bool.and_eq_true] at texts
      cases node with
      | text content => rw [subtrees, subtree, ih texts.2, List.singleton_append]
      | element | comment | doctype | instruction | document => cases texts.1

end Texts

/-- The rule of flow elements that only wrap their content, or are headings or inline code. -/
theorem rule_of_flow {name : String} (flow : isFlow name = true) :
    (Rule.ofName name).wrapBare?.isSome ∨ (∃ level, Rule.ofName name = .heading level) ∨
      Rule.ofName name = .inlineCode := by
  rw [isFlow, Bool.or_eq_true, beq_iff_eq] at flow
  rcases flow with known | unknown
  · simp only [flowNames, List.contains_eq_mem, List.mem_cons, List.not_mem_nil, or_false,
      decide_eq_true_eq] at known
    rcases known with rfl | rfl | rfl | rfl | rfl | rfl | rfl | rfl | rfl | rfl | rfl | rfl | rfl |
      rfl | rfl | rfl | rfl | rfl | rfl | rfl | rfl | rfl | rfl | rfl | rfl <;>
      first
      | exact .inl rfl
      | exact .inr (.inl ⟨_, rfl⟩)
      | exact .inr (.inr rfl)
  · rw [unknown]
    exact .inl rfl

private theorem isFlow_of_isCell {name : String} (cell : Table.isCell name = true) :
    isFlow name = true := by
  rw [Table.isCell, Bool.or_eq_true, beq_iff_eq, beq_iff_eq] at cell
  rcases cell with rfl | rfl <;> rfl

private theorem isFlow_of_isRowGroup {name : String} (group : Table.isRowGroup name = true) :
    isFlow name = true := by
  simp only [Table.isRowGroup, Bool.or_eq_true, beq_iff_eq] at group
  rcases group with (rfl | rfl) | rfl <;> rfl

private theorem prose_of_cells {nodes : List Node} (cells : areCells nodes = true) :
    areProse nodes = true := by
  induction nodes with
  | nil => rw [areProse]
  | cons node rest ih =>
      rw [areCells, Bool.and_eq_true] at cells
      rw [areProse, ih cells.2, Bool.and_true]
      by_cases cell : node.name?.any Table.isCell
      · rw [if_pos cell] at cells
        cases node with
        | element space name attributes children =>
            rw [holdsProse] at cells
            rw [isProse, if_pos (isFlow_of_isCell cell)]
            exact cells.1
        | text | comment | doctype | instruction | document => cases cell
      · rw [if_neg cell] at cells
        exact prose_of_silent cells.1

/-- The rows of a table are prose, if nothing makes a table of them. -/
theorem prose_of_rows (grouped : Bool) :
    ∀ nodes : List Node, areRows grouped nodes = true → areProse nodes = true
  | [], _ => by rw [areProse]
  | .element space name attributes children :: rest, rows => by
      rw [areRows, Bool.and_eq_true, Bool.and_eq_true] at rows
      rw [areProse, prose_of_rows grouped rest rows.2, Bool.and_true]
      by_cases row : name == "tr"
      · rw [if_pos row] at rows
        rw [beq_iff_eq.mp row, isProse, rows.1.1, prose_of_cells rows.1.2]
        rfl
      · rw [if_neg row, Bool.and_eq_true, Bool.and_eq_true] at rows
        obtain ⟨⟨bare, ⟨group, _⟩, inner⟩, _⟩ := rows
        rw [isProse, if_pos (isFlow_of_isRowGroup group), bare, prose_of_rows true children inner,
          Bool.and_self]
  | .text content :: rest, rows
  | .comment content :: rest, rows
  | .doctype name :: rest, rows
  | .instruction target data :: rest, rows
  | .document children :: rest, rows => by
      rw [areRows, Bool.and_eq_true] at rows
      · rw [areProse, prose_of_rows grouped rest rows.2, Bool.and_true]
        exact prose_of_silent rows.1
      · nofun

end Node

namespace Code

private theorem ink_block {children : List Node} (code : Node.areCode children = true) :
    (Text.ink (Node.textContents children)).Sublist (block children).ink := by
  have shown : ∀ source language, (Text.ink source).Sublist
      (Fragment.blockText (fenced (dropFinalBreak source) language)).ink := by
    intro source language
    rw [Fragment.blockText, Fragment.ink_blocked, Fragment.ink_ofText, ← ink_dropFinalBreak source]
    exact (sublist_fenced _ language).filter _
  rw [Node.areCode.eq_def] at code
  split at code
  · next space attributes kids =>
    rw [Bool.and_eq_true] at code
    have found : (Node.subtrees [.element space "code" attributes kids]).find?
        (Node.isElement "code") = some (.element space "code" attributes kids) := by
      rw [Node.subtrees, Node.subtree]
      rfl
    simp only [block, found]
    rw [Node.textContents_cons, Node.textContent_element, Node.textContents_nil, List.append_nil,
      Node.children, source, Node.find?_of_texts code.2 "ol"]
    exact shown _ _
  · rw [block, Node.subtrees_of_texts code, Node.find?_of_texts code "code"]
    exact shown _ _

end Code

namespace Draft

/-- The draft settles, and its ink holds what is seen of a text. -/
def Shows (draft : Draft Fragment) (t : Text) : Prop :=
  draft.Settles fun f => (Text.visible t).Sublist f.ink

namespace Shows

variable {draft first second : Draft Fragment} {t u : Text}

private theorem map (shows : draft.Shows t) {f : Fragment → Fragment}
    (keeps : ∀ content : Fragment, content.ink.Sublist (f content).ink) : (draft.map f).Shows t :=
  Settles.map shows fun content held => held.trans (keeps content)

private theorem append (shows : first.Shows t) (shows' : second.Shows u) :
    (first.append second).Shows (t ++ u) := by
  refine Settles.combine shows shows' fun f g held held' => ?_
  rw [Text.visible_append, Fragment.ink_append]
  exact held.append held'

private theorem skip (nothing : Text.visible t = []) (shows : draft.Shows u) :
    draft.Shows (t ++ u) := by
  rw [Shows, Text.visible_append, nothing, List.nil_append]
  exact shows

private theorem of_ink {f : Fragment} (held : (Text.ink t).Sublist f.ink) : (Draft.of f).Shows t :=
  .of ((Text.visible_sublist_ink t).trans held)

end Shows
end Draft

mutual

/-- The draft of a node of prose shows its text. -/
theorem draftNode_shows (s : Settings) (centered : Bool) :
    ∀ node : Node, node.isProse = true → (draftNode s centered node).Shows node.textContent
  | .text content, _ => by
      rw [draftNode, Node.textContent_text]
      refine .of_ink ?_
      rw [Plain.ink_fragment]
  | .element space name attributes children, prose => by
      rw [Node.isProse, Bool.and_eq_true, List.isEmpty_iff] at prose
      obtain ⟨rfl, prose⟩ := prose
      rw [Node.textContent_element]
      by_cases flow : Node.isFlow name
      · rw [if_pos flow] at prose
        rcases Node.rule_of_flow flow with wraps | ⟨level, heading⟩ | code
        · obtain ⟨wrap, wraps⟩ := Option.isSome_iff_exists.mp wraps
          rw [draftNode_bare wraps]
          exact (draftNodes_shows s centered children prose).map fun content =>
            Rule.ink_wrapBare wraps content
        · rw [draftNode.eq_def]
          simp only [heading]
          exact (draftHeading_shows s centered children prose).map (Heading.ink_fragment level)
        · rw [draftNode.eq_def]
          simp only [code]
          exact .of_ink (Code.ink_inline children)
      · rw [if_neg flow] at prose
        rw [draftNode.eq_def]
        cases named : Rule.ofName name with
        | list kind =>
            simp only [named] at prose ⊢
            refine (draftItems_shows s.descend centered kind _ children prose).map fun content => ?_
            rw [Fragment.ink_append]
            exact List.sublist_append_right _ _
        | codeBlock =>
            simp only [named] at prose ⊢
            exact .of_ink (Code.ink_block prose)
        | table =>
            simp only [named] at prose ⊢
            split
            · refine Draft.Settles.map (draftRows_shows s centered false children prose)
                fun rows held => ?_
              exact held.trans (Table.ink_fragment? rows)
            · exact (draftNodes_shows s centered children
                (Node.prose_of_rows false children prose)).map
                fun content => by rw [Fragment.ink_closed]
        | _ =>
            simp only [named] at prose
            cases prose
  | .document children, prose => by
      rw [Node.isProse] at prose
      rw [draftNode, Node.textContent_document]
      exact draftNodes_shows s centered children prose
  | .comment content, _ => by
      rw [draftNode]
      exact .of (List.nil_sublist _)
  | .doctype name, _ => by
      rw [draftNode]
      exact .of (List.nil_sublist _)
  | .instruction target data, _ => by
      rw [draftNode]
      exact .of (List.nil_sublist _)

private theorem draftNodes_shows (s : Settings) (centered : Bool) :
    ∀ nodes : List Node, Node.areProse nodes = true →
      (draftNodes s centered nodes).Shows (Node.textContents nodes)
  | [], _ => by
      rw [draftNodes, Node.textContents_nil]
      exact .of (List.nil_sublist _)
  | node :: rest, prose => by
      rw [Node.areProse, Bool.and_eq_true] at prose
      rw [draftNodes, Node.textContents_cons]
      exact (draftNode_shows s centered node prose.1).append
        (draftNodes_shows s centered rest prose.2)

/-- The draft of the content of a heading shows its text. -/
theorem draftHeading_shows (s : Settings) (centered : Bool) :
    ∀ nodes : List Node, Node.areProse nodes = true →
      (draftHeading s centered nodes).Shows (Node.textContents nodes)
  | [], _ => by
      rw [draftHeading, Node.textContents_nil]
      exact .of (List.nil_sublist _)
  | node :: rest, prose => by
      rw [Node.areProse, Bool.and_eq_true] at prose
      rw [draftHeading, Node.textContents_cons]
      split
      · next empty =>
        exact .skip (Node.visible_of_emptyLink empty) (draftHeading_shows s centered rest prose.2)
      · exact (draftNode_shows s centered node prose.1).append
          (draftHeading_shows s centered rest prose.2)

/-- The draft of the children of an element shows its text. -/
theorem draftContent_shows (s : Settings) (centered : Bool) :
    ∀ node : Node, node.holdsProse = true → (draftContent s centered node).Shows node.textContent
  | .element space name attributes children, prose => by
      rw [Node.holdsProse, Bool.and_eq_true] at prose
      rw [draftContent, Node.textContent_element]
      exact draftNodes_shows s centered children prose.2
  | .text _, prose | .comment _, prose | .doctype _, prose | .instruction _ _, prose
  | .document _, prose => by
      rw [Node.holdsProse] at prose
      cases prose

/-- The drafts of items show their text. -/
theorem draftItems_shows (s : Settings) (centered : Bool) (kind : ListKind) (number : Nat) :
    ∀ nodes : List Node, Node.areItems nodes = true →
      (draftItems s centered kind number nodes).Shows (Node.textContents nodes)
  | [], _ => by
      rw [draftItems, Node.textContents_nil]
      exact .of (List.nil_sublist _)
  | node :: rest, items => by
      rw [Node.areItems, Bool.and_eq_true] at items
      rw [draftItems, Node.textContents_cons]
      by_cases item : node.name? == some "li"
      · rw [if_pos item] at items
        rw [if_pos item]
        refine .append ?_ (draftItems_shows s centered kind _ rest items.2)
        refine (draftContent_shows s centered node items.1).map fun content => ?_
        rw [Fragment.ink_closed]
        exact kind.ink_item number content
      · rw [if_neg item] at items
        rw [if_neg item]
        by_cases list : (node.name?.bind ListKind.ofName?).isSome
        · rw [if_pos list] at items
          rw [if_pos list]
          refine .append ?_ (draftItems_shows s centered kind number rest items.2)
          refine (draftNode_shows s centered node items.1).map fun content => ?_
          rw [Fragment.ink_closed]
          exact kind.ink_nested content
        · rw [if_neg list] at items
          rw [if_neg list]
          exact .skip (Node.visible_of_silent items.1)
            (draftItems_shows s centered kind number rest items.2)

/-- The rows of a table hold its text. -/
theorem draftRows_shows (s : Settings) (centered grouped : Bool) :
    ∀ nodes : List Node, Node.areRows grouped nodes = true →
      (draftRows s centered grouped nodes).Settles fun rows =>
        (Text.visible (Node.textContents nodes)).Sublist (Text.ink (Table.rowsText rows))
  | [], _ => by
      rw [draftRows, Node.textContents_nil]
      exact .of (List.nil_sublist _)
  | .element space name attributes children :: rest, rows => by
      rw [Node.areRows, Bool.and_eq_true, Bool.and_eq_true] at rows
      obtain ⟨⟨bare, inner⟩, rows⟩ := rows
      have others := draftRows_shows s centered grouped rest rows
      simp only [draftRows]
      rw [Node.textContents_cons, Node.textContent_element, Text.visible_append]
      by_cases row : name == "tr"
      · rw [if_pos row] at inner ⊢
        refine (draftCells_shows s centered children inner).combine others
          fun cells below held held' => ?_
        rw [Table.rowsText, List.flatMap_cons, Text.ink_append]
        exact held.append held'
      · rw [if_neg row, Bool.and_eq_true] at inner
        rw [if_neg row, if_pos inner.1]
        refine (draftRows_shows s centered true children inner.2).combine others
          fun group below held held' => ?_
        rw [Table.rowsText, List.flatMap_append, Text.ink_append]
        exact held.append held'
  | .text _ :: rest, rows | .comment _ :: rest, rows | .doctype _ :: rest, rows
  | .instruction _ _ :: rest, rows | .document _ :: rest, rows => by
      rw [Node.areRows, Bool.and_eq_true] at rows
      · simp only [draftRows]
        rw [Node.textContents_cons, Text.visible_append, Node.visible_of_silent rows.1,
          List.nil_append]
        exact draftRows_shows s centered grouped rest rows.2
      · nofun

/-- The cells of a row hold its text. -/
theorem draftCells_shows (s : Settings) (centered : Bool) :
    ∀ nodes : List Node, Node.areCells nodes = true →
      (draftCells s centered nodes).Settles fun row =>
        (Text.visible (Node.textContents nodes)).Sublist (Text.ink (row.flatMap Table.Cell.text))
  | [], _ => by
      rw [draftCells, Node.textContents_nil]
      exact .of (List.nil_sublist _)
  | node :: rest, cells => by
      rw [Node.areCells, Bool.and_eq_true] at cells
      have others := draftCells_shows s centered rest cells.2
      rw [draftCells, Node.textContents_cons, Text.visible_append]
      by_cases cell : node.name?.any Table.isCell
      · rw [if_pos cell] at cells
        rw [if_pos cell]
        have first : ((draftContent s centered node).map fun content =>
            (⟨Table.cellText content, node.attributes⟩ : Table.Cell)).Settles fun cell =>
              (Text.visible node.textContent).Sublist (Text.ink cell.text) :=
          Draft.Settles.map (draftContent_shows s centered node cells.1) fun content held =>
            held.trans (Table.ink_cellText content)
        refine first.combine others fun cell below held held' => ?_
        rw [List.flatMap_cons, Text.ink_append]
        exact held.append held'
      · rw [if_neg cell] at cells
        rw [if_neg cell, Node.visible_of_silent cells.1, List.nil_append]
        exact others

end

namespace Article

/-- Prose converts without asking for assets, and its Markdown holds all that is seen of its text,
in order. -/
theorem markdown_holds_visible {nodes : List Node} (prose : Node.areProse nodes = true)
    (s : Settings) (fetcher : Option Asset.Fetcher) (store : Asset.Store) :
    ∃ markdown, convertNodes fetcher s store nodes = (store, .ok markdown) ∧
      (Text.visible (Node.textContents nodes)).Sublist markdown := by
  have shown : (draftDocument s nodes).Settles fun markdown =>
      (Text.visible (Node.textContents nodes)).Sublist markdown := by
    refine Draft.Settles.map (draftNodes_shows s false nodes prose) fun content held => ?_
    rw [← content.ink_documentText] at held
    exact Text.sublist_of_ink held
  exact convertNodes_of_settles shown fetcher store

/-- A heading, a list and a table of prose. -/
def sampler : List Node :=
  let element (name : String) (children : List Node) := Node.element .html name [] children
  let text (content : String) := Node.text content.toList
  [element "h2" [text "a", element "em" [text " b "]],
    element "ol" [element "li" [text "c", element "pre" [text "d\ne"]], text "\n"],
    element "table" [element "tbody" [element "tr" [element "td" [text "f|g"]]]]]

/-- The text of the sample is found in its Markdown. -/
theorem markdown_holds_visible_sampler :
    Node.areProse sampler = true ∧
      ∃ markdown, convertNodes none {} {} sampler = ({}, .ok markdown) ∧
        (Text.visible (Node.textContents sampler)).Sublist markdown := by
  have prose : Node.areProse sampler = true := by decide +kernel
  exact ⟨prose, markdown_holds_visible prose {} none {}⟩

end Article
end ArticleMarkdown
