import ArticleMarkdown.Article.Convert
import ArticleMarkdown.Proofs.Document.Unmentioned
import ArticleMarkdown.Proofs.Text.Lines
import ArticleMarkdown.Proofs.Text.Numeral

/-!
# The numbers of notes

A section of footnotes is written as one definition per line, numbered through. What is numbered
are all list items of the section, wherever they stand in it. The lines are the definitions of the
entries of its list exactly when no other item stands in the section
(`Note.section_defines_entries_iff`); an item within an entry gets a number of its own, and moves
the numbers of all entries behind it (`Note.section_shifts_nestedEntry`).
-/

namespace ArticleMarkdown

namespace Node

private theorem subtree_eq_cons (node : Node) : subtree node = node :: node.descendants := by
  cases node with
  | element space name attributes children => exact subtree_element space name attributes children
  | document children => exact subtree_document children
  | text content | comment content | doctype name | instruction target data =>
      rw [descendants, children, subtrees_nil, subtree]

private theorem sublist_subtrees (nodes : List Node) : nodes.Sublist (subtrees nodes) := by
  induction nodes with
  | nil => exact List.nil_sublist _
  | cons node rest ih =>
      rw [subtrees_cons, subtree_eq_cons, List.cons_append]
      exact (ih.trans (List.sublist_append_right _ _)).cons_cons node

/-- What is found among nodes and below them stands either among them or below one of them. -/
theorem countP_subtrees (p : Node → Bool) (nodes : List Node) :
    (subtrees nodes).countP p = nodes.countP p + (nodes.flatMap descendants).countP p := by
  induction nodes with
  | nil => rw [subtrees_nil, List.flatMap_nil, List.countP_nil]
  | cons node rest ih =>
      rw [subtrees_cons, subtree_eq_cons, List.cons_append, List.flatMap_cons, List.countP_cons,
        List.countP_cons, List.countP_append, List.countP_append, ih]
      omega

section Within

variable {nodes before after : List Node} {node : Node}

private theorem children_sublist_of_within
    (within : subtrees nodes = before ++ node.subtree ++ after) :
    node.children.Sublist (subtrees nodes) := by
  have below : node.children.Sublist node.subtree :=
    (sublist_subtrees _).trans (subtrees_children_sublist node)
  rw [within]
  exact (below.trans (List.sublist_append_right _ _)).trans (List.sublist_append_left _ _)

/-- Where a node is not selected itself, a search finds only its children exactly when it finds
nothing in front of it, further below it or behind it. -/
theorem filter_subtrees_eq_iff (within : subtrees nodes = before ++ node.subtree ++ after)
    {p : Node → Bool} (other : p node = false) :
    (subtrees nodes).filter p = node.children.filter p ↔
      ∀ found ∈ before ++ node.children.flatMap descendants ++ after, p found = false := by
  have part := (children_sublist_of_within within).filter p
  have counted : (subtrees nodes).countP p = node.children.countP p +
      (before ++ node.children.flatMap descendants ++ after).countP p := by
    rw [within, subtree_eq_cons, descendants]
    simp only [List.countP_append, List.countP_cons, other, countP_subtrees, Bool.false_eq_true,
      ↓reduceIte]
    omega
  calc
    (subtrees nodes).filter p = node.children.filter p
        ↔ (subtrees nodes).countP p = node.children.countP p := by
      rw [List.countP_eq_length_filter, List.countP_eq_length_filter]
      exact ⟨congrArg List.length, fun same => (part.eq_of_length same.symm).symm⟩
    _ ↔ (before ++ node.children.flatMap descendants ++ after).countP p = 0 := by omega
    _ ↔ _ := by simp only [List.countP_eq_zero, Bool.not_eq_true]

end Within
end Node

namespace Note

open Text

/-- The entries of a list of notes. -/
def entries (list : Node) : List Node :=
  list.children.filter (Node.isElement "li")

/-- The definitions of entries, numbered from one on. -/
def numbered (entries : List Node) : List Text :=
  entries.mapIdx definition

@[simp] private theorem length_numbered (entries : List Node) :
    (numbered entries).length = entries.length :=
  List.length_mapIdx

private theorem lineBreak_notMem_definition (index : Nat) (entry : Node) :
    '\n' ∉ definition index entry := by
  have number : '\n' ∉ ofNat (index + 1) := fun member => by
    have digit := isDigit_of_mem_ofNat member
    cases digit
  have content : '\n' ∉ text entry := fun member => by
    have kept := (infix_trim _).subset member
    have unbroken := (List.mem_filter.mp kept).2
    cases unbroken
  simp only [definition, List.mem_append, not_or]
  exact ⟨⟨⟨by decide, number⟩, by decide⟩, content⟩

/-- Numbered definitions can be told apart again. -/
theorem splitOn_numbered {entries : List Node} (filled : entries ≠ []) :
    splitOn '\n' (join ['\n'] (numbered entries)) = numbered entries := by
  have some : numbered entries ≠ [] := by
    rw [← List.length_pos_iff, length_numbered]
    exact List.length_pos_iff.mpr filled
  refine splitOn_join some fun line member => ?_
  obtain ⟨index, -, rfl⟩ := List.mem_mapIdx.mp member
  exact lineBreak_notMem_definition index _

/-- Numbers show whether entries were left out. -/
theorem numbered_eq_iff {some all : List Node} (part : some.Sublist all) :
    numbered all = numbered some ↔ all = some := by
  refine ⟨fun same => ?_, congrArg numbered⟩
  have lengths := congrArg List.length same
  rw [length_numbered, length_numbered] at lengths
  exact (part.eq_of_length lengths.symm).symm

private theorem definitions_eq {children : List Node}
    (filled : (Node.subtrees children).filter (Node.isElement "li") ≠ []) :
    definitions children = Fragment.blockText
      (join ['\n'] (numbered ((Node.subtrees children).filter (Node.isElement "li")))) := by
  rw [definitions, if_neg (mt List.isEmpty_iff.mp filled), numbered, List.mapIdx_eq_zipIdx_map]

variable {name : String} {attributes : List Attribute} {children before after : List Node}
  {list : Node}

private theorem draftNode_section (role : name = "section" ∨ name = "div")
    (notes : Attribute.hasClass attributes sectionClass) (s : Settings) (centered : Bool)
    (space : ElementSpace) :
    draftNode s centered (.element space name attributes children) =
      .of (definitions children) := by
  have rule : Rule.ofName name = .container := by
    rcases role with rfl | rfl <;> rfl
  rw [draftNode, rule]
  exact if_pos notes

private theorem not_item_of_list (lists : list.isElement "ol" ∨ list.isElement "ul") :
    list.isElement "li" = false := by
  cases list with
  | element space name attributes children =>
      simp only [Node.isElement, Node.name?, Option.any_some, Attribute.sameName,
        Text.eqIgnoringCase, beq_iff_eq, beq_eq_false_iff_ne] at lists ⊢
      rcases lists with ordered | unordered
      · rw [ordered]
        decide
      · rw [unordered]
        decide
  | text | comment | doctype | instruction | document => rfl

/-- A section of footnotes with a list of at least one entry is a block with one numbered
definition per line, for every list item in it. These are the definitions of the entries of the
list exactly when no item stands in front of the list, within an entry or behind the list. -/
theorem section_defines_entries_iff (role : name = "section" ∨ name = "div")
    (notes : Attribute.hasClass attributes sectionClass)
    (within : Node.subtrees children = before ++ list.subtree ++ after)
    (lists : list.isElement "ol" ∨ list.isElement "ul") (filled : entries list ≠ [])
    (s : Settings) (centered : Bool) (space : ElementSpace) :
    ∃ block,
      draftNode s centered (.element space name attributes children) =
          .of (Fragment.blockText block) ∧
        splitOn '\n' block = numbered ((Node.subtrees children).filter (Node.isElement "li")) ∧
        (splitOn '\n' block = numbered (entries list) ↔
          ∀ node ∈ before ++ list.children.flatMap Node.descendants ++ after,
            node.isElement "li" = false) := by
  have part : (entries list).Sublist ((Node.subtrees children).filter (Node.isElement "li")) :=
    (Node.children_sublist_of_within within).filter _
  have found : (Node.subtrees children).filter (Node.isElement "li") ≠ [] := fun nothing =>
    filled (List.sublist_nil.mp (nothing ▸ part))
  have lines := splitOn_numbered found
  refine ⟨_, ?_, lines, ?_⟩
  · rw [draftNode_section role notes, definitions_eq found]
  · rw [lines, numbered_eq_iff part]
    exact Node.filter_subtrees_eq_iff within (not_item_of_list lists)

/-- A list of two notes. The first links back, the second holds a quotation over two lines. -/
def twoNotes : Node :=
  .element .html "ol" []
    [.element .html "li" [⟨.none, "id", "fn1".toList⟩]
      [.element .html "p" []
        [.text "Source ".toList, .element .html "a" [] [.text returnGlyph]]],
     .text "\n".toList,
     .element .html "li" []
      [.text "See".toList, .element .html "blockquote" [] [.text " the\r\n book".toList]]]

/-- A heading, notes and a rule. -/
def headedNotes : List Node :=
  [.element .html "h2" [] [.text "Notes".toList], twoNotes, .element .html "hr" [] []]

/-- The two notes behind a heading become two definitions. -/
theorem section_defines_entries_iff_headedNotes :
    Attribute.hasClass [⟨.none, "class", "dim footnotes".toList⟩] sectionClass ∧
      Node.subtrees headedNotes =
        [.element .html "h2" [] [.text "Notes".toList], .text "Notes".toList] ++
          twoNotes.subtree ++ [.element .html "hr" [] []] ∧
      twoNotes.isElement "ol" ∧ entries twoNotes ≠ [] ∧
      ∃ block,
        draftNode {} false
            (.element .html "div" [⟨.none, "class", "dim footnotes".toList⟩] headedNotes) =
          .of (Fragment.blockText block) ∧
        splitOn '\n' block = ["[^1]: Source".toList, "[^2]: See the book".toList] := by
  have notes : Attribute.hasClass [⟨.none, "class", "dim footnotes".toList⟩] sectionClass := by
    decide
  have within : Node.subtrees headedNotes =
      [.element .html "h2" [] [.text "Notes".toList], .text "Notes".toList] ++
        twoNotes.subtree ++ [.element .html "hr" [] []] := rfl
  have lists : twoNotes.isElement "ol" := by decide
  have filled : entries twoNotes ≠ [] := by
    rw [← List.isEmpty_eq_false_iff]
    decide
  obtain ⟨block, drafted, -, lines⟩ :=
    section_defines_entries_iff (.inr rfl) notes within (.inl lists) filled {} false .html
  have written : numbered (entries twoNotes) =
      ["[^1]: Source".toList, "[^2]: See the book".toList] := by decide +kernel
  exact ⟨notes, within, lists, filled, block, drafted, written ▸ lines.mpr (by decide)⟩

/-- A list of two notes, the first with a list of its own. -/
def nestedEntry : Node :=
  .element .html "ol" []
    [.element .html "li" []
      [.text "a".toList,
       .element .html "ul" [] [.element .html "li" [] [.text "b".toList]]],
     .element .html "li" [] [.text "c".toList]]

/-- A section of notes with a list in the first of them. -/
def nestedSection : Node :=
  .element .html "section" [⟨.none, "class", sectionClass.toList⟩] [nestedEntry]

/-- The second note becomes the third. -/
theorem section_shifts_nestedEntry :
    numbered (entries nestedEntry) = ["[^1]: ab".toList, "[^2]: c".toList] ∧
      draftNode {} false nestedSection =
        .of (Fragment.blockText "[^1]: ab\n[^2]: b\n[^3]: c".toList) ∧
      (Article.convertNodes none {} {} [nestedSection]).2 =
        .ok "[^1]: ab\n[^2]: b\n[^3]: c\n\n".toList := by
  refine ⟨by decide +kernel, ?_, by rfl⟩
  rw [nestedSection, draftNode_section (.inl rfl) (by decide)]
  rfl

end Note
end ArticleMarkdown
