import ArticleMarkdown.Proofs.Document.Prose
import ArticleMarkdown.Proofs.Text.Cover

/-!
# Documents that do not mention a text

A document does not mention a text if none of its names, values, comments and instructions holds
it, and if it cannot be read in the text nodes either. The latter run together in the output
wherever nothing is shown in between, so they are looked at in every selection.
-/

namespace ArticleMarkdown

/-- The names and values of attributes. -/
def Attribute.strings (attributes : List Attribute) : List Text :=
  attributes.flatMap fun a => [a.name.toList, a.value]

namespace Node

/-- The text of a text node. -/
def text? : Node → Option Text
  | .text content => some content
  | .element _ _ _ _ | .comment _ | .doctype _ | .instruction _ _ | .document _ => none

/-- The text nodes of a document, in document order. -/
def texts (nodes : List Node) : List Text :=
  (subtrees nodes).filterMap text?

/-- What a node itself holds apart from text: names, values, comments and instructions. -/
def strings : Node → List Text
  | .element _ name attributes _ => name.toList :: Attribute.strings attributes
  | .comment content => [content]
  | .doctype name => [name.toList]
  | .instruction target data => [target, data]
  | .text _ | .document _ => []

/-- A document in which a text occurs nowhere. -/
structure Unmentioned (p : Text) (nodes : List Node) : Prop where
  unsaid : ∀ node ∈ subtrees nodes, ∀ t ∈ node.strings, ¬p <:+: t
  unspelled : Text.Unspelled p (texts nodes)

instance (p : Text) (nodes : List Node) : Decidable (Unmentioned p nodes) :=
  decidable_of_iff
    ((∀ node ∈ subtrees nodes, ∀ t ∈ node.strings, ¬p <:+: t) ∧ Text.Unspelled p (texts nodes))
    ⟨fun ⟨unsaid, unspelled⟩ => ⟨unsaid, unspelled⟩, fun both => ⟨both.unsaid, both.unspelled⟩⟩

/-- The nodes below a list of nodes, one subtree after another. -/
@[simp] theorem subtrees_cons (node : Node) (rest : List Node) :
    subtrees (node :: rest) = subtree node ++ subtrees rest := rfl

/-- There is no node below no nodes. -/
@[simp] theorem subtrees_nil : subtrees [] = [] := rfl

/-- The subtree of an element is itself and what its children hold. -/
@[simp] theorem subtree_element (space : ElementSpace) (name : String) (attributes : List Attribute)
    (children : List Node) : subtree (.element space name attributes children) =
      .element space name attributes children :: subtrees children := rfl

/-- The subtree of a nested document is itself and what its children hold. -/
@[simp] theorem subtree_document (children : List Node) :
    subtree (.document children) = .document children :: subtrees children := rfl

/-- The texts of nodes, one node after another. -/
theorem texts_cons (node : Node) (rest : List Node) :
    texts (node :: rest) = texts [node] ++ texts rest := by
  simp [texts]

/-- The texts of an element are those of its children. -/
theorem texts_element (space : ElementSpace) (name : String) (attributes : List Attribute)
    (children : List Node) : texts [.element space name attributes children] = texts children := by
  simp [texts, List.filterMap_cons, text?]

/-- The texts of a nested document are those of its children. -/
theorem texts_document (children : List Node) : texts [.document children] = texts children := by
  simp [texts, List.filterMap_cons, text?]

/-- A text node has one text. -/
theorem texts_text (content : Text) : texts [.text content] = [content] := rfl

/-- A node is in its own subtree. -/
theorem mem_subtree_self (node : Node) : node ∈ subtree node := by
  cases node <;> simp [subtree]

/-- Each node of a list is below the list. -/
theorem mem_subtrees {node : Node} {nodes : List Node} (member : node ∈ nodes) :
    node ∈ subtrees nodes := by
  induction nodes with
  | nil => cases member
  | cons first rest ih =>
      rw [subtrees_cons]
      rcases List.mem_cons.mp member with rfl | later
      · exact List.mem_append_left _ (mem_subtree_self node)
      · exact List.mem_append_right _ (ih later)

mutual

/-- What lies below a node of a subtree lies in the subtree. -/
theorem subtree_sublist : ∀ node, ∀ inner ∈ subtree node, (subtree inner).Sublist (subtree node)
  | .element space name attributes children => by
      intro inner member
      rw [subtree_element] at member
      rcases List.mem_cons.mp member with rfl | below
      · exact .refl _
      · rw [subtree_element]
        exact (subtree_sublist_subtrees children inner below).cons _
  | .document children => by
      intro inner member
      rw [subtree_document] at member
      rcases List.mem_cons.mp member with rfl | below
      · exact .refl _
      · rw [subtree_document]
        exact (subtree_sublist_subtrees children inner below).cons _
  | .text _ | .comment _ | .doctype _ | .instruction _ _ => by
      intro inner member
      rw [subtree, List.mem_singleton] at member
      rw [member]

private theorem subtree_sublist_subtrees :
    ∀ nodes, ∀ inner ∈ subtrees nodes, (subtree inner).Sublist (subtrees nodes)
  | [] => fun inner member => by
      rw [subtrees_nil] at member
      cases member
  | node :: rest => by
      intro inner member
      rw [subtrees_cons] at member ⊢
      rcases List.mem_append.mp member with here | later
      · exact (subtree_sublist node inner here).trans (List.sublist_append_left _ _)
      · exact (subtree_sublist_subtrees rest inner later).trans (List.sublist_append_right _ _)

end

/-- What the children hold is in the subtree of the node. -/
theorem subtrees_children_sublist (node : Node) :
    (subtrees node.children).Sublist (subtree node) := by
  cases node with
  | element space name attributes children =>
      rw [subtree_element]
      exact List.sublist_cons_self _ _
  | document children =>
      rw [subtree_document]
      exact List.sublist_cons_self _ _
  | text content | comment content | doctype name | instruction target data =>
      rw [children, subtrees_nil]
      exact List.nil_sublist _

/-- Each child is in the subtree. -/
theorem mem_subtrees_of_mem_children {node inner : Node} (member : inner ∈ node.children) :
    inner ∈ subtree node :=
  (subtrees_children_sublist node).subset (mem_subtrees member)

/-- A node below a node below a node. -/
theorem subtree_trans {node child inner : Node} (member : child ∈ subtree node)
    (within : inner ∈ subtree child) : inner ∈ subtree node :=
  (subtree_sublist node child member).subset within

/-- A node below a node of a list. -/
theorem mem_subtrees_trans {child inner : Node} {nodes : List Node} (member : child ∈ nodes)
    (within : inner ∈ subtree child) : inner ∈ subtrees nodes :=
  (subtree_sublist_subtrees nodes child (mem_subtrees member)).subset within

mutual

/-- The text of a node is a selection of its text nodes. -/
theorem selects_textContentWithout (skip : List Attribute → Bool) :
    ∀ node, Text.Selects (texts [node]) (Text.bare (textContentWithout skip node))
  | .text content => by
      rw [texts_text, textContentWithout]
      exact ⟨[content], .refl _, by rw [List.flatten_singleton]⟩
  | .element space name attributes children => by
      rw [texts_element, textContentWithout]
      split
      · exact ⟨[], List.nil_sublist _, rfl⟩
      · exact selects_textContentsWithout skip children
  | .document children => by
      rw [texts_document, textContentWithout]
      exact selects_textContentsWithout skip children
  | .comment _ | .doctype _ | .instruction _ _ => by
      rw [textContentWithout]
      exact ⟨[], List.nil_sublist _, rfl⟩

private theorem selects_textContentsWithout (skip : List Attribute → Bool) :
    ∀ nodes, Text.Selects (texts nodes) (Text.bare (textContentsWithout skip nodes))
  | [] => by
      rw [textContentsWithout]
      exact ⟨[], List.nil_sublist _, rfl⟩
  | node :: rest => by
      rw [texts_cons, textContentsWithout, Text.bare_append]
      exact (selects_textContentWithout skip node).append (selects_textContentsWithout skip rest)

end

namespace Unmentioned

variable {p : Text} {nodes others : List Node} {node : Node}

private theorem mono (unmentioned : Unmentioned p nodes)
    (within : (subtrees others).Sublist (subtrees nodes)) : Unmentioned p others where
  unsaid inner member := unmentioned.unsaid inner (within.subset member)
  unspelled := unmentioned.unspelled.mono (within.filterMap _)

/-- What a document does not mention its first node does not mention. -/
theorem head (unmentioned : Unmentioned p (node :: nodes)) : Unmentioned p [node] := by
  refine unmentioned.mono ?_
  rw [subtrees_cons, subtrees_cons, subtrees_nil, List.append_nil]
  exact List.sublist_append_left _ _

/-- What a document does not mention its later nodes do not mention. -/
theorem tail (unmentioned : Unmentioned p (node :: nodes)) : Unmentioned p nodes := by
  refine unmentioned.mono ?_
  rw [subtrees_cons]
  exact List.sublist_append_right _ _

/-- The same holds of every node of the document. -/
theorem of_mem (unmentioned : Unmentioned p nodes) (member : node ∈ subtrees nodes) :
    Unmentioned p [node] := by
  refine unmentioned.mono ?_
  rw [subtrees_cons, subtrees_nil, List.append_nil]
  exact subtree_sublist_subtrees nodes node member

/-- What a node does not mention its children do not mention. -/
theorem children (unmentioned : Unmentioned p [node]) : Unmentioned p node.children := by
  refine unmentioned.mono ?_
  rw [subtrees_cons, subtrees_nil, List.append_nil]
  exact subtrees_children_sublist node

/-- None of the strings of a node mentions the text. -/
theorem strings (unmentioned : Unmentioned p [node]) : ∀ t ∈ node.strings, ¬p <:+: t := by
  refine unmentioned.unsaid node ?_
  rw [subtrees_cons]
  exact List.mem_append_left _ (mem_subtree_self node)

/-- The name of an element does not mention the text. -/
theorem name {space : ElementSpace} {name : String} {attributes : List Attribute}
    (unmentioned : Unmentioned p [.element space name attributes nodes]) : ¬p <:+: name.toList :=
  unmentioned.strings _ List.mem_cons_self

/-- No attribute mentions the text. -/
theorem attributes (unmentioned : Unmentioned p [node]) :
    ∀ a ∈ node.attributes, ¬p <:+: a.name.toList ∧ ¬p <:+: a.value := by
  cases node with
  | element space name attributes children =>
      intro a member
      have held : ∀ t ∈ [a.name.toList, a.value], ¬p <:+: t := fun t here =>
        unmentioned.strings t (List.mem_cons_of_mem _ (List.mem_flatMap_of_mem member here))
      exact ⟨held _ (by simp), held _ (by simp)⟩
  | text | comment | doctype | instruction | document => exact nofun

private theorem ofFind? (unmentioned : Unmentioned p [node]) {key : String} {value : Text}
    (found : Attribute.find? node.attributes key = some value) : ¬p <:+: value := by
  obtain ⟨a, first, rfl⟩ := Option.map_eq_some_iff.mp found
  exact (unmentioned.attributes a (List.mem_of_find?_eq_some first)).2

/-- The value of an attribute that is looked up, or nothing. -/
theorem valueOf (unmentioned : Unmentioned p [node]) (filled : p ≠ []) (key : String) :
    ¬p <:+: Attribute.valueOf node.attributes key := by
  rw [Attribute.valueOf]
  cases found : Attribute.find? node.attributes key with
  | none => exact fun held => filled (List.infix_nil.mp held)
  | some value => exact unmentioned.ofFind? found

/-- The text of a node does not mention it, whatever elements are skipped. -/
theorem textContentWithout (unmentioned : Unmentioned p [node]) (skip : List Attribute → Bool) :
    ¬p <:+: Text.bare (Node.textContentWithout skip node) :=
  unmentioned.unspelled _ (selects_textContentWithout skip node)

/-- The text of the nodes does not mention it. -/
theorem textContents (unmentioned : Unmentioned p nodes) :
    ¬p <:+: Text.bare (Node.textContents nodes) :=
  unmentioned.unspelled _ (selects_textContentsWithout _ nodes)

end Unmentioned
end Node
end ArticleMarkdown
