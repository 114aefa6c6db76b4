import ArticleMarkdown.Proofs.Document.Prose

/-!
# Documents without discarded content

Clearing a document empties the elements whose rule discards them. Elements that read what lies
below them by other means than its rules keep it as it is; which ones do is a parameter. Two
documents that are cleared to the same one differ in discarded content only, outside of what is
read.
-/

namespace ArticleMarkdown

/-- Which elements read what lies below them: given whether the element stands directly in a
heading, its name and attributes, and its cleared children. -/
abbrev Reading := (inHeading : Bool) → String → List Attribute → List Node → Bool

namespace Rule

/-- Whether a rule makes a heading. -/
def isHeading : Rule → Bool
  | .heading _ => true
  | _ => false

/-- Drawings and code keep everything below them, markup or text. -/
def isVerbatim : Rule → Bool
  | .drawing | .codeBlock | .inlineCode => true
  | _ => false

end Rule

/-- Whether a paragraph is aligned and holds no image, so that it is shown as raw markup. -/
def Paragraph.isAligned (attributes : List Attribute) (children : List Node) : Bool :=
  match form {} attributes children with
  | .aligned _ => true
  | .centering | .contents | .dropped | .plain => false

/-- Only drawings and code are read. -/
def Reading.verbatim : Reading :=
  fun _ name _ _ => (Rule.ofName name).isVerbatim

/-- All elements that show what lies below them, or decide by it, without its rules: as markup
drawings, what is passed through, and aligned paragraphs; as text code, footnotes, formulas and
references to footnotes; and links that a heading leaves out because they show nothing. -/
def Reading.all : Reading := fun inHeading name attributes children =>
  (match Rule.ofName name with
    | .drawing | .codeBlock | .inlineCode | .raw _ => true
    | .paragraph => Paragraph.isAligned attributes children
    | .container => Attribute.hasClass attributes Note.sectionClass
    | .span =>
      Attribute.hasClass attributes Formula.displayClass ||
        Attribute.hasClass attributes Formula.inlineClass
    | .superscript => Attribute.hasClass attributes Note.referenceClass
    | _ => false) ||
  (inHeading && Heading.isEmptyLink (.element .html name attributes children))

namespace Node

mutual

/-- The node with every discarded element emptied, unless an element that `reads` selects holds
it. -/
def cleared (reads : Reading) (inHeading : Bool) : Node → Node
  | .element space name attributes children =>
    if Rule.ofName name = .discard then .element space name attributes []
    else
      let below := clearedAll reads (Rule.ofName name).isHeading children
      .element space name attributes
        (if reads inHeading name attributes below then children else below)
  | .document children => .document (clearedAll reads false children)
  | .text content => .text content
  | .comment content => .comment content
  | .doctype name => .doctype name
  | .instruction target data => .instruction target data

/-- The nodes with every discarded element emptied. -/
def clearedAll (reads : Reading) (inHeading : Bool) : List Node → List Node
  | [] => []
  | node :: rest => cleared reads inHeading node :: clearedAll reads inHeading rest

end

section

variable (reads : Reading) (inHeading : Bool)

variable {reads inHeading} in
/-- Nothing stays below a discarded element. -/
theorem cleared_discarded {space : ElementSpace} {name : String} {attributes : List Attribute}
    {children : List Node} (discarded : Rule.ofName name = .discard) :
    cleared reads inHeading (.element space name attributes children) =
      .element space name attributes [] := by
  rw [cleared.eq_def]
  exact if_pos discarded

variable {reads inHeading} in
/-- The children of other elements are cleared, unless the element reads them. -/
theorem cleared_content {space : ElementSpace} {name : String} {attributes : List Attribute}
    {children : List Node} (content : Rule.ofName name ≠ .discard) :
    cleared reads inHeading (.element space name attributes children) =
      .element space name attributes
        (if reads inHeading name attributes
            (clearedAll reads (Rule.ofName name).isHeading children) then children
          else clearedAll reads (Rule.ofName name).isHeading children) := by
  rw [cleared.eq_def]
  exact if_neg content

/-- Clearing keeps the name of a node. -/
@[simp] theorem name?_cleared (node : Node) :
    (cleared reads inHeading node).name? = node.name? := by
  cases node with
  | element space name attributes children =>
      rw [cleared.eq_def]
      simp only
      split <;> rfl
  | _ => rfl

/-- Clearing keeps the attributes of a node. -/
@[simp] theorem attributes_cleared (node : Node) :
    (cleared reads inHeading node).attributes = node.attributes := by
  cases node with
  | element space name attributes children =>
      rw [cleared.eq_def]
      simp only
      split <;> rfl
  | _ => rfl

/-- Clearing leaves a lone text as it is, and makes none. -/
theorem lone_text_cases (nodes : List Node) :
    clearedAll reads inHeading nodes = nodes ∨
      (∀ content, nodes ≠ [.text content]) ∧
        ∀ content, clearedAll reads inHeading nodes ≠ [.text content] := by
  cases nodes with
  | nil => exact .inl rfl
  | cons node rest =>
      cases rest with
      | cons second rest => exact .inr ⟨by simp, by simp [clearedAll]⟩
      | nil =>
          cases node with
          | element space name attributes children =>
              refine .inr ⟨by simp, fun content same => ?_⟩
              have named := name?_cleared reads inHeading (.element space name attributes children)
              rw [clearedAll, List.cons.injEq] at same
              rw [same.1] at named
              cases named
          | document children => exact .inr ⟨by simp, by simp [clearedAll, cleared]⟩
          | _ => exact .inl rfl

/-- A property of nodes that clearing keeps holds of one of them as before. -/
theorem any_clearedAll {p : Node → Bool} {nodes : List Node}
    (same : ∀ node ∈ nodes, p (cleared reads inHeading node) = p node) :
    (clearedAll reads inHeading nodes).any p = nodes.any p := by
  induction nodes with
  | nil => rfl
  | cons node rest ih =>
      rw [clearedAll, List.any_cons, List.any_cons, same node List.mem_cons_self,
        ih fun node member => same node (List.mem_cons_of_mem _ member)]

mutual

/-- Clearing only takes text away. -/
theorem textContent_cleared_sublist (inHeading : Bool) :
    ∀ node, (textContent (cleared reads inHeading node)).Sublist (textContent node)
  | .element space name attributes children => by
      rw [cleared.eq_def]
      simp only
      split
      · rw [textContent_element, textContents_nil]
        exact List.nil_sublist _
      · rw [textContent_element, textContent_element]
        split
        · exact .refl _
        · exact textContents_clearedAll_sublist _ children
  | .document children => by
      rw [cleared.eq_def]
      simp only [textContent_document]
      exact textContents_clearedAll_sublist false children
  | .text _ | .comment _ | .doctype _ | .instruction _ _ => .refl _

/-- Clearing nodes only takes text away. -/
theorem textContents_clearedAll_sublist (inHeading : Bool) :
    ∀ nodes, (textContents (clearedAll reads inHeading nodes)).Sublist (textContents nodes)
  | [] => .refl _
  | node :: rest => by
      rw [clearedAll, textContents_cons, textContents_cons]
      exact (textContent_cleared_sublist inHeading node).append
        (textContents_clearedAll_sublist inHeading rest)

end

mutual

/-- Clearing brings no new name into a document. -/
theorem subtree_cleared_named (inHeading : Bool) :
    ∀ node, ∀ inner ∈ subtree (cleared reads inHeading node),
      ∃ original ∈ subtree node, inner.name? = original.name?
  | .element space name attributes children => by
      intro inner member
      rw [cleared.eq_def] at member
      simp only at member
      rw [subtree]
      split at member
      · rw [subtree, subtrees, List.mem_singleton] at member
        subst member
        exact ⟨_, List.mem_cons_self, rfl⟩
      · rw [subtree] at member
        rcases List.mem_cons.mp member with rfl | below
        · exact ⟨_, List.mem_cons_self, rfl⟩
        · split at below
          · exact ⟨inner, List.mem_cons_of_mem _ below, rfl⟩
          · obtain ⟨original, within, same⟩ := subtrees_clearedAll_named _ children inner below
            exact ⟨original, List.mem_cons_of_mem _ within, same⟩
  | .document children => by
      intro inner member
      rw [cleared.eq_def] at member
      simp only [subtree] at member ⊢
      rcases List.mem_cons.mp member with rfl | below
      · exact ⟨_, List.mem_cons_self, rfl⟩
      · obtain ⟨original, within, same⟩ := subtrees_clearedAll_named false children inner below
        exact ⟨original, List.mem_cons_of_mem _ within, same⟩
  | .text _ | .comment _ | .doctype _ | .instruction _ _ => fun inner member =>
      ⟨inner, member, rfl⟩

private theorem subtrees_clearedAll_named (inHeading : Bool) :
    ∀ nodes, ∀ inner ∈ subtrees (clearedAll reads inHeading nodes),
      ∃ original ∈ subtrees nodes, inner.name? = original.name?
  | [] => fun inner member => ⟨inner, member, rfl⟩
  | node :: rest => by
      intro inner member
      rw [clearedAll, subtrees] at member
      rw [subtrees]
      rcases List.mem_append.mp member with here | later
      · obtain ⟨original, within, same⟩ := subtree_cleared_named inHeading node inner here
        exact ⟨original, List.mem_append_left _ within, same⟩
      · obtain ⟨original, within, same⟩ := subtrees_clearedAll_named inHeading rest inner later
        exact ⟨original, List.mem_append_right _ within, same⟩

end

/-- Clearing brings no element of a name below. -/
theorem any_subtrees_clearedAll {name : String} {nodes : List Node}
    (found : (subtrees (clearedAll reads inHeading nodes)).any (isElement name) = true) :
    (subtrees nodes).any (isElement name) = true := by
  obtain ⟨inner, member, named⟩ := List.any_eq_true.mp found
  obtain ⟨original, within, same⟩ := subtrees_clearedAll_named reads inHeading nodes inner member
  refine List.any_eq_true.mpr ⟨original, within, ?_⟩
  rw [isElement, same] at named
  exact named

end

end Node
end ArticleMarkdown
