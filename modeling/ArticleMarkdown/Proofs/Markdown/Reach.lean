import ArticleMarkdown.Markdown.Convert
import ArticleMarkdown.Proofs.Document.Mark

/-!
# Which nodes are converted

The rule of an element converts some of the nodes below it, and reads or drops the others. The walk
over a document reaches the nodes that are converted in turn (`Node.Reached`). A node that it
reaches within a centring element and whose markup is shown there leaks the mark if it holds an
image (`Node.leaks`).
-/

namespace ArticleMarkdown

/-- What the items of a list convert, and the lists among them. -/
def ListKind.converted (children : List Node) : List Node :=
  children.flatMap fun node =>
    if node.name? == some "li" then node.children
    else if (node.name?.bind ofName?).isSome then [node]
    else []

namespace Table

/-- What the cells of a row convert. -/
def cellsConverted (children : List Node) : List Node :=
  children.flatMap fun node => if node.name?.any isCell then node.children else []

/-- What the rows of a group convert. -/
def groupConverted (children : List Node) : List Node :=
  children.flatMap fun node => if node.name? == some "tr" then cellsConverted node.children else []

/-- What the rows of a table convert, in groups or not; `grouped` tells that they stand in one. -/
def rowsConverted (grouped : Bool) (children : List Node) : List Node :=
  children.flatMap fun node =>
    if node.name? == some "tr" then cellsConverted node.children
    else if node.name?.any isRowGroup && !grouped then groupConverted node.children
    else []

/-- Groups stand in no group. -/
theorem rowsConverted_grouped (children : List Node) :
    rowsConverted true children = groupConverted children := by
  refine List.flatMap_congr fun node _ => ?_
  rw [Bool.not_true, Bool.and_false, if_neg Bool.false_ne_true]

/-- An element converts the cells of a row, the rows of a group that is in no other, or nothing. -/
theorem rowsConverted_element (grouped : Bool) (space : ElementSpace) (name : String)
    (attributes : List Attribute) (children rest : List Node) :
    rowsConverted grouped (.element space name attributes children :: rest) =
      (if name == "tr" then cellsConverted children
        else if isRowGroup name && !grouped then rowsConverted true children
        else []) ++ rowsConverted grouped rest := by
  rw [rowsConverted_grouped, rowsConverted, List.flatMap_cons]
  rfl

end Table

namespace Node

/-- Whether the images below an element are centred. -/
def centers (s : Settings) (centered : Bool) : Node → Bool
  | .element _ name attributes children =>
    match Rule.ofName name with
    | .paragraph => centered || Paragraph.form s attributes children == .centering
    | .center => true
    | _ => centered
  | .text _ | .comment _ | .doctype _ | .instruction _ _ | .document _ => centered

/-- The nodes that the rule of a node converts. -/
def converted (s : Settings) : Node → List Node
  | .element _ name attributes children =>
    match Rule.ofName name with
    | .heading _ => children.filter fun node => !Heading.isEmptyLink node
    | .paragraph =>
      match Paragraph.form s attributes children with
      | .centering | .plain => children
      | .contents | .dropped | .aligned _ => []
    | .link =>
      match Link.form s.stripSearchLinks attributes with
      | .stripped | .unlinked | .linked _ => children
      | .dropped | .card _ _ => []
    | .list _ => ListKind.converted children
    | .table => if Table.hasRows children then Table.rowsConverted false children else children
    | .span =>
      match Formula.fragment? attributes children with
      | some _ => []
      | none =>
        match (if s.keepColors then Color.span? attributes children else none) with
        | some _ => []
        | none => children
    | .font =>
      match (if s.keepColors then Color.font? attributes children else none) with
      | some _ => []
      | none => children
    | .superscript =>
      match Note.reference? attributes children with
      | some _ => []
      | none => children
    | .center =>
      match Centered.loneText? children with
      | some _ => []
      | none => children
    | .container => if Attribute.hasClass attributes Note.sectionClass then [] else children
    | .emphasis _ | .quotation | .subscript | .transparent => children
    | .image | .codeBlock | .inlineCode | .checkbox | .drawing | .thematicBreak | .raw _
    | .discard => []
  | .document children => children
  | .text _ | .comment _ | .doctype _ | .instruction _ _ => []

/-- The walk that starts at a node converts another one; the flags tell whether images are
centred. -/
inductive Reaches (s : Settings) : Bool → Node → Bool → Node → Prop
  | here (centered : Bool) (node : Node) : Reaches s centered node centered node
  | onward {centered : Bool} {node child : Node} {within : Bool} {inner : Node}
      (member : child ∈ node.converted s)
      (later : Reaches s (node.centers s centered) child within inner) :
      Reaches s centered node within inner

/-- Whether an element shows its markup: it is passed through, or it is a drawing that is written in
place. -/
def showsMarkup (s : Settings) : Node → Bool
  | .element _ name attributes children =>
    match Rule.ofName name with
    | .raw _ => true
    | .drawing =>
      !Drawing.isHidden attributes && !s.localizeAssets &&
        !(subtrees children).any (isElement "style")
    | _ => false
  | .text _ | .comment _ | .doctype _ | .instruction _ _ | .document _ => false

/-- Whether a node shows the mark: its markup is shown with an image, within a centring element. -/
def leaks (s : Settings) (centered : Bool) (node : Node) : Bool :=
  centered && node.showsMarkup s && showsImage false node

/-- The requests that a node makes itself. -/
def ownRequests (s : Settings) (centered : Bool) : Node → List Asset.Request
  | .element space name attributes children =>
    match Rule.ofName name with
    | .image => (Image.draft s centered attributes).requests
    | .drawing => (Drawing.draft s space name attributes (allShown centered children)).requests
    | _ => []
  | .text _ | .comment _ | .doctype _ | .instruction _ _ | .document _ => []

/-- The walk that starts at one of some nodes converts another one. -/
def Reached (s : Settings) (centered : Bool) (nodes : List Node) (within : Bool) (inner : Node) :
    Prop :=
  ∃ node ∈ nodes, Reaches s centered node within inner

section

variable {s : Settings} {centered within : Bool} {inner : Node}

/-- Nothing is reached from nothing. -/
@[simp] theorem reached_nil : ¬Reached s centered [] within inner := by
  rintro ⟨node, member, -⟩
  cases member

/-- What is reached from nodes one after another is reached from either. -/
theorem reached_append {first second : List Node} :
    Reached s centered (first ++ second) within inner ↔
      Reached s centered first within inner ∨ Reached s centered second within inner := by
  simp only [Reached, List.mem_append, or_and_right, exists_or]

/-- What is reached from nodes is reached from the first or from the others. -/
theorem reached_cons {node : Node} {rest : List Node} :
    Reached s centered (node :: rest) within inner ↔
      Reached s centered [node] within inner ∨ Reached s centered rest within inner :=
  @reached_append _ _ _ _ [node] rest

/-- A node reaches itself, and what is reached from the nodes that it converts. -/
theorem reached_singleton {node : Node} :
    Reached s centered [node] within inner ↔
      (within = centered ∧ inner = node) ∨
        Reached s (node.centers s centered) (node.converted s) within inner := by
  constructor
  · rintro ⟨first, member, reaches⟩
    rw [List.mem_singleton] at member
    subst member
    cases reaches with
    | here => exact .inl ⟨rfl, rfl⟩
    | onward member later => exact .inr ⟨_, member, later⟩
  · rintro (⟨rfl, rfl⟩ | ⟨child, member, reaches⟩)
    · exact ⟨inner, List.mem_singleton_self inner, .here _ _⟩
    · exact ⟨node, List.mem_singleton_self node, .onward member reaches⟩

/-- List nesting does not change what is reached. -/
theorem reaches_descend {node : Node} :
    Reaches s.descend centered node within inner ↔ Reaches s centered node within inner := by
  constructor
  · intro reaches
    induction reaches with
    | here => exact .here _ _
    | onward member _ ih => exact .onward member ih
  · intro reaches
    induction reaches with
    | here => exact .here _ _
    | onward member _ ih => exact .onward member ih

/-- The depth of lists plays no part in what is reached. -/
theorem reached_descend {nodes : List Node} :
    Reached s.descend centered nodes within inner ↔ Reached s centered nodes within inner := by
  simp only [Reached, reaches_descend]

end

private theorem ListKind.converted_subset (children : List Node) :
    ListKind.converted children ⊆ subtrees children := by
  intro inner member
  obtain ⟨node, listed, within⟩ := List.mem_flatMap.mp member
  refine mem_subtrees_trans listed ?_
  split at within
  · exact mem_subtrees_of_mem_children within
  · split at within
    · rw [List.mem_singleton.mp within]
      exact mem_subtree_self node
    · cases within

private theorem cellsConverted_subset (children : List Node) :
    Table.cellsConverted children ⊆ subtrees children := by
  intro inner member
  obtain ⟨node, listed, within⟩ := List.mem_flatMap.mp member
  refine mem_subtrees_trans listed ?_
  split at within
  · exact mem_subtrees_of_mem_children within
  · cases within

private theorem rowsConverted_subset (grouped : Bool) (children : List Node) :
    Table.rowsConverted grouped children ⊆ subtrees children := by
  have inRow : ∀ {node inner : Node}, inner ∈ Table.cellsConverted node.children →
      inner ∈ subtree node :=
    fun {node} {_} within =>
      (subtrees_children_sublist node).subset (cellsConverted_subset _ within)
  intro inner member
  obtain ⟨node, listed, within⟩ := List.mem_flatMap.mp member
  refine mem_subtrees_trans listed ?_
  split at within
  · exact inRow within
  · split at within
    · rw [Table.groupConverted] at within
      obtain ⟨row, listed', within'⟩ := List.mem_flatMap.mp within
      split at within'
      · exact subtree_trans (mem_subtrees_of_mem_children listed') (inRow within')
      · cases within'
    · cases within

private theorem converted_subset (s : Settings) (node : Node) :
    node.converted s ⊆ subtree node := by
  cases node with
  | element space name attributes children =>
      have all : children ⊆ subtree (.element space name attributes children) :=
        fun _ member => mem_subtrees_of_mem_children member
      have none : [] ⊆ subtree (.element space name attributes children) := List.nil_subset _
      have below : subtrees children ⊆ subtree (.element space name attributes children) :=
        (subtrees_children_sublist (.element space name attributes children)).subset
      rw [converted.eq_def]
      simp only
      cases Rule.ofName name with
      | emphasis | quotation | subscript | transparent => exact all
      | image | codeBlock | inlineCode | checkbox | drawing | thematicBreak | raw | discard =>
          exact none
      | heading => exact List.Subset.trans (List.filter_subset_self children) all
      | list => exact List.Subset.trans (ListKind.converted_subset children) below
      | paragraph | link | font | superscript | center | container =>
          simp only
          split
          all_goals first | exact all | exact none
      | span =>
          simp only
          split
          · exact none
          · split
            · exact none
            · exact all
      | table =>
          simp only
          split
          · exact List.Subset.trans (rowsConverted_subset false children) below
          · exact all
  | document children =>
      rw [converted]
      rw [subtree_document]
      exact fun _ member => List.mem_cons_of_mem _ (mem_subtrees member)
  | text | comment | doctype | instruction =>
      rw [converted]
      exact List.nil_subset _

/-- What is reached lies in the document. -/
theorem Reaches.mem_subtree {s : Settings} {centered : Bool} {node : Node} {within : Bool}
    {inner : Node} (reaches : Reaches s centered node within inner) : inner ∈ subtree node := by
  induction reaches with
  | here centered node => exact mem_subtree_self node
  | onward member _ ih => exact subtree_trans (converted_subset s _ member) ih

/-- What nodes do not mention, no node that is reached from them mentions. -/
theorem Unmentioned.of_reached {p : Text} {s : Settings} {centered : Bool} {nodes : List Node}
    {within : Bool} {inner : Node} (unmentioned : Unmentioned p nodes)
    (reached : Reached s centered nodes within inner) : Unmentioned p [inner] := by
  obtain ⟨node, member, reaches⟩ := reached
  exact unmentioned.of_mem (mem_subtrees_trans member reaches.mem_subtree)

end Node
end ArticleMarkdown
