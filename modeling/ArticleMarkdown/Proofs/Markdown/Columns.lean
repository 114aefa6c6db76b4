import ArticleMarkdown.Proofs.Article.Contract
import ArticleMarkdown.Proofs.Markdown.Listing
import ArticleMarkdown.Proofs.Markdown.Steady

/-!
# Items line up

Where a list is put as a block, the lines of its items are found in the Markdown, and each item
stands at the column that the place of the list tells (`Listing.Placed`). All items but the first
one stand at one column; the first one stands there too unless the list is the first thing shown
where a content is trimmed, or where an item starts with a number that is wider than the indentation
below it (`Listing.items_line_up_iff`). Elements that put their content on one line, as table cells
do, are no such places (`Listing.cell_items_on_one_line`).
-/

namespace ArticleMarkdown

/-- Whether a draft shows nothing. The answers do not matter (`draftNode_steady`). -/
def Draft.isBlank (draft : Draft Fragment) : Bool :=
  (draft.fill []).isBlank

/-- The place of rows below what a draft shows. -/
def Text.Place.after (place : Text.Place) (draft : Draft Fragment) : Text.Place :=
  if draft.isBlank then place else place.below

open Text (Columns Place)
open Fragment (Holds)

/-- The node flows its content: it is converted to what these children are converted to, possibly
between block separators. -/
inductive Passes (s : Settings) (centered : Bool) : Node → List Node → Bool → Prop
  | document (children : List Node) : Passes s centered (.document children) children centered
  | container {space name attributes children} (rule : Rule.ofName name = .container)
      (noNotes : Attribute.hasClass attributes Note.sectionClass = false) :
      Passes s centered (.element space name attributes children) children centered
  | transparent {space name attributes children} (rule : Rule.ofName name = .transparent) :
      Passes s centered (.element space name attributes children) children centered
  | table {space name attributes children} (rule : Rule.ofName name = .table)
      (rowless : Table.hasRows children = false) :
      Passes s centered (.element space name attributes children) children centered
  | paragraph {space name attributes children} (rule : Rule.ofName name = .paragraph)
      (plain : Paragraph.form s attributes children = .plain) :
      Passes s centered (.element space name attributes children) children centered
  | centering {space name attributes children} (rule : Rule.ofName name = .paragraph)
      (centering : Paragraph.form s attributes children = .centering) :
      Passes s centered (.element space name attributes children) children true
  | center {space name attributes children} (rule : Rule.ofName name = .center)
      (mixed : Centered.loneText? children = none) :
      Passes s centered (.element space name attributes children) children true
  | span {space name attributes children} (rule : Rule.ofName name = .span)
      (noFormula : Formula.fragment? attributes children = none)
      (uncolored : s.keepColors = true → Color.span? attributes children = none) :
      Passes s centered (.element space name attributes children) children centered
  | font {space name attributes children} (rule : Rule.ofName name = .font)
      (uncolored : s.keepColors = true → Color.font? attributes children = none) :
      Passes s centered (.element space name attributes children) children centered

/-- The element raises or lowers its content. -/
inductive Raises : String → List Attribute → List Node → Prop
  | superscript {name attributes children} (rule : Rule.ofName name = .superscript)
      (noReference : Note.reference? attributes children = none) : Raises name attributes children
  | subscript {name attributes children} (rule : Rule.ofName name = .subscript) :
      Raises name attributes children

namespace Listing

/-- What nodes are converted as: content that flows, or the children of a list. -/
inductive Spot where
  | flow
  | items (kind : ListKind) (number : Nat)

/-- The list stands among the nodes or below them, where it is converted as a block; with the place
of its rows in what the nodes are converted to. -/
inductive Placed (list : Listing) : Settings → Bool → Spot → Place → List Node → Prop
  | here {s centered rest} : Placed list s centered .flow (.first 0 ⟨0, 0⟩) (list.node :: rest)
  | after {s centered place node rest} (placed : Placed list s centered .flow place rest) :
      Placed list s centered .flow (place.after (draftNode s centered node)) (node :: rest)
  | passed {s centered place node children centered' rest}
      (passes : Passes s centered node children centered')
      (placed : Placed list s centered' .flow place children) :
      Placed list s centered .flow place (node :: rest)
  | raised {s centered place space name attributes children rest}
      (raises : Raises name attributes children)
      (placed : Placed list s centered .flow place children) :
      Placed list s centered .flow place.below (.element space name attributes children :: rest)
  | quoted {s centered place space name attributes children rest}
      (rule : Rule.ofName name = .quotation)
      (placed : Placed list s centered .flow place children) :
      Placed list s centered .flow (Quotation.place place)
        (.element space name attributes children :: rest)
  /-- Links that show nothing do not belong to the content of a heading. -/
  | heading {s centered place space name attributes children level rest}
      (rule : Rule.ofName name = .heading level)
      (placed : Placed list s centered .flow place
        (children.filter fun node => !Heading.isEmptyLink node)) :
      Placed list s centered .flow (Heading.place level place)
        (.element space name attributes children :: rest)
  | listed {s centered place space attributes children rest} {kind : ListKind}
      (placed : Placed list s.descend centered (.items kind (kind.start attributes)) place
        children) :
      Placed list s centered .flow place (.element space kind.name attributes children :: rest)
  | item {s centered place space attributes children rest} {kind : ListKind} {number : Nat}
      (placed : Placed list s centered .flow place children) :
      Placed list s centered (.items kind number) (kind.itemPlace number place)
        (.element space "li" attributes children :: rest)
  | nested {s centered place space attributes children rest} {kind own : ListKind} {number : Nat}
      (placed : Placed list s.descend centered (.items own (own.start attributes)) place
        children) :
      Placed list s centered (.items kind number) (kind.nestedPlace place)
        (.element space own.name attributes children :: rest)
  | afterItem {s centered place space attributes children kind number rest}
      (placed : Placed list s centered (.items kind (Text.countAfter number 1)) place rest) :
      Placed list s centered (.items kind number) place.below
        (.element space "li" attributes children :: rest)
  | afterList {s centered place space attributes children kind number rest} {own : ListKind}
      (placed : Placed list s centered (.items kind number) place rest) :
      Placed list s centered (.items kind number)
        (place.after (draftItems s.descend centered own (own.start attributes) children))
        (.element space own.name attributes children :: rest)
  | afterAside {s centered place node kind number rest} (noItem : node.name? ≠ some "li")
      (noList : (node.name?.bind ListKind.ofName?).isSome = false)
      (placed : Placed list s centered (.items kind number) place rest) :
      Placed list s centered (.items kind number) place (node :: rest)

end Listing

section Drafts

variable {rows : List (Option Text)} {place : Place} {s : Settings} {centered : Bool}

/-- The nodes are converted to a fragment that holds the rows. -/
def Draft.Holds (rows : List (Option Text)) (place : Place) (draft : Draft Fragment) : Prop :=
  ∀ paths, Fragment.Holds rows place (draft.fill paths)

private theorem Passes.holds {node : Node} {children : List Node} {centered' : Bool}
    (passes : Passes s centered node children centered')
    (held : (draftNodes s centered' children).Holds rows place) :
    (draftNode s centered node).Holds rows place := by
  cases passes with
  | document =>
      rw [draftNode]
      exact held
  | container rule noNotes =>
      rw [draftNode, rule]
      simp only [noNotes, Bool.false_eq_true, if_false]
      exact fun paths => (held paths).closed
  | transparent rule =>
      rw [draftNode, rule]
      exact fun paths => (held paths).closed
  | table rule rowless =>
      rw [draftNode, rule]
      simp only [rowless, Bool.false_eq_true, if_false]
      exact fun paths => (held paths).closed
  | paragraph rule plain =>
      rw [draftNode, rule]
      simp only [plain]
      exact fun paths => (held paths).blocked
  | centering rule centering =>
      rw [draftNode, rule]
      simp only [centering]
      exact fun paths => (held paths).blocked
  | center rule mixed =>
      rw [draftNode, rule]
      simp only [mixed]
      exact fun paths => (held paths).blocked
  | span rule noFormula uncolored =>
      rw [draftNode, rule]
      cases kept : s.keepColors with
      | false =>
          simp only [noFormula, Bool.false_eq_true, if_false]
          exact held
      | true => simpa only [noFormula, uncolored kept, if_true] using held
  | font rule uncolored =>
      rw [draftNode, rule]
      cases kept : s.keepColors with
      | false => exact held
      | true => simpa only [uncolored kept, if_true] using held

private theorem Raises.holds {space : ElementSpace} {name : String} {attributes : List Attribute}
    {children : List Node} (raises : Raises name attributes children)
    (held : (draftNodes s centered children).Holds rows place) :
    (draftNode s centered (.element space name attributes children)).Holds rows place.below := by
  cases raises with
  | superscript rule noReference =>
      rw [draftNode, rule]
      simp only [noReference]
      exact fun paths => Script.holds_wrap "sup" (held paths)
  | subscript rule =>
      rw [draftNode, rule]
      exact fun paths => Script.holds_wrap "sub" (held paths)

/-- A heading converts its children without the links that show nothing. -/
theorem draftHeading_eq (s : Settings) (centered : Bool) (children : List Node) :
    draftHeading s centered children =
      draftNodes s centered (children.filter fun node => !Heading.isEmptyLink node) := by
  induction children with
  | nil => rw [draftHeading, List.filter_nil, draftNodes]
  | cons node rest ih =>
      rw [draftHeading, List.filter_cons]
      cases Heading.isEmptyLink node with
      | true => exact ih
      | false =>
          rw [ih]
          exact (draftNodes.eq_2 ..).symm

/-- No heading has the level zero. -/
theorem Rule.level_pos {name : String} {level : Nat} (rule : Rule.ofName name = .heading level) :
    0 < level := by
  unfold Rule.ofName at rule
  split at rule <;> cases rule <;> omega

end Drafts

section After

variable {rows : List (Option Text)} {place : Place}

/-- A draft in front shows something above the rows, or leaves them the first thing shown. -/
theorem Fragment.Holds.after {draft : Draft Fragment} (steady : draft.Steady isBlank)
    {f : Fragment} (held : Fragment.Holds rows place f) (paths : List Text) :
    Fragment.Holds rows (place.after draft) (draft.fill paths ++ f) := by
  have same := steady paths []
  unfold Text.Place.after Draft.isBlank
  rw [← same]
  split
  · next blank => exact held.append_left fun _ => (isBlank_iff _).mp blank
  · next shown => exact held.behind (mt (isBlank_iff _).mpr shown)

/-- Likewise for a list in a list, in front of the further children of the list. -/
theorem Fragment.Holds.after_nested {draft : Draft Fragment} (steady : draft.Steady isBlank)
    {f : Fragment} (held : Fragment.Holds rows place (blockBreak ++ f)) (kind : ListKind)
    (paths : List Text) :
    Fragment.Holds rows (place.after draft)
      (blockBreak ++ ((kind.nested (blockBreak ++ draft.fill paths)).closed ++ f)) := by
  have same := steady paths []
  have shows : (kind.nested (blockBreak ++ draft.fill paths)).isBlank =
      (draft.fill paths).isBlank :=
    (kind.isBlank_nested _).trans (isBlank_append blockBreak _)
  unfold Text.Place.after Draft.isBlank
  rw [← same, ← shows]
  split
  · next blank => exact held.append_block fun _ => (isBlank_iff _).mp blank
  · next shown => exact held.behind_block (mt (isBlank_iff _).mpr shown)

end After

namespace Listing

/-- The draft of nodes at a spot, behind a block separator where they are the children of a list. -/
def Spot.draft (s : Settings) (centered : Bool) (nodes : List Node) : Spot → Draft Fragment
  | .flow => draftNodes s centered nodes
  | .items kind number =>
    (draftItems s centered kind number nodes).map (Fragment.blockBreak ++ ·)

/-- Where a list is placed, its rows are held. -/
theorem Placed.holds {list : Listing} {s : Settings} {centered : Bool} {spot : Spot} {place : Place}
    {nodes : List Node} (placed : Placed list s centered spot place nodes)
    (filled : list.rows ≠ []) : (spot.draft s centered nodes).Holds list.rows place := by
  -- On the way out from the list: each rule wraps a fragment that holds the rows.
  induction placed with
  | here =>
      rw [Spot.draft, draftNodes]
      exact fun paths => (list.holds_node _ _ _ filled).append_right _
  | @after s centered place node rest _ ih =>
      rw [Spot.draft, draftNodes]
      exact fun paths => (ih _).after (draftNode_steady s centered node) _
  | passed passes _ ih =>
      rw [Spot.draft, draftNodes]
      exact fun paths => (passes.holds ih _).append_right _
  | raised raises _ ih =>
      rw [Spot.draft, draftNodes]
      exact fun paths => (raises.holds ih _).append_right _
  | quoted rule _ ih =>
      rw [Spot.draft, draftNodes, draftNode, rule]
      exact fun paths => (Quotation.holds_fragment (ih _)).append_right _
  | heading rule _ ih =>
      rw [Spot.draft, draftNodes, draftNode, rule]
      simp only [draftHeading_eq]
      exact fun paths => (Heading.holds_fragment (Rule.level_pos rule) (ih _)).append_right _
  | listed _ ih =>
      rw [Spot.draft, draftNodes, draftNode_list]
      exact fun paths => (ih _).append_right _
  | item _ ih =>
      rw [Spot.draft, draftItems_item]
      exact fun paths => ListKind.holds_item _ _ (ih _) _
  | nested _ ih =>
      rw [Spot.draft, draftItems_list]
      exact fun paths => ListKind.holds_nested _ (ih _) _
  | afterItem _ ih =>
      rw [Spot.draft, draftItems_item]
      exact fun paths => (ih _).behind_block (ListKind.ink_item_ne_nil _ _ _)
  | afterList _ ih =>
      rw [Spot.draft, draftItems_list]
      exact fun paths => (ih _).after_nested (draftItems_steady _ _ _ _ _) _ _
  | afterAside noItem noList _ ih =>
      rw [Spot.draft, draftItems_aside _ _ _ _ _ noItem noList]
      exact ih

/-- There are as many lines of the Markdown one after another as the list has rows, wherever the
list is put as a block, and each item stands on its line at the column of its place. So the items
start at one column, unless the place has a column of its own for an item on the first line and
there are other items. -/
theorem items_line_up_iff {fetcher : Option Asset.Fetcher} {s : Settings}
    {store after : Asset.Store} {list : Listing} {place : Place} {nodes : List Node}
    {markdown : Text} (placed : Placed list s false .flow place nodes)
    (converts : Article.convertNodes fetcher s store nodes = (after, .ok markdown)) :
    ∃ above lines below, Text.splitOn '\n' markdown = above ++ lines ++ below ∧
      Text.RowsAt place.trimmed.columns list.rows lines ∧
      ((∃ column, List.Forall₂ (Text.RowAt column) list.rows lines) ↔
        place.trimmed.columns.OneFor list.rows) := by
  suffices shown : ∃ above lines below, Text.splitOn '\n' markdown = above ++ lines ++ below ∧
      Text.RowsAt place.trimmed.columns list.rows lines by
    obtain ⟨above, lines, below, split, rowsAt⟩ := shown
    exact ⟨above, lines, below, split, rowsAt, rowsAt.line_up_iff⟩
  by_cases nothing : list.rows = []
  · refine ⟨Text.splitOn '\n' markdown, [], [], by simp, ?_⟩
    rw [nothing]
    exact .nil
  · obtain ⟨paths, -, written⟩ := Article.answers_of_convertNodes converts
    have held : (draftNodes s false nodes).Holds list.rows place := placed.holds nothing
    have shows := (held paths).finalText
    have final : ((draftNodes s false nodes).fill paths).documentText = markdown := written.symm
    rw [Fragment.documentText, if_neg (mt List.isEmpty_iff.mp shows.ne_nil)] at final
    rw [← final]
    obtain ⟨above, lines, below, split, block⟩ := (shows.append ['\n']).lines
    exact ⟨above, lines, below, split, block.rowsAt⟩

/-- A list with a list between its two items. -/
def laundry : Listing where
  space := .html
  kind := .unordered
  attributes := []
  entries :=
    .item .html [] "wash".toList
      (.nested .html .ordered [] (.item .html [] "hot".toList .none)
        (.item .html [] "dry".toList .none))

/-- The list below a text, in a quoted item with a number of two digits. -/
def quotedLaundry : List Node :=
  let start : Attribute := ⟨.none, "start", "10".toList⟩
  let item := Node.element .html "li" [] [.text "Laundry:".toList, laundry.node]
  [.element .html "blockquote" [] [.element .html "ol" [start] [item]]]

/-- The Markdown of the quoted list. -/
def quotedLaundryMarkdown : Text :=
  "> 10. Laundry:\n> \n>    - wash\n> \n>      1. hot\n> \n>    - dry\n\n".toList

/-- Both items start behind the quotation mark and the indentation. -/
theorem items_line_up_laundry :
    ∃ above lines below, Text.splitOn '\n' quotedLaundryMarkdown = above ++ lines ++ below ∧
      Text.RowsAt ⟨5, 5⟩ laundry.rows lines ∧
      ((∃ column, List.Forall₂ (Text.RowAt column) laundry.rows lines) ↔
        Columns.OneFor ⟨5, 5⟩ laundry.rows) := by
  have below : Text.Place.after (.first 0 ⟨0, 0⟩)
      (draftNode (Settings.descend {}) false (.text "Laundry:".toList)) = .behind ⟨0, 0⟩ := rfl
  have inside : Placed laundry (Settings.descend {}) false .flow (.behind ⟨0, 0⟩)
      [.text "Laundry:".toList, laundry.node] := below ▸ .after .here
  have placed : Placed laundry {} false .flow (.behind ⟨5, 5⟩) quotedLaundry :=
    .quoted rfl (@Placed.listed _ _ _ _ _ _ _ _ .ordered (.item inside))
  have converts : Article.convertNodes none {} {} quotedLaundry =
      ({}, .ok quotedLaundryMarkdown) := rfl
  exact items_line_up_iff placed converts

/-- A list of two items. -/
def pair : Listing where
  space := .html
  kind := .unordered
  attributes := []
  entries := .item .html [] "a".toList (.item .html [] "b".toList .none)

/-- The list in a list, as all of a document. -/
def nestedPair : List Node :=
  [.element .html "ul" [] [pair.node]]

/-- The Markdown of the list in a list. -/
def nestedPairMarkdown : Text :=
  "- a\n\n  - b\n\n".toList

/-- The document is trimmed, and only the first item loses the indentation of the list. -/
theorem nested_items_apart :
    Article.convertNodes none {} {} nestedPair = ({}, .ok nestedPairMarkdown) ∧
      ¬ ∃ column above lines below,
        Text.splitOn '\n' nestedPairMarkdown = above ++ lines ++ below ∧
          List.Forall₂ (Text.RowAt column) pair.rows lines := by
  refine ⟨rfl, ?_⟩
  rintro ⟨column, above, lines, below, split, aligned⟩
  have rows : pair.rows = [some "- a".toList, none, some "- b".toList] := rfl
  rw [rows] at aligned
  obtain ⟨first, others, atFirst, aligned', rfl⟩ := List.forall₂_cons_left_iff.mp aligned
  obtain ⟨blank, others, -, aligned'', rfl⟩ := List.forall₂_cons_left_iff.mp aligned'
  obtain ⟨last, others, atLast, -, rfl⟩ := List.forall₂_cons_left_iff.mp aligned''
  obtain ⟨margin, wide, rfl⟩ := atFirst _ rfl
  obtain ⟨margin', wide', rfl⟩ := atLast _ rfl
  -- Each item is found on one line only, so its margin is that of this line.
  have narrow : ∀ line ∈ Text.splitOn '\n' nestedPairMarkdown, "- a".toList <:+ line →
      line.length = 3 := by decide
  have indented : ∀ line ∈ Text.splitOn '\n' nestedPairMarkdown, "- b".toList <:+ line →
      line.length = 5 := by decide
  have same : (margin ++ "- a".toList).length = (margin' ++ "- b".toList).length := by
    rw [List.length_append, List.length_append, wide, wide']
    rfl
  rw [narrow _ (by rw [split]; simp) (List.suffix_append _ _),
    indented _ (by rw [split]; simp) (List.suffix_append _ _)] at same
  cases same

/-- The list in the only cell of a table. -/
def laundryCell : List Node :=
  [.element .html "table" [] [.element .html "tr" [] [.element .html "td" [] [laundry.node]]]]

/-- The Markdown of the table with a list in its cell. -/
def laundryCellMarkdown : Text :=
  "| - wash<br />1. hot<br />- dry |\n|:---:|\n\n".toList

/-- A cell stays on one line, so the items in it have no lines of their own. -/
theorem cell_items_on_one_line :
    Article.convertNodes none {} {} laundryCell = ({}, .ok laundryCellMarkdown) ∧
      ¬ ∃ column above lines below,
        Text.splitOn '\n' laundryCellMarkdown = above ++ lines ++ below ∧
          List.Forall₂ (Text.RowAt column) laundry.rows lines := by
  refine ⟨rfl, ?_⟩
  rintro ⟨column, above, lines, below, split, aligned⟩
  have rows : laundry.rows = [some "- wash".toList, none, none, none, some "- dry".toList] := rfl
  rw [rows] at aligned
  obtain ⟨line, rest, first, -, rfl⟩ := List.forall₂_cons_left_iff.mp aligned
  obtain ⟨margin, -, rfl⟩ := first _ rfl
  have apart : ∀ line ∈ Text.splitOn '\n' laundryCellMarkdown, ¬ "- wash".toList <:+ line := by
    decide
  refine apart (margin ++ "- wash".toList) ?_ (List.suffix_append _ _)
  rw [split]
  simp

end Listing
end ArticleMarkdown
