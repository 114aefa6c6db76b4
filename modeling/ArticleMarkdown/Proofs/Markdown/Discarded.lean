import ArticleMarkdown.Article.Convert
import ArticleMarkdown.Proofs.Document.Cleared
import ArticleMarkdown.Proofs.Text.Ink

/-!
# Discarded content

What stands in a discarded element has no influence on the conversion, unless an element around it
reads it by other means than its rules (`Reading.all`). A document converts as the cleared document
does (`draftNodes_clearedAll`).
-/

namespace ArticleMarkdown

open Node

section Rules

variable {inHeading : Bool} {children : List Node}

private theorem Text.isBlank_stripInvisible_of_sublist {s t : Text} (part : s.Sublist t)
    (blank : isBlank (stripInvisible t) = true) : isBlank (stripInvisible s) = true := by
  have within : (stripInvisible s).Sublist (stripInvisible t) := part.filter _
  exact isBlank_iff.mpr fun c member => isBlank_iff.mp blank c (within.subset member)

/-- An empty link shows nothing once it is cleared. -/
theorem Heading.isEmptyLink_clearedAll {space : ElementSpace} {name : String}
    {attributes : List Attribute}
    (empty : isEmptyLink (.element space name attributes children) = true) (reads : Reading) :
    isEmptyLink (.element space name attributes (clearedAll reads inHeading children)) = true := by
  simp only [isEmptyLink, Bool.and_eq_true, Bool.not_eq_true', descendants, Node.children,
    textContent_element] at empty ⊢
  obtain ⟨⟨link, blank⟩, noImage⟩ := empty
  refine ⟨⟨link, ?_⟩, ?_⟩
  · exact Text.isBlank_stripInvisible_of_sublist
      (textContents_clearedAll_sublist reads inHeading children) blank
  · rw [Bool.eq_false_iff] at noImage ⊢
    exact mt (any_subtrees_clearedAll reads inHeading) noImage

private theorem Rule.of_discard {name : String} (discarded : ofName name = .discard) :
    name = "script" ∨ name = "style" ∨ name = "button" ∨ name = "noscript" := by
  unfold ofName at discarded
  split at discarded <;> cases discarded <;> decide

/-- Items, rows, groups of rows and cells are not discarded. -/
theorem Rule.ne_discard {name : String}
    (part : name ∈ ["li", "tr", "thead", "tbody", "tfoot", "td", "th"]) :
    ofName name ≠ .discard := by
  intro discarded
  rcases of_discard discarded with rfl | rfl | rfl | rfl <;> exact absurd part (by decide)

private theorem Heading.isEmptyLink_space (space : ElementSpace) (name : String)
    (attributes : List Attribute) (children : List Node) :
    isEmptyLink (.element space name attributes children) =
      isEmptyLink (.element .html name attributes children) := by
  simp only [isEmptyLink, textContent_element, isElement, name?, descendants, Node.children]

private theorem Heading.isEmptyLink_cleared (node : Node) :
    isEmptyLink (node.cleared .all true) = isEmptyLink node := by
  cases node with
  | element space name attributes children =>
      by_cases discarded : Rule.ofName name = .discard
      · have noLink : Attribute.sameName name "a" = false := by
          rcases Rule.of_discard discarded with rfl | rfl | rfl | rfl <;> decide
        simp [cleared_discarded discarded, isEmptyLink, isElement, name?, noLink]
      · rw [cleared_content discarded]
        split
        · rfl
        · next unread =>
          have shows : ¬ isEmptyLink (.element space name attributes
              (clearedAll .all (Rule.ofName name).isHeading children)) = true := by
            intro empty
            apply unread
            simp [Reading.all, ← isEmptyLink_space space, empty]
          have shows' : ¬ isEmptyLink (.element space name attributes children) = true :=
            fun empty => shows (isEmptyLink_clearedAll empty .all)
          rw [Bool.eq_false_iff.mpr shows, Bool.eq_false_iff.mpr shows']
  | _ => rfl

private theorem Paragraph.form_clearedAll (s : Settings) {attributes : List Attribute}
    (reads : Reading)
    (unaligned : isAligned attributes (clearedAll reads inHeading children) = false) :
    form s attributes (clearedAll reads inHeading children) = form s attributes children := by
  unfold isAligned form at unaligned
  unfold form
  split
  · rfl
  · next uncentred =>
    split
    · rfl
    · next unnamed =>
      split
      · rfl
      · next flush =>
        rw [if_neg uncentred, if_neg unnamed, if_neg flush] at unaligned
        split
        · next side styled =>
          rw [styled] at unaligned
          split
          · next aside =>
            by_cases image : (subtrees (clearedAll reads inHeading children)).any
                (Node.isElement "img") = true
            · rw [if_pos image, if_pos (any_subtrees_clearedAll reads inHeading image)]
            · simp only at unaligned
              rw [if_pos aside, if_neg image] at unaligned
              cases unaligned
          · rfl
        · rfl

private theorem Paragraph.isAligned_of_form {s : Settings} {attributes : List Attribute}
    {side : Text}
    (aligned : form s attributes children = .aligned side) :
    isAligned attributes children = true := by
  unfold form at aligned
  split at aligned
  · cases aligned
  · next uncentred =>
    split at aligned
    · split at aligned <;> cases aligned
    · next unnamed =>
      split at aligned
      · cases aligned
      · next flush =>
        have same : form {} attributes children = .aligned side := by
          rw [form, if_neg uncentred, if_neg unnamed, if_neg flush]
          exact aligned
        rw [isAligned, same]

private theorem Centered.loneText?_clearedAll (reads : Reading) (inHeading : Bool)
    (children : List Node) :
    loneText? (clearedAll reads inHeading children) = loneText? children := by
  rcases lone_text_cases reads inHeading children with same | ⟨other, other'⟩
  · rw [same]
  · rw [loneText?.eq_2 _ other, loneText?.eq_2 _ other']

private theorem Color.loneText?_clearedAll (reads : Reading) (inHeading : Bool)
    (children : List Node) :
    loneText? (clearedAll reads inHeading children) = loneText? children := by
  rcases lone_text_cases reads inHeading children with same | ⟨other, other'⟩
  · rw [same]
  · rw [loneText?.eq_2 _ other, loneText?.eq_2 _ other']

private theorem Table.mem_of_isRowGroup {name : String} (group : isRowGroup name = true) :
    name ∈ ["li", "tr", "thead", "tbody", "tfoot", "td", "th"] := by
  simp only [isRowGroup, Bool.or_eq_true, beq_iff_eq] at group
  rcases group with (rfl | rfl) | rfl <;> decide

private theorem Table.mem_of_isCell {name : String} (cell : isCell name = true) :
    name ∈ ["li", "tr", "thead", "tbody", "tfoot", "td", "th"] := by
  simp only [isCell, Bool.or_eq_true, beq_iff_eq] at cell
  rcases cell with rfl | rfl <;> decide

private theorem Table.hasRows_clearedAll (reads : Reading) (inHeading : Bool)
    (children : List Node) :
    hasRows (clearedAll reads inHeading children) = hasRows children := by
  have rows : ∀ inHeading nodes, (clearedAll reads inHeading nodes).any
      (fun node => node.name? == some "tr") = nodes.any fun node => node.name? == some "tr" :=
    fun inHeading nodes => any_clearedAll reads inHeading fun node _ => by rw [name?_cleared]
  refine any_clearedAll reads inHeading fun node _ => ?_
  simp only [name?_cleared]
  cases node with
  | element space name attributes children =>
      by_cases group : isRowGroup name = true
      · rw [cleared_content (Rule.ne_discard (mem_of_isRowGroup group))]
        simp only [Node.children]
        split
        · rfl
        · rw [rows]
      · simp [name?, group]
  | _ => simp [name?]

end Rules

mutual

/-- A node is drafted alike when what is discarded below it is cleared. -/
theorem draftNode_cleared (s : Settings) (centered inHeading : Bool) :
    ∀ node, draftNode s centered (node.cleared .all inHeading) = draftNode s centered node
  | .element space name attributes children => by
      have below := fun centered inHeading => draftNodes_clearedAll s centered inHeading children
      have items := fun inHeading kind number =>
        draftItems_clearedAll s.descend centered inHeading kind number children
      have rows := fun inHeading => draftRows_clearedAll s centered false inHeading children
      by_cases discarded : Rule.ofName name = .discard
      · rw [cleared_discarded discarded, draftNode.eq_def,
          draftNode.eq_def s centered (.element space name attributes children)]
        simp only [discarded]
      · rw [cleared_content discarded]
        split
        · rfl
        · next unread =>
          rw [draftNode.eq_def, draftNode.eq_def s centered
            (.element space name attributes children)]
          simp only [Reading.all, Bool.or_eq_true, not_or] at unread
          replace unread := unread.1
          simp only
          cases named : Rule.ofName name with
          | discard => exact absurd named discarded
          | drawing | codeBlock | inlineCode | raw =>
              rw [named] at unread
              exact absurd rfl unread
          | image | checkbox | thematicBreak => rfl
          | heading level => simp only [Rule.isHeading, draftHeading_clearedAll s centered children]
          | paragraph =>
              simp only [named] at unread
              rw [Paragraph.form_clearedAll s _ (Bool.eq_false_iff.mpr unread)]
              cases form : Paragraph.form s attributes children with
              | aligned side =>
                  rw [← Paragraph.form_clearedAll s _ (Bool.eq_false_iff.mpr unread)] at form
                  exact absurd (Paragraph.isAligned_of_form form) unread
              | centering | contents | dropped | plain => simp only [below]
          | emphasis kind => simp only [below]
          | link => simp only [below]
          | list kind => simp only [items]
          | quotation => simp only [below]
          | table => simp only [Table.hasRows_clearedAll, rows, below]
          | span =>
              simp only [named] at unread
              simp only [Formula.fragment?, if_neg unread, Color.span?, Color.loneText?_clearedAll,
                below]
          | font => simp only [Color.font?, Color.loneText?_clearedAll, below]
          | superscript =>
              simp only [named, Bool.not_eq_true] at unread
              simp only [Note.reference?, unread, Bool.false_and, Bool.false_eq_true,
                if_false, below]
          | subscript => simp only [below]
          | center => simp only [Centered.loneText?_clearedAll, below]
          | container =>
              simp only [named] at unread
              simp only [if_neg unread, below]
          | transparent => simp only [below]
  | .document children => by
      rw [cleared.eq_def, draftNode.eq_def, draftNode.eq_def s centered (.document children)]
      exact draftNodes_clearedAll s centered false children
  | .text _ | .comment _ | .doctype _ | .instruction _ _ => rfl

private theorem draftNodes_clearedAll (s : Settings) (centered inHeading : Bool) :
    ∀ nodes, draftNodes s centered (clearedAll .all inHeading nodes) = draftNodes s centered nodes
  | [] => rfl
  | node :: rest => by
      rw [clearedAll, draftNodes, draftNodes, draftNode_cleared s centered inHeading node,
        draftNodes_clearedAll s centered inHeading rest]

/-- The content of a heading is drafted alike when what is discarded in it is cleared. -/
theorem draftHeading_clearedAll (s : Settings) (centered : Bool) :
    ∀ nodes, draftHeading s centered (clearedAll .all true nodes) = draftHeading s centered nodes
  | [] => rfl
  | node :: rest => by
      rw [clearedAll, draftHeading, draftHeading, draftNode_cleared s centered true node,
        draftHeading_clearedAll s centered rest, Heading.isEmptyLink_cleared]

/-- So is the content of an element that is not discarded itself. -/
theorem draftContent_cleared (s : Settings) (centered inHeading : Bool) :
    ∀ node : Node, (∀ name, node.name? = some name → Rule.ofName name ≠ .discard) →
      draftContent s centered (node.cleared .all inHeading) = draftContent s centered node
  | .element space name attributes children => by
      intro content
      rw [cleared.eq_def]
      simp only
      rw [if_neg (content name rfl)]
      split
      · rfl
      · rw [draftContent, draftContent]
        exact draftNodes_clearedAll s centered _ children
  | .document children => by
      intro _
      rw [cleared.eq_def, draftContent, draftContent]
      exact draftNodes_clearedAll s centered false children
  | .text _ | .comment _ | .doctype _ | .instruction _ _ => fun _ => rfl

/-- The items of a list are drafted alike when what is discarded among them is cleared. -/
theorem draftItems_clearedAll (s : Settings) (centered inHeading : Bool) (kind : ListKind)
    (number : Nat) :
    ∀ nodes, draftItems s centered kind number (clearedAll .all inHeading nodes) =
      draftItems s centered kind number nodes
  | [] => rfl
  | node :: rest => by
      have later := fun number => draftItems_clearedAll s centered inHeading kind number rest
      rw [clearedAll, draftItems, draftItems, name?_cleared, later, later,
        draftNode_cleared s centered inHeading node]
      split
      · next item =>
        rw [draftContent_cleared s centered inHeading node fun name named => ?_]
        rw [named, beq_iff_eq] at item
        cases item
        exact Rule.ne_discard (by decide)
      · rfl

/-- So are the rows of a table. -/
theorem draftRows_clearedAll (s : Settings) (centered grouped inHeading : Bool) :
    ∀ nodes, draftRows s centered grouped (clearedAll .all inHeading nodes) =
      draftRows s centered grouped nodes
  | [] => rfl
  | .element space name attributes children :: rest => by
      have later := draftRows_clearedAll s centered grouped inHeading rest
      by_cases discarded : Rule.ofName name = .discard
      · have noRow : ¬ (name == "tr") = true := by
          intro row
          exact Rule.ne_discard (by simp [beq_iff_eq.mp row]) discarded
        have noGroup : ¬ (Table.isRowGroup name && !grouped) = true := by
          intro group
          exact Rule.ne_discard (Table.mem_of_isRowGroup (Bool.and_eq_true_iff.mp group).1)
            discarded
        rw [clearedAll, cleared_discarded discarded, draftRows.eq_def,
          draftRows.eq_def s centered grouped (.element space name attributes children :: rest)]
        simp only [if_neg noRow, if_neg noGroup, later]
      · rw [clearedAll, cleared_content discarded, draftRows.eq_def,
          draftRows.eq_def s centered grouped (.element space name attributes children :: rest)]
        simp only [later]
        cases Reading.all inHeading name attributes
          (clearedAll .all (Rule.ofName name).isHeading children) with
        | true => rfl
        | false =>
          simp only [Bool.false_eq_true, if_false, draftCells_clearedAll s centered _ children,
            draftRows_clearedAll s centered true _ children]
  | .text _ :: rest | .comment _ :: rest | .doctype _ :: rest | .instruction _ _ :: rest
  | .document _ :: rest => by
      have later := draftRows_clearedAll s centered grouped inHeading rest
      rw [clearedAll, cleared, draftRows.eq_def, draftRows.eq_def s centered grouped (_ :: rest)]
      exact later

/-- So are the cells of a row. -/
theorem draftCells_clearedAll (s : Settings) (centered inHeading : Bool) :
    ∀ nodes, draftCells s centered (clearedAll .all inHeading nodes) = draftCells s centered nodes
  | [] => rfl
  | node :: rest => by
      rw [clearedAll, draftCells, draftCells, name?_cleared, attributes_cleared,
        draftCells_clearedAll s centered inHeading rest]
      split
      · next cell =>
        rw [draftContent_cleared s centered inHeading node fun name named => ?_]
        rw [named] at cell
        exact Rule.ne_discard (Table.mem_of_isCell cell)
      · rfl

end

/-- Documents that differ only in what stands in discarded elements, outside of all elements that
read what lies below them, convert alike and leave the same store. -/
theorem Article.convertNodes_of_cleared (fetcher : Option Asset.Fetcher) (s : Settings)
    (store : Asset.Store) {first second : List Node}
    (same : clearedAll .all false first = clearedAll .all false second) :
    convertNodes fetcher s store first = convertNodes fetcher s store second := by
  have drafts : draftNodes s false first = draftNodes s false second := by
    rw [← draftNodes_clearedAll s false false first, same, draftNodes_clearedAll]
  rw [convertNodes, draftDocument, drafts]
  rfl

/-- A paragraph that holds a script and shows another text. -/
def scriptedParagraph (script : Text) : List Node :=
  [.element .html "p" [] [.element .html "script" [] [.text script], .text ['a']]]

/-- The script in a paragraph plays no part in its Markdown. -/
theorem Article.convertNodes_of_cleared_scriptedParagraph :
    convertNodes none {} {} (scriptedParagraph ['x']) =
      convertNodes none {} {} (scriptedParagraph ['y']) :=
  convertNodes_of_cleared none {} {} rfl

/-- A key whose name is a script. -/
def scriptedKey (script : Text) : List Node :=
  [.element .html "kbd" [] [.element .html "script" [] [.text script]]]

/-- Discarded content is shown by markup that is passed through, not only by drawings and code. -/
theorem Article.passedMarkup_shows_discarded :
    ¬ ∀ (fetcher : Option Asset.Fetcher) (s : Settings) (store : Asset.Store)
      (first second : List Node),
      clearedAll .verbatim false first = clearedAll .verbatim false second →
        convertNodes fetcher s store first = convertNodes fetcher s store second := by
  intro alike
  have same := alike none {} {} (scriptedKey ['x']) (scriptedKey ['y']) rfl
  have shown : (convertNodes none {} {} (scriptedKey ['x'])).2 ≠
      (convertNodes none {} {} (scriptedKey ['y'])).2 := by decide +kernel
  exact shown (congrArg Prod.snd same)

end ArticleMarkdown
