import ArticleMarkdown.Markdown.Inline
import ArticleMarkdown.Markdown.Code
import ArticleMarkdown.Markdown.Formula
import ArticleMarkdown.Proofs.Asset.Numbering
import ArticleMarkdown.Proofs.Markdown.Drawing
import ArticleMarkdown.Proofs.Markdown.Ink

/-!
# Rules that convert no nodes

What these rules write they take from attributes and from the text below their elements. In a
document that does not mention the mark of centred images, what they write is quiet: it does not
hold the mark, and keeps apart what stands around it.
-/

namespace ArticleMarkdown

open Node Text

namespace Plain

private theorem respaced_squeezeFrom (inRun : Bool) (t : Text) {w : Text} (blank : isBlank w = true)
    (within : w = [] ↔ inRun = false) :
    Respaced ((if inRun then [' '] else []) ++ squeezeFrom inRun t) (w ++ t) := by
  have run : Respaced (if inRun then [' '] else []) w := by
    refine .of_blank ?_ blank ?_
    · cases inRun <;> rfl
    · rw [within]
      cases inRun <;> simp
  fun_induction squeezeFrom inRun t generalizing w with
  | case1 inRun => exact run.append .nil
  | case2 inRun c rest space ih =>
      have longer : isBlank (w ++ [c]) = true := by
        rw [isBlank_append, blank]
        exact isBlank_iff.mpr (List.forall_mem_singleton.mpr (isSpace_of_isMarkupSpace space))
      have later := ih longer (by simp) (.of_blank rfl longer (by simp))
      rw [if_pos rfl, List.append_assoc, List.singleton_append] at later
      cases inRun <;> exact later
  | case3 inRun c rest _ ih =>
      exact run.append (.char c (ih (w := []) rfl (by simp) .nil))

/-- Whitespace around a text that shows something becomes a separator on the same side. -/
theorem respaced_edgeBreak {w : Text} (blank : isBlank w = true) {edge : Option Char}
    (same : edge.any isSpace = true ↔ w ≠ []) : Respaced (edgeBreak edge).spread w := by
  have blank' : isBlank (edgeBreak edge).spread = true := by
    rw [edgeBreak]
    split <;> rfl
  refine .of_blank blank' blank ?_
  by_cases space : edge.any isSpace = true
  · rw [edgeBreak, if_pos space]
    exact iff_of_false (by decide) (same.mp space)
  · rw [edgeBreak, if_neg space]
    exact iff_of_true rfl (not_not.mp (mt same.mpr space))

private theorem head?_isSpace_iff {w t : Text} (blank : isBlank w = true)
    (solid : ∀ c ∈ t.head?, isSpace c = false) :
    (w ++ t).head?.any isSpace = true ↔ w ≠ [] := by
  cases w with
  | nil =>
      cases first : t.head? with
      | none => simp [first]
      | some c => simp [first, solid c first]
  | cons d rest => simp [isBlank_iff.mp blank d List.mem_cons_self]

private theorem getLast?_isSpace_iff {w t : Text} (blank : isBlank w = true)
    (solid : ∀ c ∈ t.getLast?, isSpace c = false) :
    (t ++ w).getLast?.any isSpace = true ↔ w ≠ [] := by
  rcases List.eq_nil_or_concat' w with rfl | ⟨rest, d, rfl⟩
  · cases last : t.getLast? with
    | none => simp [last]
    | some c => simp [last, solid c last]
  · simp [isBlank_iff.mp blank d (by simp)]

/-- A text node is shown with other whitespace. -/
theorem respaced_fragment (t : Text) : Respaced (fragment t).spread t := by
  obtain ⟨before, blank, starts⟩ := trimStart_split t
  obtain ⟨after, blank', ends⟩ := trimEnd_split (trimStart t)
  change trimStart t = trim t ++ after at ends
  have whole : before ++ trim t ++ after = t := by rw [List.append_assoc, ← ends, ← starts]
  rw [fragment]
  split
  · next nothing =>
    have empty : isBlank t = true := by
      rw [← whole, nothing]
      simp [blank, blank']
    have edge := head?_isSpace_iff (t := []) empty fun c first => by cases first
    rw [List.append_nil] at edge
    exact respaced_edgeBreak empty edge
  · next filled =>
    have opens : t.head?.any isSpace = true ↔ before ≠ [] := by
      rw [starts]
      exact head?_isSpace_iff blank fun c first => head?_trimStart first
    have closes : t.getLast?.any isSpace = true ↔ after ≠ [] := by
      rw [← whole]
      refine getLast?_isSpace_iff blank' fun c last => ?_
      rw [List.getLast?_append, Option.or_of_isSome (by simpa using filled)] at last
      exact getLast?_trim last
    have front := respaced_edgeBreak blank opens
    have middle := respaced_squeezeFrom false (trim t) (w := []) rfl (by simp)
    have parts := (front.append middle).append (respaced_edgeBreak blank' closes)
    rw [List.nil_append, whole] at parts
    rw [Fragment.spread_append, Fragment.spread_append, Fragment.spread_ofText]
    exact parts
end Plain

namespace Text

variable {p t : Text}

/-- What a text does not hold is not in it trimmed. -/
theorem not_infix_trim (clear : ¬p <:+: t) : ¬p <:+: trim t :=
  fun held => clear (held.trans (infix_trim t))

/-- What `p` holds nothing of may be left out of a text that does not mention it. -/
theorem not_infix_filter (lasting : ∀ c ∈ p, isLasting c = true) {q : Char → Bool}
    (keeps : ∀ c, isLasting c = true → q c = true) (clear : ¬p <:+: bare t) :
    ¬p <:+: t.filter q := by
  intro held
  have inBare := infix_bare lasting held
  rw [bare_filter keeps] at inBare
  exact clear inBare

end Text

/-- A fragment that shows nothing, or keeps apart what stands around it and does not hold the
mark. -/
def Fragment.Quiet (f : Fragment) : Prop :=
  f.spread = [] ∨ Severs markText f.spread

namespace Fragment.Quiet

variable {f : Fragment} {t : Text}

/-- The empty fragment is quiet. -/
theorem empty : (∅ : Fragment).Quiet := .inl rfl

/-- A quiet fragment can stand among any texts. -/
theorem covered (quiet : f.Quiet) (texts : List Text) : Covered markText texts f.spread := by
  rcases quiet with nothing | severs
  · rw [nothing]
    exact .nil _ _
  · exact .of_severs severs texts

private theorem ofText (severs : Severs markText t) : (Fragment.ofText t).Quiet := by
  rw [Quiet, spread_ofText]
  exact .inr severs

/-- A space keeps apart what stands around it. -/
theorem space : Severs markText [' '] := by decide

/-- A block that does not hold the mark is quiet. -/
theorem blocked (clear : ¬f.Mentions markText) : f.blocked.Quiet := by
  right
  have whole := space.enclose space clear
  rwa [Fragment.blocked, spread_append, spread_append, List.append_assoc]

/-- A part of a line that stands apart and does not hold the mark is quiet. -/
theorem inlined (clear : ¬f.Mentions markText) : f.inlined.Quiet := by
  right
  have whole := space.enclose space clear
  rwa [Fragment.inlined, spread_append, spread_append, List.append_assoc]

/-- A text in a block of its own is quiet, if it does not hold the mark. -/
theorem blockText (clear : ¬markText <:+: t) : (Fragment.blockText t).Quiet := by
  refine blocked ?_
  rwa [Mentions, spread_ofText]

/-- A text that stands apart in a line is quiet, if it does not hold the mark. -/
theorem inlineText (clear : ¬markText <:+: t) : (Fragment.inlineText t).Quiet := by
  refine inlined ?_
  rwa [Mentions, spread_ofText]

end Fragment.Quiet

namespace Node.Unmentioned

variable {node : Node} {nodes : List Node}

private theorem bare_textContent (unmentioned : Unmentioned markText [node]) :
    ¬markText <:+: bare node.textContent :=
  unmentioned.textContentWithout _

/-- The text of nodes does not hold the mark. -/
theorem not_infix_textContents (unmentioned : Unmentioned markText nodes) :
    ¬markText <:+: Node.textContents nodes :=
  fun held => unmentioned.textContents (infix_bare markText_lasting held)

private theorem not_infix_textContent (unmentioned : Unmentioned markText [node]) :
    ¬markText <:+: node.textContent :=
  fun held => unmentioned.bare_textContent (infix_bare markText_lasting held)

private theorem not_infix_text {content : Text}
    (unmentioned : Unmentioned markText [.text content]) :
    ¬markText <:+: content := by
  have clear := unmentioned.not_infix_textContent
  rwa [textContent_text] at clear

end Node.Unmentioned

section Elements

variable {space : ElementSpace} {name : String} {attributes : List Attribute} {children : List Node}
  {f : Fragment}

namespace Note

/-- A reference to a note is quiet. -/
theorem quiet_reference (shown : reference? attributes children = some f) : f.Quiet := by
  rw [reference?] at shown
  split at shown
  · cases shown
    have opening : Severs markText ['[', '^'] := by decide
    refine .ofText (opening.enclose (by decide : Severs markText [']']) ?_)
    refine not_infix_of_notMem (c := 'd') (by decide) fun member => ?_
    have digit := (List.mem_filter.mp member).2
    cases digit
  · cases shown

private theorem not_infix_text {entry : Node} (unmentioned : Unmentioned markText [entry]) :
    ¬markText <:+: text entry := by
  have glyphless : bare (removeAll returnGlyph entry.textContent) = bare entry.textContent :=
    bare_removeAll_go (by decide) (of_any_eq_false (by decide)) 0 _ nofun
  refine not_infix_trim (not_infix_filter markText_lasting (fun c lasting => ?_) ?_)
  · simp only [isLasting, Bool.and_eq_true] at lasting
    exact lasting.1.2
  · rw [glyphless]
    exact unmentioned.bare_textContent

private theorem not_infix_definition {entry : Node} (unmentioned : Unmentioned markText [entry])
    (index : Nat) : ¬markText <:+: definition index entry := by
  have opening : Severs markText "[^".toList := by decide
  have closing : Severs markText "]: ".toList := by decide
  have number : ¬markText <:+: Text.ofNat (index + 1) := by
    refine not_infix_of_notMem (c := 'd') (by decide) fun member => ?_
    have digit := isDigit_of_mem_ofNat member
    cases digit
  rw [definition, List.append_assoc, List.append_assoc, opening.infix_behind_iff, closing.infix_iff]
  exact not_or.mpr ⟨number, not_infix_text unmentioned⟩

/-- The definitions of notes are quiet, if their texts do not hold the mark. -/
theorem quiet_definitions (unmentioned : Unmentioned markText children) :
    (definitions children).Quiet := by
  simp only [definitions]
  split
  · exact .empty
  · refine .blockText fun held => ?_
    obtain ⟨piece, member, inPiece⟩ := solid_markText.infix_join rfl held
    obtain ⟨⟨entry, index⟩, listed, rfl⟩ := List.mem_map.mp member
    have within := (List.mem_filter.mp (List.fst_mem_of_mem_zipIdx listed)).1
    exact not_infix_definition (unmentioned.of_mem within) index inPiece

end Note

/-- A displayed formula is quiet, if its source does not hold the mark. -/
theorem Image.quiet_displayFormula {source : Text} (clear : ¬markText <:+: source) :
    (displayFormula source).Quiet := by
  have opening : Severs markText "$$\n".toList := by decide
  have closing : Severs markText "\n$$".toList := by decide
  rw [displayFormula, List.append_assoc]
  exact .blockText (opening.enclose closing clear).clear

namespace Formula

/-- Whitespace is held back when a formula is split into its pieces. -/
theorem piecesFrom_space {c : Char} (space : isSpace c = true) (held rest : Text) :
    piecesFrom held (c :: rest) = piecesFrom (held ++ [c]) rest := by
  rw [piecesFrom, if_pos space]

private theorem piecesFrom_solid {c : Char} (solid : isSpace c = false) (held rest : Text) :
    ∃ first others, (piecesFrom [] rest = first :: others ∨ first = [] ∧ others = []) ∧
      (piecesFrom held (c :: rest) = [] :: (c :: first) :: others ∨
        piecesFrom held (c :: rest) = (held ++ c :: first) :: others) := by
  rw [piecesFrom, if_neg (by rw [solid]; exact Bool.false_ne_true)]
  cases piecesFrom [] rest with
  | nil => exact ⟨[], [], .inr ⟨rfl, rfl⟩, ite_eq_or_eq _ _ _⟩
  | cons first others => exact ⟨first, others, .inl rfl, ite_eq_or_eq _ _ _⟩

/-- Pieces stand in the text, and the first one at its start. -/
theorem pieces_within {t : Text} : ∀ {held first : Text} {others : List Text},
    piecesFrom held t = first :: others →
      first <+: held ++ t ∧ ∀ piece ∈ others, piece <:+: held ++ t := by
  induction t with
  | nil =>
      intro held first others split
      rw [piecesFrom] at split
      split at split
      · cases split
        exact ⟨List.nil_prefix, List.forall_mem_singleton.mpr List.nil_infix⟩
      · cases split
        exact ⟨List.prefix_append _ _, List.forall_mem_nil _⟩
  | cons c rest ih =>
      intro held first others split
      cases space : isSpace c with
      | true =>
          rw [piecesFrom_space space] at split
          rw [List.append_cons]
          exact ih split
      | false =>
          obtain ⟨next, more, below, here⟩ := piecesFrom_solid space held rest
          have parts : next <+: rest ∧ ∀ piece ∈ more, piece <:+: rest := by
            rcases below with below | ⟨rfl, rfl⟩
            · exact ih below
            · exact ⟨List.nil_prefix, List.forall_mem_nil _⟩
          have starts : c :: next <+: c :: rest := List.cons_prefix_cons.mpr ⟨rfl, parts.1⟩
          have later : ∀ piece ∈ more, piece <:+: held ++ c :: rest := fun piece member =>
            List.infix_append_of_infix_right (List.infix_cons (parts.2 piece member))
          rcases here with long | short
          · rw [long] at split
            cases split
            exact ⟨List.nil_prefix, List.forall_mem_cons.mpr
              ⟨List.infix_append_of_infix_right starts.isInfix, later⟩⟩
          · rw [short] at split
            cases split
            exact ⟨(List.prefix_append_right_inj held).mpr starts, later⟩

private theorem infix_of_mem_pieces {t piece : Text} (member : piece ∈ pieces t) :
    piece <:+: t := by
  rw [pieces] at member
  cases split : piecesFrom [] t with
  | nil =>
      rw [split] at member
      cases member
  | cons first others =>
      obtain ⟨starts, later⟩ := pieces_within split
      rw [split] at member
      rcases List.mem_cons.mp member with rfl | other
      · exact starts.isInfix
      · exact later piece other

/-- The last one of the longest texts is one of them, or empty if there is none. -/
theorem lastLongest_mem (texts : List Text) : lastLongest texts ∈ [] :: texts := by
  have run : ∀ (rest : List Text) (best : Text),
      rest.foldl (fun best t => if best.length ≤ t.length then t else best) best ∈
        best :: rest := by
    intro rest
    induction rest with
    | nil => exact fun best => List.mem_cons_self
    | cons t rest ih =>
        intro best
        rw [List.foldl_cons]
        rcases List.mem_cons.mp (ih (if best.length ≤ t.length then t else best)) with same | later
        · rw [same]
          split <;> simp
        · simp [later]
  exact run texts []

/-- The source of a formula stands in the visible text of its first half. -/
theorem infix_source (first second : Text) : source first second <:+: stripInvisible first := by
  simp only [source]
  split
  · rcases List.mem_cons.mp (lastLongest_mem ((pieces (stripInvisible first)).map trim)) with
      nothing | member
    · rw [nothing]
      exact List.nil_infix
    · obtain ⟨piece, within, same⟩ := List.mem_map.mp member
      rw [← same]
      exact (infix_trim piece).trans (infix_of_mem_pieces within)
  · refine (infix_trim _).trans ?_
    cases dropped : dropPrefix? (stripInvisible second) (stripInvisible first) with
    | none => exact List.nil_infix
    | some rest =>
        rw [append_of_dropPrefix? dropped]
        exact (List.suffix_append _ _).isInfix

/-- A formula is quiet, if its text nodes do not hold the mark. -/
theorem quiet_fragment (unmentioned : Unmentioned markText children)
    (shown : fragment? attributes children = some f) : f.Quiet := by
  simp only [fragment?] at shown
  split at shown
  · obtain ⟨half, found, rfl⟩ := Option.map_eq_some_iff.mp shown
    have within := unmentioned.of_mem (List.mem_of_find?_eq_some found)
    generalize Option.getD _ _ = second
    have clear : ¬markText <:+: source (half.textContentWithout isDecoration) second := by
      intro held
      refine not_infix_filter markText_lasting (fun c lasting => ?_)
        (within.textContentWithout isDecoration) (held.trans (infix_source _ _))
      simp only [isLasting, Bool.and_eq_true] at lasting
      exact lasting.1.1
    rw [fragment]
    split
    · exact .empty
    · split
      · exact Image.quiet_displayFormula clear
      · have mark : Severs markText ['$'] := by decide
        exact .inlineText (mark.enclose mark clear).clear
  · cases shown

end Formula

namespace Code

private theorem infix_dropFinalBreak (t : Text) : dropFinalBreak t <:+: t := by
  rw [dropFinalBreak, dropLast?]
  split
  · exact (List.dropLast_prefix t).isInfix
  · exact List.infix_refl t

private theorem not_infix_source (unmentioned : Unmentioned markText children) :
    ¬markText <:+: source children := by
  rw [source]
  split
  · next list found =>
    intro held
    obtain ⟨piece, member, inPiece⟩ := solid_markText.infix_join rfl held
    obtain ⟨item, within, rfl⟩ := List.mem_map.mp member
    have inList := unmentioned.of_mem (mem_subtrees (List.mem_of_find?_eq_some found))
    have inItem := inList.children.of_mem (mem_subtrees (List.mem_filter.mp within).1)
    exact inItem.not_infix_textContent inPiece
  · exact fun held => unmentioned.not_infix_textContents (held.trans (infix_dropFinalBreak _))

/-- The language is told by one of the classes, or not at all. -/
theorem infix_language (classes : List Text) :
    ∃ told ∈ [] :: classes, language classes <:+: told := by
  have none : ∃ told ∈ [] :: classes, ([] : Text) <:+: told :=
    ⟨[], List.mem_cons_self, List.infix_refl _⟩
  unfold language
  split
  · next c rest found =>
    obtain ⟨told, member, dropped⟩ := List.exists_of_findSome?_eq_some found
    refine ⟨told, List.mem_cons_of_mem _ member, ?_⟩
    rw [append_of_dropPrefix? dropped]
    exact (List.suffix_append _ _).isInfix
  · split
    · next first second others _ =>
      split
      · exact ⟨second, by simp, List.infix_refl _⟩
      · exact none
    · exact none

private theorem not_infix_language {node : Node} (unmentioned : Unmentioned markText [node]) :
    ¬markText <:+: language (Attribute.classes node.attributes) := by
  intro held
  obtain ⟨told, member, within⟩ := infix_language (Attribute.classes node.attributes)
  rcases List.mem_cons.mp member with rfl | member
  · exact solid_markText.filled (List.infix_nil.mp (held.trans within))
  · have piece := infix_of_mem_splitBy (List.mem_filter.mp member).1
    exact unmentioned.valueOf solid_markText.filled "class" ((held.trans within).trans piece)

/-- Fences hold nothing but backticks. -/
theorem not_mem_fence (n : Nat) : 'd' ∉ repeated n '`' := by
  intro member
  cases List.eq_of_mem_replicate member

private theorem not_infix_fenced {t language : Text} (clear : ¬markText <:+: t)
    (clear' : ¬markText <:+: language) : ¬markText <:+: fenced t language := by
  intro held
  simp only [fenced] at held
  rcases solid_markText.infix_across rfl held with front | back
  · rcases solid_markText.infix_across rfl front with head | body
    · exact clear' (infix_of_append_of_head? rfl (not_mem_fence _) head)
    · exact clear body
  · exact not_infix_of_notMem (by decide) (not_mem_fence _) back

/-- A code block is quiet, if its text nodes do not hold the mark. -/
theorem quiet_block (unmentioned : Unmentioned markText children) : (block children).Quiet := by
  rw [block]
  split
  · next code found =>
    have within := unmentioned.of_mem (List.mem_of_find?_eq_some found)
    exact .blockText
      (not_infix_fenced (not_infix_source within.children) (not_infix_language within))
  · refine .blockText (not_infix_fenced (fun held => ?_) (by decide))
    exact unmentioned.not_infix_textContents (held.trans (infix_dropFinalBreak _))

/-- Code in a line is quiet, if its text nodes do not hold the mark. -/
theorem quiet_inline (unmentioned : Unmentioned markText children) : (inline children).Quiet := by
  have clear : ¬markText <:+: (Node.textContents children).map
      fun c => if isLineBreak c then ' ' else c := by
    rw [(respaced_map_lineBreak _).infix_iff solid_markText]
    exact unmentioned.not_infix_textContents
  simp only [inline]
  generalize (Node.textContents children).map (fun c => if isLineBreak c then ' ' else c) = t
    at clear
  split
  · exact .empty
  · refine .inlineText ?_
    simp only [span]
    split
    · have mark : Severs markText ['`'] := by decide
      exact (mark.enclose mark clear).clear
    · intro held
      rcases solid_markText.infix_across rfl held with front | back
      · rcases solid_markText.infix_across rfl front with head | inner
        · exact not_infix_of_notMem (by decide) (not_mem_fence _) head
        · exact clear inner
      · exact not_infix_of_notMem (by decide) (not_mem_fence _) back

end Code

namespace Color

private theorem not_infix_loneText (unmentioned : Unmentioned markText children) {shown : Text}
    (lone : loneText? children = some shown) : ¬markText <:+: shown := by
  unfold loneText? at lone
  split at lone
  · split at lone
    · cases lone
    · cases lone
      exact not_infix_trim unmentioned.not_infix_text
  · cases lone

private theorem quiet_element {name key : String} {value text : Text}
    (opening : Severs markText ('<' :: name.toList ++ ' ' :: key.toList ++ ['=', '"']))
    (closing : Severs markText (Markup.endTag name)) (value' : ¬markText <:+: value)
    (text' : ¬markText <:+: text) : (element name key value text).Quiet := by
  have middle : Severs markText ['"', '>'] := by decide
  have behind := middle.enclose closing (Markup.not_infix_encodeText text')
  have whole := opening.enclose behind (Markup.not_infix_encodeValue value')
  refine .ofText ?_
  simpa using whole

/-- A styled span is quiet, if its words do not hold the mark. -/
theorem quiet_span (unmentioned : Unmentioned markText [.element space name attributes children])
    (shown : span? attributes children = some f) : f.Quiet := by
  rw [span?] at shown
  split at shown
  · obtain ⟨lone, found, rfl⟩ := Option.map_eq_some_iff.mp shown
    have style := unmentioned.valueOf solid_markText.filled "style"
    exact quiet_element (by decide) (by decide) (not_infix_trim style)
      (not_infix_loneText unmentioned.children found)
  · cases shown

/-- Coloured text is quiet, if its words do not hold the mark. -/
theorem quiet_font (unmentioned : Unmentioned markText [.element space name attributes children])
    (shown : font? attributes children = some f) : f.Quiet := by
  simp only [font?] at shown
  split at shown
  · cases shown
  · obtain ⟨lone, found, rfl⟩ := Option.map_eq_some_iff.mp shown
    have color := unmentioned.valueOf solid_markText.filled "color"
    exact quiet_element (by decide) (by decide) (not_infix_trim color)
      (not_infix_loneText unmentioned.children found)

end Color

/-- A centred text is quiet, if it does not hold the mark. -/
theorem Centered.quiet_text (unmentioned : Unmentioned markText children) {shown : Text}
    (lone : loneText? children = some shown) : (text shown).Quiet := by
  unfold loneText? at lone
  split at lone
  · cases lone
    have clear := Markup.not_infix_encodeText (not_infix_trim unmentioned.not_infix_text)
    have opening : Severs markText "<center>".toList := by decide
    have closing : Severs markText "</center>".toList := by decide
    rw [text]
    split
    · exact .empty
    · rw [List.append_assoc]
      exact .blockText (opening.enclose closing clear).clear
  · cases lone

/-- A checkbox is quiet. -/
theorem Checkbox.quiet_fragment (attributes : List Attribute) : (fragment attributes).Quiet := by
  rw [fragment]
  split
  · split
    · exact .ofText (by decide)
    · exact .ofText (by decide)
  · exact .empty

end Elements

end ArticleMarkdown
