import ArticleMarkdown.Proofs.Fragment.Apart
import ArticleMarkdown.Proofs.Markdown.Anchored
import ArticleMarkdown.Proofs.Markdown.Listing

/-!
# Further lines of list items

A line belongs to the item above it if it is indented as far as the item's mark is long. Lists
indent all further lines of an item by a fixed width instead, and an item stands in the Markdown of
its list as it is laid out alone. So further lines hang below the mark if the number of the item has
one digit, and otherwise if the content is itself indented by what is missing
(`ListKind.items_hang_iff`).
-/

namespace ArticleMarkdown

open Text

namespace Text

/-- All lines but the first one are blank or indented by at least `width` spaces. -/
def Hangs (width : Nat) (t : Text) : Prop :=
  ∀ line ∈ (splitOn '\n' t).tail, isBlank line = true ∨ List.replicate width ' ' <+: line

instance (width : Nat) (t : Text) : Decidable (Hangs width t) :=
  inferInstanceAs (Decidable (∀ line ∈ (splitOn '\n' t).tail, _ ∨ _))

private theorem hangs_zero (t : Text) : Hangs 0 t :=
  fun _ _ => .inr List.nil_prefix

private theorem replicate_prefix_append_iff {c : Char} (m n : Nat) (t : Text) :
    List.replicate m c <+: List.replicate n c ++ t ↔ List.replicate (m - n) c <+: t := by
  rcases Nat.le_total m n with within | beyond
  · rw [Nat.sub_eq_zero_of_le within, ← Nat.add_sub_cancel' within, List.replicate_add,
      List.append_assoc]
    exact iff_of_true (List.prefix_append _ _) List.nil_prefix
  · obtain ⟨more, rfl⟩ := Nat.exists_eq_add_of_le beyond
    rw [Nat.add_sub_cancel_left, List.replicate_add, List.prefix_append_right_inj]

end Text

namespace Fragment.SetsApart

variable {f g : Fragment} {t : Text}

private theorem blocked_append (apart : f.blocked.SetsApart t) (g : Fragment) :
    (blockBreak ++ (f.closed ++ g)).SetsApart t := by
  have whole : f.blocked ++ g = blockBreak ++ (f.closed ++ g) := by
    refine congrArg Fragment.mk ?_
    have ends := Token.join_block (.blockBreak :: f.tokens) [] g.tokens
    rw [List.cons_append, ← tokens_blocked] at ends
    exact ends.trans (tokens_closed_append f g).symm
  exact whole ▸ apart.append_right g

private theorem behind_closed (apart : (blockBreak ++ g).SetsApart t) (f : Fragment) :
    (blockBreak ++ (f.closed ++ g)).SetsApart t := by
  rw [closed_append]
  exact (apart.append_left f).append_left blockBreak

end Fragment.SetsApart

namespace ListKind

variable (kind : ListKind) (number : Nat) (content : Fragment)

/-- A mark is a text that shows, and a space. -/
theorem mark_eq_concat : ∃ core, kind.mark number = core ++ [' '] ∧ Firm core := by
  cases kind with
  | unordered => exact ⟨['-'], rfl, .singleton rfl⟩
  | ordered =>
      refine ⟨Text.ofNat number ++ ['.'], (List.append_assoc _ ['.'] [' ']).symm, ?_,
        EndsFirm.prepend ⟨[], '.', rfl, rfl⟩ _⟩
      obtain ⟨digit, rest, starts, isDigit⟩ := ofNat_eq_cons number
      exact ⟨digit, rest ++ ['.'], by rw [starts]; rfl, isSpace_of_isDigit isDigit⟩

variable {first : Text} {others : List Text}
  (lines : splitOn '\n' content.finalText = first :: others)

include lines

private theorem laid_item_eq_join :
    (kind.item number content).laid = join ['\n'] ((kind.mark number ++ first) ::
      others.map fun line => kind.continuation line ++ line) := by
  have marks : ∀ index line, kind.itemMark number (index + 1) line = kind.continuation line :=
    fun _ _ => rfl
  rw [laid_item, withMarks, lines, List.mapIdx_cons]
  simp only [marks, mapIdx_const]
  rfl

/-- The lines of an item: its mark stands in front of the first one, indentation in front of the
others. -/
theorem splitOn_laid_item : splitOn '\n' (kind.item number content).laid =
    (kind.mark number ++ first) :: others.map fun line => kind.continuation line ++ line := by
  have single : ∀ line ∈ first :: others, '\n' ∉ line := fun line member =>
    mark_notMem_of_mem_splitOn (lines ▸ member)
  have apart : ∀ {mark line : Text}, hasLineBreak mark = false → '\n' ∉ line →
      '\n' ∉ mark ++ line := by
    intro mark line unmarked inside member
    rcases List.mem_append.mp member with left | right
    · exact List.any_eq_false.mp unmarked _ left rfl
    · exact inside right
  rw [List.forall_mem_cons] at single
  rw [kind.laid_item_eq_join number content lines]
  apply splitOn_join (List.cons_ne_nil _ _)
  rw [List.forall_mem_cons, List.forall_mem_map]
  exact ⟨apart (kind.hasLineBreak_mark number) single.1,
    fun line member => apart (kind.hasLineBreak_continuation line) (single.2 line member)⟩

/-- An item with content ends as its content does. -/
theorem endsFirm_laid_item (ends : EndsFirm content.finalText) :
    EndsFirm (kind.item number content).laid := by
  rw [kind.laid_item_eq_join number content lines]
  rw [← join_splitOn '\n' content.finalText, lines] at ends
  have unchanged : ∀ {mark : Text} (line : Text), hasLineBreak mark = false →
      Remarked line (mark ++ line) := fun line single => ⟨_, [], line, single, rfl, rfl, rfl⟩
  refine join_remarked_ends (.cons (unchanged first (kind.hasLineBreak_mark number)) ?_) ends
  rw [List.forall₂_map_right_iff, List.forall₂_same]
  exact fun line _ => unchanged line (kind.hasLineBreak_continuation line)

omit lines

private theorem mark_prefix_laid_item : kind.mark number <+: (kind.item number content).laid := by
  obtain ⟨first, others, lines⟩ := splitOn_eq_cons '\n' content.finalText
  rw [kind.laid_item_eq_join number content lines]
  exact (List.prefix_append _ _).trans (prefix_join _ _ _)

/-- An item without content is its mark. Otherwise it starts and ends with something that shows. -/
theorem laid_item_cases :
    content.finalText = [] ∧ (kind.item number content).laid = kind.mark number ∨
      Firm (kind.item number content).laid := by
  rcases Firm.of_trim content.laid with nothing | firm
  · have final : content.finalText = [] := nothing
    rw [laid_item, withMarks, final]
    exact .inl ⟨rfl, List.append_nil _⟩
  · obtain ⟨first, others, lines⟩ := splitOn_eq_cons '\n' content.finalText
    refine .inr ⟨?_, kind.endsFirm_laid_item number content lines firm.ends⟩
    obtain ⟨core, written, shown⟩ := kind.mark_eq_concat number
    obtain ⟨rest, whole⟩ := kind.mark_prefix_laid_item number content
    rw [← whole, written]
    exact (shown.starts.append _).append _

/-- Its final text is what an item is laid out as, without the space of a mark alone. -/
theorem finalText_item : Firm (kind.item number content).finalText ∧
    dropEndWhile isSpacing (kind.item number content).laid =
      (kind.item number content).finalText ∧
    kind.mark number <+: (kind.item number content).finalText ++ [' '] := by
  rw [Fragment.finalText_eq_trim_laid]
  rcases kind.laid_item_cases number content with ⟨-, laid⟩ | firm
  · obtain ⟨core, written, firm⟩ := kind.mark_eq_concat number
    have space : isBlank [' '] = true := rfl
    have cut : trim (core ++ [' ']) = core := by rw [trim_append_blank space, firm.trim_eq]
    rw [laid, written, cut]
    refine ⟨firm, ?_, List.prefix_refl _⟩
    rw [firm.dropEnd_append]
    exact List.append_nil core
  · rw [firm.trim_eq]
    exact ⟨firm, firm.ends.dropSpacing,
      (kind.mark_prefix_laid_item number content).trans (List.prefix_append _ _)⟩

private theorem tail_lines_item (lines : splitOn '\n' content.finalText = first :: others) :
    (splitOn '\n' (kind.item number content).finalText).tail =
      others.map fun line => kind.continuation line ++ line := by
  rw [Fragment.finalText_eq_trim_laid]
  rcases kind.laid_item_cases number content with ⟨nothing, laid⟩ | firm
  · have single : '\n' ∉ trim (kind.mark number) := fun member => by
      cases kind.lineBreak_of_mem_mark number ((infix_trim _).subset member)
    rw [nothing] at lines
    cases lines
    rw [laid, splitOn_of_notMem single]
    rfl
  · rw [firm.trim_eq, kind.splitOn_laid_item number content lines]
    rfl

/-- Further lines of an item hang as far as those of its content, and as far as they are indented
besides. -/
theorem hangs_finalText_item (width : Nat) : (kind.item number content).finalText.Hangs width ↔
    content.finalText.Hangs (width - kind.indent) := by
  obtain ⟨first, others, lines⟩ := splitOn_eq_cons '\n' content.finalText
  have tail : (splitOn '\n' content.finalText).tail = others := congrArg List.tail lines
  rw [Hangs, Hangs, kind.tail_lines_item number content lines, tail, List.forall_mem_map]
  refine forall₂_congr fun line _ => ?_
  rw [isBlank_append, continuation]
  cases blank : isBlank line with
  | true => exact iff_of_true (.inl rfl) (.inl rfl)
  | false =>
      rw [Bool.and_false, if_neg Bool.false_ne_true, repeated]
      simp only [Bool.false_eq_true, false_or, replicate_prefix_append_iff]

/-- Only the mark of a number of several digits is longer than the indentation. -/
theorem hangs_item_iff : (kind.item number content).finalText.Hangs (kind.mark number).length ↔
    kind = .unordered ∨ number < 10 ∨
      content.finalText.Hangs ((Text.ofNat number).length - 1) := by
  rw [hangs_finalText_item]
  constructor
  · intro hangs
    cases kind with
    | unordered => exact .inl rfl
    | ordered =>
        refine .inr (.inr ?_)
        rwa [mark, List.length_append] at hangs
  · have narrow : (kind = .ordered → number < 10) →
        content.finalText.Hangs ((kind.mark number).length - kind.indent) := by
      intro small
      rw [kind.length_mark number small, Nat.sub_self]
      exact hangs_zero _
    rintro (rfl | small | hangs)
    · exact narrow fun other => by cases other
    · exact narrow fun _ => small
    · cases kind with
      | unordered => exact narrow fun other => by cases other
      | ordered => rwa [mark, List.length_append]

/-- The number of the first item is a count. -/
theorem start_le (attributes : List Attribute) : kind.start attributes ≤ largestCount := by
  have least : 1 ≤ largestCount := by decide
  cases kind with
  | unordered => exact least
  | ordered =>
      rw [start]
      cases given : (Attribute.find? attributes "start").bind fun t => count? (trim t) with
      | none => exact least
      | some first =>
          obtain ⟨value, -, read⟩ := Option.bind_eq_some_iff.mp given
          exact count?_le read

/-- Among the children of a list an item is set apart, with the number that the items in front of
it leave. -/
theorem setsApart_draftItems (s : Settings) (centered : Bool) {node : Node}
    (item : node.name? = some "li") (after : List Node) (before : List Node) :
    ∀ (number : Nat) (_ : number ≤ largestCount) (paths : List Text), ∃ answers,
      (Fragment.blockBreak ++
        (draftItems s centered kind number (before ++ node :: after)).fill paths).SetsApart
          (kind.item (countAfter number (before.countP fun node => node.name? == some "li"))
            ((draftContent s centered node).fill answers)).finalText := by
  -- What stands in front is an item, which counts, a list, which does not, or dropped.
  induction before with
  | nil =>
      intro number bounded paths
      rw [List.nil_append, draftItems, if_pos (beq_iff_eq.mpr item), Draft.fill_append,
        Draft.fill_map, List.countP_nil, countAfter_zero bounded]
      generalize (draftItems s centered kind (countAfter number 1) after).fill _ = rest
      generalize paths.take _ = answers
      obtain ⟨firm, laid, -⟩ :=
        kind.finalText_item number ((draftContent s centered node).fill answers)
      have unbroken :=
        kind.unbroken_item number ((draftContent s centered node).fill answers)
      exact ⟨answers, (Fragment.setsApart_blocked unbroken firm laid).blocked_append rest⟩
  | cons other rest ih =>
      intro number bounded paths
      rw [List.cons_append, draftItems, List.countP_cons]
      by_cases another : (other.name? == some "li") = true
      · rw [if_pos another, if_pos another, Draft.fill_append]
        generalize paths.drop _ = below
        obtain ⟨answers, apart⟩ := ih (countAfter number 1) (countAfter_le number 1) below
        rw [countAfter_countAfter, Nat.add_comm] at apart
        exact ⟨answers, apart.behind_closed _⟩
      · rw [if_neg another, if_neg another]
        split
        · rw [Draft.fill_append]
          generalize paths.drop _ = below
          obtain ⟨answers, apart⟩ := ih number bounded below
          exact ⟨answers, apart.behind_closed _⟩
        · exact ih number bounded paths

/-- Each item of a list stands in its Markdown as it is laid out alone, behind its mark; its number
is that of the first item, and one more for each item in front of it. Its further
lines are indented as far as the mark is long exactly if the number has one digit or the lines of
the content are indented themselves by one space for each further digit. -/
theorem items_hang_iff (s : Settings) (centered : Bool) (space : ElementSpace)
    (attributes : List Attribute) {node : Node} (item : node.name? = some "li")
    (before after : List Node) (paths : List Text) :
    let number := countAfter (kind.start attributes)
      (before.countP fun node => node.name? == some "li")
    ∃ answers above below,
      let content := (draftContent s.descend centered node).fill answers
      let text := (kind.item number content).finalText
      ((draftNode s centered
          (.element space kind.name attributes (before ++ node :: after))).fill paths).finalText =
        above ++ text ++ below ∧
      (above = [] ∨ blankLine <:+ above) ∧ (below = [] ∨ blankLine <+: below) ∧
      kind.mark number <+: text ++ [' '] ∧
      (text.Hangs (kind.mark number).length ↔
        kind = .unordered ∨ number < 10 ∨
          content.finalText.Hangs ((Text.ofNat number).length - 1)) := by
  intro number
  obtain ⟨answers, apart⟩ :=
    kind.setsApart_draftItems s.descend centered item after before _ (kind.start_le attributes)
      paths
  obtain ⟨above, below, laid, ends, starts⟩ := apart.finalText
  rw [draftNode_list, Draft.fill_map]
  exact ⟨answers, above, below, laid, ends, starts, (kind.finalText_item number _).2.2,
    kind.hangs_item_iff number _⟩

/-- An item of two paragraphs. -/
def twoParagraphs : Node :=
  .element .html "li" []
    [.element .html "p" [] [.text "a".toList], .element .html "p" [] [.text "b".toList]]

/-- The ninth item hangs. -/
theorem items_hang_iff_ninth :
    twoParagraphs.name? = some "li" ∧
      ∃ above text below,
        ((draftNode {} false (.element .html "ol" [⟨.none, "start", "8".toList⟩]
          [.element .html "li" [] [], .text "\n".toList, twoParagraphs])).fill []).finalText =
            above ++ text ++ below ∧
        "9. ".toList <+: text ++ [' '] ∧ text.Hangs 3 := by
  have item : twoParagraphs.name? = some "li" := rfl
  obtain ⟨answers, above, below, laid, -, -, marked, hangs⟩ :=
    items_hang_iff .ordered {} false .html [⟨.none, "start", "8".toList⟩] item
      [.element .html "li" [] [], .text "\n".toList] [] []
  exact ⟨item, above, _, below, laid, marked, hangs.mpr (.inr (.inl (by decide)))⟩

/-- The tenth item of a list. -/
def tenth : Node :=
  .element .html "ol" [⟨.none, "start", "10".toList⟩] [twoParagraphs]

/-- The second paragraph of the tenth item falls out of it. -/
theorem tenth_outside :
    ((draftNode {} false tenth).fill []).finalText = "10. a\n\n   b".toList ∧
      ¬ Hangs "10. ".toList.length "10. a\n\n   b".toList ∧
      (Article.convertNodes none {} {} [tenth]).2 = .ok "10. a\n\n   b\n\n".toList := by
  exact ⟨by rfl, by decide, by rfl⟩

end ListKind
end ArticleMarkdown
