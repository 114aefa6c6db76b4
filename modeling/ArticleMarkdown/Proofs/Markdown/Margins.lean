import ArticleMarkdown.Proofs.Markdown.Marks

/-!
# Margins

Items, lists in lists, quotations and headings put a mark of one width in front of each line that
opens like a row, so rows that line up in their content line up in what they make of it. Only the
number in front of an item may be wider than the indentation below it, and only a list in a list
indents its first line.
-/

namespace ArticleMarkdown

namespace Text

private theorem length_ofNat_of_lt {n : Nat} (small : n < 10) : (ofNat n).length = 1 := by
  rw [ofNat, Nat.toDigits_of_lt_base small]
  rfl

end Text

open Text (Columns Place Marks Opens OpensPlain)
open Fragment (Holds)

variable {rows : List (Option Text)} {inner : Place} {content : Fragment}

namespace ListKind

variable (kind : ListKind) (number : Nat)

/-- Numbers below ten are as wide as the indentation. -/
theorem length_mark (narrow : kind = .ordered → number < 10) :
    (kind.mark number).length = kind.indent := by
  cases kind with
  | unordered => rfl
  | ordered =>
      rw [mark, List.length_append, Text.length_ofNat_of_lt (narrow rfl)]
      rfl

/-- A line that shows something is indented. -/
theorem continuation_of_shown {line : Text} (shown : Text.ink line ≠ []) :
    kind.continuation line = Text.repeated kind.indent ' ' := by
  rw [continuation, if_neg (mt Text.ink_eq_nil.mpr shown)]

/-- The place of rows in an item with a number. -/
def itemPlace (inner : Place) : Place :=
  inner.trimmed.marked ⟨(kind.mark number).length, kind.indent⟩ 0

/-- The place of rows in a list in a list. -/
def nestedPlace (inner : Place) : Place :=
  inner.trimmed.marked ⟨kind.indent, kind.indent⟩ kind.indent

/-- The indentation of further lines. -/
theorem marks_nested :
    Marks ⟨kind.indent, kind.indent⟩ fun _ line => kind.continuation line where
  single index line c member := by
    unfold continuation at member
    split at member
    · cases member
    · cases List.eq_of_mem_replicate member
      rfl
  plain index line c first := by
    have blank : Text.ink (kind.continuation line) = [] := by
      unfold continuation
      split
      · rfl
      · cases kind <;> rfl
    rw [blank] at first
    cases first
  first line plain := by
    rw [kind.continuation_of_shown plain.ink_ne_nil]
    exact List.length_replicate
  rest index line _ plain := by
    rw [kind.continuation_of_shown plain.ink_ne_nil]
    exact List.length_replicate

/-- The indentation of further lines indents a first line as well. -/
theorem opens_nested : Opens kind.indent fun _ line => kind.continuation line := by
  intro s line shown flush
  have spaces : Text.isBlank (Text.repeated kind.indent ' ') = true := by cases kind <;> rfl
  calc Text.indent (kind.continuation s ++ line)
      = Text.indent (Text.repeated kind.indent ' ' ++ line) := by
        rw [kind.continuation_of_shown shown]
    _ = (Text.repeated kind.indent ' ').length + Text.indent line :=
        Text.indent_append_of_blank spaces line
    _ = kind.indent := by
        rw [flush]
        exact List.length_replicate

private theorem marks_item :
    Marks ⟨(kind.mark number).length, kind.indent⟩ (kind.itemMark number) where
  single index line c member := by
    unfold itemMark at member
    split at member
    · exact kind.lineBreak_of_mem_mark number member
    · exact kind.marks_nested.single index line c member
  plain index line c first := by
    unfold itemMark at first
    split at first
    · obtain ⟨d, rest, written, solid, opens⟩ := kind.mark_eq_cons number
      rw [written, Text.ink_cons, solid] at first
      cases first
      exact opens
    · exact kind.marks_nested.plain index line c first
  first _ _ := rfl
  rest index line further plain := by
    rw [itemMark, if_neg further.ne']
    exact kind.marks_nested.rest index line further plain

/-- An item moves the rows of its content to the right, and a row on its first line as far as its
mark is long. -/
theorem holds_item (held : Holds rows inner content) (rest : Fragment) :
    Holds rows (kind.itemPlace number inner)
      (Fragment.blockBreak ++ ((kind.item number content).closed ++ rest)) := by
  apply Fragment.holds_marked (Fragment.tokens_closed_append _ rest) held (kind.marks_item number)
  apply Text.opens_of_solid
  intro _ _ c first
  obtain ⟨d, more, written, solid, -⟩ := kind.mark_eq_cons number
  have starts : kind.itemMark number 0 = fun _ => kind.mark number := rfl
  rw [starts, written] at first
  cases first
  exact solid

/-- A list in a list indents the rows of its content. -/
theorem holds_nested (held : Holds rows inner content) (rest : Fragment) :
    Holds rows (kind.nestedPlace inner)
      (Fragment.blockBreak ++ ((kind.nested content).closed ++ rest)) :=
  Fragment.holds_marked (Fragment.tokens_closed_append _ rest) held kind.marks_nested
    kind.opens_nested

end ListKind

namespace Quotation

/-- The place of rows in a quotation. -/
def place (inner : Place) : Place :=
  inner.trimmed.marked ⟨2, 2⟩ 0

private theorem marks : Marks ⟨2, 2⟩ fun _ _ => ['>', ' '] where
  single _ _ c member := by
    rcases List.mem_cons.mp member with rfl | member
    · rfl
    · cases List.mem_singleton.mp member
      rfl
  plain _ _ c first := by
    cases first
    decide
  first _ _ := rfl
  rest _ _ _ _ := rfl

/-- A quotation holds the rows of its content two columns further in. -/
theorem holds_fragment (held : Holds rows inner content) :
    Holds rows (place inner) (fragment content) := by
  rw [fragment, if_neg (Bool.eq_false_iff.mp held.not_blank_resolve)]
  apply Fragment.holds_marked (Fragment.tokens_blocked _) held marks
  apply Text.opens_of_solid
  intro _ _ c first
  cases first
  rfl

end Quotation

namespace Heading

/-- The mark of a line of a heading. -/
def lineMark (level : Nat) (line : Text) : Text :=
  if Text.isBlank line || isImageLine line then [] else mark level

/-- The place of rows in a heading of a level. -/
def place (level : Nat) (inner : Place) : Place :=
  inner.trimmed.marked ⟨level + 1, level + 1⟩ 0

private theorem length_mark (level : Nat) : (mark level).length = level + 1 := by
  rw [mark, List.length_append, Text.repeated, List.length_replicate]
  rfl

/-- A line that opens plain is marked. -/
theorem lineMark_of_plain {line : Text} (plain : OpensPlain line) (level : Nat) :
    lineMark level line = mark level := by
  obtain ⟨c, first, notImage, notTag⟩ := plain
  obtain ⟨more, inked⟩ := List.head?_eq_some_iff.mp first
  have shown : Text.isBlank line = false := by
    rw [← Bool.not_eq_true, ← Text.ink_eq_nil, inked]
    exact List.cons_ne_nil _ _
  have unlike : isImageLine line = false := by
    rw [isImageLine, ← Text.ink_trimStart] at *
    rcases Text.trimStart_cases line with blank | ⟨d, rest, starts, solid⟩
    · rw [blank] at inked
      cases inked
    · rw [starts, Text.ink_cons, solid] at inked
      cases inked
      rw [starts]
      have exclaims : ('!' == c) = false := beq_false_of_ne notImage.symm
      have opens : ('<' == c) = false := beq_false_of_ne notTag.symm
      simp [Text.startsWith, Text.dropPrefix?, exclaims, opens]
  rw [lineMark, shown, unlike]
  rfl

/-- The marks of headings push every line in by their length. -/
theorem marks (level : Nat) : Marks ⟨level + 1, level + 1⟩ fun _ line => lineMark level line where
  single _ line c member := by
    unfold lineMark at member
    split at member
    · cases member
    · rcases List.mem_append.mp member with sign | space
      · cases List.eq_of_mem_replicate sign
        rfl
      · cases List.mem_singleton.mp space
        rfl
  plain _ line c first := by
    unfold lineMark at first
    split at first
    · cases first
    · cases level with
      | zero => cases first
      | succ n =>
          cases first
          decide
  first line plain := by
    rw [lineMark_of_plain plain]
    exact length_mark level
  rest _ line _ plain := by
    rw [lineMark_of_plain plain]
    exact length_mark level

/-- A heading holds the rows of its content behind its marks. -/
theorem holds_fragment {level : Nat} (positive : 0 < level)
    (held : Holds rows inner content) :
    Holds rows (place level inner) (fragment level content) := by
  rw [fragment, if_neg (Bool.eq_false_iff.mp held.not_blank_resolve)]
  apply Fragment.holds_marked (Fragment.tokens_blocked _) held (marks level)
  apply Text.opens_of_solid
  intro line _ c first
  obtain ⟨n, rfl⟩ := Nat.exists_eq_add_one.mpr positive
  unfold lineMark at first
  split at first
  · cases first
  · cases first
    rfl

end Heading

/-- A raised or lowered text shows its tag in front of its content. -/
theorem Script.holds_wrap (tag : String) (held : Holds rows inner content) :
    Holds rows inner.below (wrap tag content) := by
  have inked : (Fragment.ofText (Markup.startTag tag [])).ink ≠ [] := by
    rw [Fragment.ink_ofText, Markup.startTag]
    exact List.cons_ne_nil _ _
  rw [wrap, if_neg (Bool.eq_false_iff.mp held.trim.not_blank)]
  exact (held.trim.behind inked).append_right _

end ArticleMarkdown
