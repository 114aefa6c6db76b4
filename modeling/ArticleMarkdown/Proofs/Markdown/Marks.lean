import ArticleMarkdown.Proofs.Fragment.Aligned
import ArticleMarkdown.Proofs.Text.Numeral

/-!
# What rules write before lines

Items, lists in lists and quotations mark the lines of their content. The marks depend on a line's
ink only, so what is laid out can be read off the final text of the content.
-/

namespace ArticleMarkdown

namespace Fragment

/-- Marks that depend on the ink of a line may be read off the final text. -/
theorem laid_markLines_resolve (mark : Nat → Text → Text)
    (inked : ∀ index s t, Text.ink s = Text.ink t → mark index s = mark index t) (f : Fragment) :
    (f.resolve.markLines mark).laid = Text.withMarks mark f.finalText := by
  obtain ⟨mark', laid, same⟩ := laid_resolve_markLines mark f
  have equal : mark' = mark := by
    funext index line
    obtain ⟨s, ink, made⟩ := same index line
    rw [made]
    exact inked index s line ink
  rw [laid, equal]

end Fragment

namespace ListKind

/-- The mark of an item starts with a character that is no whitespace and opens no markup. -/
theorem mark_eq_cons (kind : ListKind) (number : Nat) :
    ∃ c rest, kind.mark number = c :: rest ∧ Text.isSpace c = false ∧ c ≠ '!' ∧ c ≠ '<' := by
  cases kind with
  | unordered => exact ⟨'-', [' '], rfl, by decide⟩
  | ordered =>
      obtain ⟨digit, rest, written, isDigit⟩ := Text.ofNat_eq_cons number
      refine ⟨digit, rest ++ ['.', ' '], ?_, Text.isSpace_of_isDigit isDigit, ?_, ?_⟩
      · rw [mark, written]
        rfl
      · rintro rfl
        cases isDigit
      · rintro rfl
        cases isDigit

/-- The mark of an item stands on one line. -/
theorem lineBreak_of_mem_mark (kind : ListKind) (number : Nat) {c : Char}
    (member : c ∈ kind.mark number) :
    Text.isLineBreak c = false := by
  cases kind with
  | unordered =>
      rcases List.mem_cons.mp member with rfl | member
      · rfl
      · cases List.mem_singleton.mp member
        rfl
  | ordered =>
      rcases List.mem_append.mp member with digit | ending
      · exact Text.isLineBreak_of_solid (Text.isSpace_of_isDigit (Text.isDigit_of_mem_ofNat digit))
      · rcases List.mem_cons.mp ending with rfl | ending
        · rfl
        · cases List.mem_singleton.mp ending
          rfl

private theorem continuation_of_ink (kind : ListKind) {s t : Text}
    (same : Text.ink s = Text.ink t) :
    kind.continuation s = kind.continuation t := by
  have blank : Text.isBlank s = Text.isBlank t := by
    rw [Bool.eq_iff_iff, ← Text.ink_eq_nil, ← Text.ink_eq_nil, same]
  rw [continuation, continuation, blank]

/-- What stands in front of a line of an item: its mark, or the indentation. -/
def itemMark (kind : ListKind) (number : Nat) (index : Nat) (line : Text) : Text :=
  if index = 0 then kind.mark number else kind.continuation line

/-- An item is laid out as its trimmed content, with its marks in front of the lines. -/
theorem laid_item (kind : ListKind) (number : Nat) (content : Fragment) :
    (kind.item number content).laid =
      Text.withMarks (kind.itemMark number) content.finalText := by
  refine Fragment.laid_markLines_resolve (kind.itemMark number) ?_ content
  intro index s t same
  unfold itemMark
  rw [kind.continuation_of_ink same]

/-- A list in a list is laid out as its trimmed content, with indentation in front of the lines. -/
theorem laid_nested (kind : ListKind) (content : Fragment) :
    (kind.nested content).laid =
      Text.withMarks (fun _ line => kind.continuation line) content.finalText :=
  Fragment.laid_markLines_resolve (fun _ => kind.continuation)
    (fun _ _ _ same => kind.continuation_of_ink same) content

private theorem continuation_row (kind : ListKind) {line : Text} (row : Text.Row line) :
    kind.continuation line = Text.repeated kind.indent ' ' := by
  rw [continuation, row.not_blank, if_neg Bool.false_ne_true]

/-- Rows of an item: the first one gets the mark, the others are indented. -/
theorem laid_item_rows (kind : ListKind) (number : Nat) {content : Fragment} {row : Text}
    {rows : List Text} (whole : content.finalText = Text.join ['\n', '\n'] (row :: rows))
    (settled : ∀ other ∈ row :: rows, Text.Row other) :
    (kind.item number content).laid =
      Text.join ['\n', '\n']
        ((kind.mark number ++ row) ::
          rows.map fun other => Text.repeated kind.indent ' ' ++ other) := by
  rw [List.forall_mem_cons] at settled
  have lines := Text.splitOn_rows settled.1.single
    fun other member => (settled.2 other member).single
  have blank : kind.continuation [] = [] := rfl
  have further : ∀ other ∈ rows, [kind.continuation [] ++ [], kind.continuation other ++ other] =
      [[], Text.repeated kind.indent ' ' ++ other] := by
    intro other member
    rw [blank, kind.continuation_row (settled.2 other member)]
    rfl
  rw [laid_item, Text.withMarks, whole, lines, List.mapIdx_cons, ← Text.join_blankLines,
    List.flatMap_map]
  have marks : ∀ index line, kind.itemMark number (index + 1) line = kind.continuation line :=
    fun _ _ => rfl
  simp only [marks, Text.mapIdx_const, List.map_flatMap, List.map_cons, List.map_nil]
  rw [List.flatMap_congr further]
  rfl

/-- An item has no block separators inside. -/
theorem unbroken_item (kind : ListKind) (number : Nat) (content : Fragment) :
    .blockBreak ∉ (kind.item number content).tokens :=
  Fragment.blockBreak_notMem_markLines content.settled_resolve.unbroken _

/-- A list in a list has no block separators inside. -/
theorem unbroken_nested (kind : ListKind) (content : Fragment) :
    .blockBreak ∉ (kind.nested content).tokens :=
  Fragment.blockBreak_notMem_markLines content.settled_resolve.unbroken _

end ListKind
end ArticleMarkdown
