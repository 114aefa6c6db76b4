import ArticleMarkdown.Proofs.Markdown.Embeds
import ArticleMarkdown.Proofs.Markdown.Mentions

/-!
# Rules that wrap their content

What a rule writes around the content that it converts is quiet if the content does not mention the
mark of centred images, wherever the rule puts the content: between marks, behind the marks of its
lines, or into the cells of a table.
-/

namespace ArticleMarkdown

open Node Text

private theorem ListKind.not_mem_continuation (kind : ListKind) (line : Text) :
    'd' ∉ kind.continuation line := by
  intro member
  rw [continuation] at member
  split at member
  · cases member
  · cases List.eq_of_mem_replicate member

section Content

variable {f : Fragment} (clear : ¬f.Mentions markText)
include clear

private theorem Fragment.not_mentions_resolve : ¬f.resolve.Mentions markText :=
  mt (Mentions.of_resolve unclosed_markText) clear

private theorem Fragment.not_mentions_markLines {mark : Nat → Text → Text}
    (quiet : ∀ index t, 'd' ∉ mark index t) : ¬(f.markLines mark).Mentions markText := by
  refine mt (Mentions.of_markLines solid_markText fun index t c first => ?_) clear
  cases first
  exact quiet index t

/-- A heading is quiet, if its content does not mention the mark. -/
theorem Heading.quiet_fragment (level : Nat) : (fragment level f).Quiet := by
  simp only [fragment]
  split
  · exact .empty
  · refine .blocked (Fragment.not_mentions_markLines (Fragment.not_mentions_resolve clear) ?_)
    intro index t member
    split at member
    · cases member
    · rcases List.mem_append.mp member with hash | space
      · cases List.eq_of_mem_replicate hash
      · cases List.mem_singleton.mp space

/-- A quotation is quiet, if its content does not mention the mark. -/
theorem Quotation.quiet_fragment : (fragment f).Quiet := by
  simp only [fragment]
  split
  · exact .empty
  · exact .blocked (Fragment.not_mentions_markLines (Fragment.not_mentions_resolve clear)
      fun _ _ => by decide)

/-- Emphasis is quiet, if its content does not mention the mark. -/
theorem Emphasis.quiet_wrap (kind : Emphasis) : (kind.wrap f).Quiet := by
  obtain ⟨before, after, -, -, whole⟩ := frames_core f
  have inner : ¬markText <:+: (core f).spread := by
    intro held
    refine clear ?_
    rw [Fragment.Mentions, whole]
    exact held.trans (List.infix_append _ _ _)
  have marks : Severs markText (' ' :: kind.opening) ∧ Severs markText (kind.closing ++ [' ']) := by
    cases kind <;> decide
  rw [wrap_eq]
  split
  · exact .empty
  · right
    have severs := marks.1.enclose marks.2 inner
    simpa using severs

/-- A script is quiet, if neither its tags nor its content hold the mark. -/
theorem Script.quiet_wrap {tag : String} (opening : Severs markText (Markup.startTag tag []))
    (closing : Severs markText (Markup.endTag tag)) : (wrap tag f).Quiet := by
  have inner : ¬markText <:+: f.trim.spread := mt Fragment.Mentions.of_trim clear
  simp only [wrap]
  split
  · exact .empty
  · right
    have severs := opening.enclose closing inner
    simpa using severs

private theorem Link.not_mentions_label : ¬(label f).Mentions markText := by
  refine fun held => clear ?_
  have flat := Fragment.Mentions.of_trim held
  rwa [Fragment.Mentions, Fragment.spread_flattened] at flat

/-- A link is quiet, if neither its address nor its content holds the mark. -/
theorem Link.quiet_around {address : Text} (clear' : ¬markText <:+: address) :
    (around address f).Quiet := by
  simp only [around]
  split
  · exact .inlineText (severs_ofText clear' clear').clear
  · have opening : Severs markText ['['] := by decide
    have severs := opening.enclose (severs_ending clear') (not_mentions_label clear)
    refine .inlined ?_
    simpa [Fragment.Mentions] using severs.clear

/-- An anchor without an address is quiet, if its content does not mention the mark. -/
theorem Link.quiet_unlinked : (unlinked f).Quiet := by
  simp only [unlinked]
  split
  · exact .empty
  · exact .inlined (not_mentions_label clear)

/-- A link that is stripped is quiet, if its content does not mention the mark. -/
theorem Link.quiet_stripped : (stripped f).Quiet :=
  .inlined (not_mentions_label clear)

/-- An item does not mention the mark, if its content does not. -/
theorem ListKind.not_mentions_item (kind : ListKind) (number : Nat) :
    ¬(kind.item number f).Mentions markText := by
  refine Fragment.not_mentions_markLines (Fragment.not_mentions_resolve clear)
    fun index t member => ?_
  split at member
  · cases kind with
    | ordered =>
        rcases List.mem_append.mp member with digit | rest
        · cases isDigit_of_mem_ofNat digit
        · exact absurd rest (by decide)
    | unordered => exact absurd (show 'd' ∈ ['-', ' '] from member) (by decide)
  · exact not_mem_continuation kind t member

/-- A list in a list does not mention the mark, if its content does not. -/
theorem ListKind.not_mentions_nested (kind : ListKind) : ¬(kind.nested f).Mentions markText :=
  Fragment.not_mentions_markLines (Fragment.not_mentions_resolve clear)
    fun _ => not_mem_continuation kind

end Content

namespace Table

section Cells

private theorem CellLayout.write_text (cell : CellLayout) (t : Text) :
    cell.write (.text t) =
      if isBlank (spaced t) && (cell.pendingBlock || cell.written.isEmpty) then cell
      else if cell.pendingBlock && !cell.written.isEmpty then
        ⟨trimEnd cell.written ++ "<br />".toList ++ trimStart (spaced t), false, false⟩
      else
        ⟨cell.written ++ (if cell.pendingInline && !cell.written.isEmpty &&
          cell.written.getLast? != some ' ' && (spaced t).head? != some ' ' then [' '] else []) ++
            spaced t, false, false⟩ := rfl

/-- What is written of a text: nothing, the text behind a line break, or the text behind a space or
right behind what is written, if nothing waits or a space stands there already. -/
inductive CellLayout.Writes (cell : CellLayout) (t : Text) : CellLayout → Prop
  | nothing (blank : isBlank (spaced t) = true)
      (waits : cell.pendingBlock = true ∨ cell.written = []) : Writes cell t cell
  | broken (waits : cell.pendingBlock = true) : Writes cell t
      ⟨trimEnd cell.written ++ "<br />".toList ++ trimStart (spaced t), false, false⟩
  | apart (waits : cell.pendingInline = true) :
      Writes cell t ⟨cell.written ++ [' '] ++ spaced t, false, false⟩
  | behind (unbroken : cell.pendingBlock = false ∨ cell.written = [])
      (near : cell.pendingInline = false ∨ cell.written = [] ∨ cell.written.getLast? = some ' ' ∨
        (spaced t).head? = some ' ') :
      Writes cell t ⟨cell.written ++ [] ++ spaced t, false, false⟩

private theorem CellLayout.writes (cell : CellLayout) (t : Text) :
    cell.Writes t (cell.write (.text t)) := by
  rw [write_text]
  split
  · next skipped => exact .nothing (by simp_all) (by simp_all)
  · split
    · next breaks => exact .broken (by simp_all)
    · next unbroken =>
      split
      · next spaces => exact .apart (by simp_all)
      · next near =>
        refine .behind (by simpa [imp_iff_not_or] using unbroken) ?_
        simp only [Bool.and_eq_true, Bool.not_eq_true', bne_iff_ne, ne_eq,
          List.isEmpty_eq_false_iff] at near
        rw [← Bool.not_eq_true]
        tauto

variable {p : Text} (solid : p.Solid)

private theorem CellLayout.gap_of_waits {cell : CellLayout}
    (waits : cell.pendingBlock = true ∨ cell.pendingInline = true) : cell.gap = [' '] := by
  rw [← Bool.or_eq_true] at waits
  exact if_pos waits

section Behind

include solid

variable {cell : CellLayout} {t rest : Text}

/-- Behind a separator that waits, the text is split from what is written. -/
theorem CellLayout.infix_of_waiting
    (waits : cell.pendingBlock = true ∨ cell.pendingInline = true)
    (either : p <:+: cell.written ∨ p <:+: spaced t ++ rest) :
    p <:+: cell.written ++ (cell.gap ++ (t ++ rest)) := by
  have later : p <:+: [] ++ (spaced t ++ rest) → p <:+: [] ++ (t ++ rest) :=
    (infix_spaced_iff solid).mp
  rw [gap_of_waits waits]
  exact solid.infix_space_iff.mpr (either.imp_right later)

/-- Right behind what is written, the text is split from it by a space that stands there, unless
nothing waits. -/
theorem CellLayout.infix_of_behind (unbroken : cell.pendingBlock = false ∨ cell.written = [])
    (near : cell.pendingInline = false ∨ cell.written = [] ∨ cell.written.getLast? = some ' ' ∨
      (spaced t).head? = some ' ')
    (joined : p <:+: cell.written ++ (spaced t ++ rest)) :
    p <:+: cell.written ++ (cell.gap ++ (t ++ rest)) := by
  by_cases start : cell.written = []
  · rw [start, List.nil_append] at joined
    have shown : p <:+: [] ++ (t ++ rest) := (infix_spaced_iff solid).mp joined
    exact List.infix_append_of_infix_right (List.infix_append_of_infix_right shown)
  by_cases waits : cell.pendingInline = true
  · refine infix_of_waiting solid (.inr waits) ?_
    rcases near with free | start' | last | first
    · rw [free] at waits
      cases waits
    · exact absurd start' start
    · obtain ⟨before, ends⟩ := List.getLast?_eq_some_iff.mp last
      rw [ends] at joined ⊢
      rw [List.append_assoc] at joined
      exact (solid.infix_space_iff.mp joined).imp_left List.infix_append_of_infix_left
    · obtain ⟨more, starts⟩ := List.head?_eq_some_iff.mp first
      rw [starts] at joined ⊢
      exact (solid.infix_space_iff.mp joined).imp_right List.infix_cons
  · have none : cell.gap = [] := by
      rw [gap, unbroken.resolve_right start, Bool.eq_false_iff.mpr waits]
      rfl
    rw [none, List.nil_append]
    exact (infix_spaced_iff solid).mp joined

end Behind

variable (severs : Severs p "<br />".toList)
include solid severs

private theorem CellLayout.infix_of_write_text {cell : CellLayout} {t rest : Text}
    (held : p <:+: (cell.write (.text t)).written ++ ((cell.write (.text t)).gap ++ rest)) :
    p <:+: cell.written ++ (cell.gap ++ (t ++ rest)) := by
  have done := cell.writes t
  generalize cell.write (.text t) = after at done held
  cases done with
  | nothing blank waits =>
      rcases waits with waits | start
      · rw [gap_of_waits (.inl waits)] at held
        exact infix_of_waiting solid (.inl waits)
          ((solid.infix_space_iff.mp held).imp_right List.infix_append_of_infix_right)
      · rw [start, List.nil_append] at held
        have later := solid.infix_of_blank_append (isBlank_gap _) held
        iterate 3 refine List.infix_append_of_infix_right ?_
        exact later
  | broken waits =>
      refine infix_of_waiting solid (.inl waits) ?_
      obtain ⟨after, -, kept⟩ := trimEnd_split cell.written
      obtain ⟨before, -, shown⟩ := trimStart_split (spaced t)
      simp only [List.append_assoc] at held
      rcases severs.infix_across held with earlier | later
      · left
        rw [kept]
        exact List.infix_append_of_infix_left earlier
      · right
        rw [shown, List.append_assoc]
        exact List.infix_append_of_infix_right later
  | apart waits =>
      refine infix_of_waiting solid (.inr waits) (solid.infix_space_iff.mp ?_)
      simpa [gap, Text.gap] using held
  | behind unbroken near =>
      refine infix_of_behind solid unbroken near ?_
      simpa [gap, Text.gap] using held

private theorem CellLayout.infix_of_write {cell : CellLayout} {token : Token} {rest : Text}
    (held : p <:+: (cell.write token).written ++ ((cell.write token).gap ++ rest)) :
    p <:+: cell.written ++ (cell.gap ++ (token.spread ++ rest)) := by
  have apart : (cell.write token).gap = [' '] → (cell.write token).written = cell.written →
      p <:+: cell.written ++ (cell.gap ++ (token.spread ++ rest)) := by
    intro space same
    rw [space, same] at held
    rcases solid.infix_space_iff.mp held with earlier | later
    · exact List.infix_append_of_infix_left earlier
    · iterate 3 refine List.infix_append_of_infix_right ?_
      exact later
  cases token with
  | text t => exact infix_of_write_text solid severs held
  | blockBreak => exact apart rfl rfl
  | inlineBreak => exact apart (gap_of_waits (.inr rfl)) rfl

private theorem CellLayout.infix_of_foldl_write {cell : CellLayout} {tokens : List Token}
    (held : p <:+: (tokens.foldl write cell).written) :
    p <:+: cell.written ++ (cell.gap ++ Token.allSpread tokens) := by
  induction tokens generalizing cell with
  | nil => exact List.infix_append_of_infix_left held
  | cons token rest ih => exact infix_of_write solid severs (ih held)

/-- A cell holds nothing that its content does not mention. -/
theorem mentions_of_cellLine {f : Fragment} (held : p <:+: cellLine f) : f.Mentions p :=
  .of_trim (CellLayout.infix_of_foldl_write solid severs (held.trans (infix_trim _) :
    p <:+: (f.trim.tokens.foldl CellLayout.write .start).written))

end Cells

/-- A cell does not hold the mark, if its content does not mention it. -/
theorem not_infix_cellText {f : Fragment} (clear : ¬f.Mentions markText) :
    ¬markText <:+: cellText f := by
  have line := mt (mentions_of_cellLine solid_markText (by decide)) clear
  refine Severing.absent (fun c => ?_) line
  split
  · exact .inr (by decide)
  · exact .inl rfl

private theorem not_infix_delimiter (attributes : List Attribute) :
    ¬markText <:+: delimiter attributes := by
  simp only [delimiter]
  split
  · decide
  · split <;> decide

private theorem not_infix_line {columns : Nat} {row : Row} (clear : ¬row.Holds markText) :
    ¬markText <:+: line columns row := by
  have opening : Severs markText "| ".toList := by decide
  have closing : Severs markText " |".toList := by decide
  have middle : Severs markText " | ".toList := by decide
  rw [line, List.append_assoc]
  refine (opening.enclose closing fun held => ?_).clear
  obtain ⟨piece, member, inPiece⟩ := middle.infix_join held
  rcases List.mem_append.mp member with shown | filled
  · obtain ⟨cell, within, rfl⟩ := List.mem_map.mp shown
    exact clear ⟨cell, within, inPiece⟩
  · rw [List.eq_of_mem_replicate filled] at inPiece
    exact solid_markText.filled (List.infix_nil.mp inPiece)

private theorem not_infix_delimiterLine (columns : Nat) (header : Row) :
    ¬markText <:+: delimiterLine columns header := by
  have bar : Severs markText ['|'] := by decide
  refine (bar.enclose bar fun held => ?_).clear
  obtain ⟨piece, member, inPiece⟩ := bar.infix_join held
  rcases List.mem_append.mp member with shown | filled
  · obtain ⟨cell, -, rfl⟩ := List.mem_map.mp shown
    exact not_infix_delimiter _ inPiece
  · rw [List.eq_of_mem_replicate filled] at inPiece
    exact not_infix_delimiter _ inPiece

/-- A table is quiet if no cell holds the mark. -/
theorem quiet_fragment? {rows : List Row} (clear : ¬∃ row ∈ rows, row.Holds markText) :
    ((fragment? rows).getD ∅).Quiet := by
  cases rows with
  | nil => exact .empty
  | cons header rows =>
      have breaks : Severs markText ['\n'] := by decide
      refine .blockText fun held => ?_
      obtain ⟨piece, member, inPiece⟩ := breaks.infix_join held
      rcases List.mem_cons.mp member with rfl | below
      · exact not_infix_line (fun holds => clear ⟨header, List.mem_cons_self, holds⟩) inPiece
      rcases List.mem_cons.mp below with rfl | later
      · exact not_infix_delimiterLine _ _ inPiece
      · obtain ⟨row, within, rfl⟩ := List.mem_map.mp later
        refine not_infix_line (fun holds => clear ⟨row, ?_, holds⟩) inPiece
        exact List.mem_cons_of_mem _ within

end Table
end ArticleMarkdown
