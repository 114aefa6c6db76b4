import ArticleMarkdown.Proofs.Text.Aligned

/-!
# Texts that show rows

A text may show a block of rows at its start, or below something else. Where it stands at the start,
the row on the first line can leave the column of the others: trimming moves it to the left
(`Text.Shows.trim`), and the mark of the first line moves it to the right by another width
(`Text.Shows.marked`). How far is told by the place of the rows (`Text.Place`).
-/

namespace ArticleMarkdown

namespace Text

/-- The text starts with lines that show the rows. -/
def Leads (columns : Columns) (rows : List (Option Text)) (t : Text) : Prop :=
  ∃ lines below, t = join ['\n'] lines ++ below ∧ Block columns rows lines ∧
    ∀ c ∈ below.head?, c = '\n'

/-- The text shows something and below it the rows. -/
def Within (columns : Columns) (rows : List (Option Text)) (t : Text) : Prop :=
  ∃ above s, t = above ++ '\n' :: s ∧ ink above ≠ [] ∧ Leads columns rows s

/-- Where rows are shown. -/
inductive Place where
  /-- Something is shown above the rows. -/
  | behind (columns : Columns)
  /-- The rows are the first thing shown. If there is a row on the first line, that line is indented
  so far. -/
  | first (lead : Nat) (columns : Columns)
  deriving DecidableEq, Repr

namespace Place

/-- The columns of the rows. -/
def columns : Place → Columns
  | .behind columns => columns
  | .first _ columns => columns

/-- Whether the rows are the first thing shown. -/
def isFirst : Place → Bool
  | .behind _ => false
  | .first _ _ => true

/-- The place below something that is shown. -/
def below (place : Place) : Place :=
  .behind place.columns

/-- The place after trimming. -/
def trimmed : Place → Place
  | .behind columns => .behind columns
  | .first lead columns => .first 0 ⟨columns.first - lead, columns.rest⟩

/-- The place behind marks. Rows that are not the first thing shown are on lines further down, all
marked alike. -/
def marked (width : Columns) (lead : Nat) : Place → Place
  | .behind columns => .behind (Columns.right ⟨width.rest, width.rest⟩ columns)
  | .first _ columns => .first lead (width.right columns)

end Place

/-- The text shows the rows at a place. -/
def Shows (rows : List (Option Text)) : Place → Text → Prop
  | .behind columns, t => Within columns rows t
  | .first lead columns, t => Leads columns rows t ∧ (rows.head? = some none ∨ indent t = lead)

/-- With another text above it, the text shows the rows at a place. -/
def ShowsBelow (rows : List (Option Text)) (above : Text) : Place → Text → Prop
  | .behind columns, t => Within columns rows t ∨ ink above ≠ [] ∧ Leads columns rows t
  | .first lead columns, t => ink above = [] ∧ Shows rows (.first lead columns) t

section Texts

variable {rows : List (Option Text)} {columns width : Columns} {t : Text}

namespace Leads

/-- A text may go on below its rows. -/
theorem append (leads : Leads columns rows t) (u : Text) : Leads columns rows (t ++ '\n' :: u) := by
  obtain ⟨lines, below, rfl, block, starts⟩ := leads
  refine ⟨lines, below ++ '\n' :: u, List.append_assoc _ _ _, block, ?_⟩
  intro c first
  cases below with
  | nil =>
      cases first
      rfl
  | cons d rest => exact starts c first

/-- A text that starts with rows shows something. -/
theorem ink_ne_nil (leads : Leads columns rows t) : ink t ≠ [] := by
  obtain ⟨lines, below, rfl, block, -⟩ := leads
  rw [ink_append]
  exact List.append_ne_nil_of_left_ne_nil block.ink_ne_nil _

private theorem ne_nil (leads : Leads columns rows t) : t ≠ [] :=
  mt (congrArg ink) leads.ink_ne_nil

private theorem dropEnd (leads : Leads columns rows t) {p : Char → Bool}
    (spaces : ∀ c, p c = true → isSpace c = true) : Leads columns rows (dropEndWhile p t) := by
  obtain ⟨lines, below, rfl, block, starts⟩ := leads
  refine ⟨lines, dropEndWhile p below, ?_, block, ?_⟩
  · rw [dropEndWhile_append]
    split
    · next nothing =>
      rw [List.isEmpty_iff.mp nothing, List.append_nil, block.dropEnd_join spaces]
    · rfl
  · intro d first
    cases below with
    | nil => cases first
    | cons e rest =>
        rcases dropEndWhile_cons_cases p e rest with gone | ⟨more, kept⟩
        · rw [gone] at first
          cases first
        · rw [kept] at first
          cases first
          exact starts _ rfl

/-- Trimming moves the row on the first line as far as the text is indented. -/
theorem trimStart (leads : Leads columns rows t) :
    Leads ⟨columns.first - indent t, columns.rest⟩ rows (Text.trimStart t) := by
  obtain ⟨lines, below, rfl, block, starts⟩ := leads
  obtain ⟨trimmed, same, block'⟩ := block.trimStart
  rw [indent_append_of_ink block.ink_ne_nil]
  refine ⟨trimmed, below, ?_, block', starts⟩
  rw [← same, trimStart_append_of_ink block.ink_ne_nil]

/-- Where the rows are, line by line. -/
theorem lines (leads : Leads columns rows t) :
    ∃ shown after, splitOn '\n' t = shown ++ after ∧ Block columns rows shown := by
  obtain ⟨lines, below, rfl, block, starts⟩ := leads
  obtain ⟨after, split⟩ := splitOn_below block.filled block.single starts
  exact ⟨lines, after, split, block⟩

/-- The first line shows something, and it is indented as the text is. -/
theorem first_line (leads : Leads columns rows t) :
    ∃ line others, splitOn '\n' t = line :: others ∧ ink line ≠ [] ∧ indent line = indent t := by
  obtain ⟨shown, after, split, block⟩ := leads.lines
  cases block with
  | @intro _ _ line lines _ inked _ _ _ =>
      refine ⟨line, lines ++ after, split, inked, ?_⟩
      obtain ⟨rest, whole⟩ := prefix_join ['\n'] line (lines ++ after)
      rw [← List.cons_append, ← split, join_splitOn] at whole
      rw [← whole, indent_append_of_ink inked]

private theorem marked (leads : Leads columns rows t) {mark : Nat → Text → Text}
    (marks : Marks width mark) : Leads (width.right columns) rows (withMarks mark t) := by
  obtain ⟨shown, after, split, block⟩ := leads.lines
  have block' := block.marked marks
  obtain ⟨below, whole, starts⟩ := join_below block'.filled
    (after.mapIdx fun index line => mark (index + shown.length) line ++ line)
  refine ⟨_, below, ?_, block', starts⟩
  rw [withMarks, split, List.mapIdx_append, whole]

/-- A text without indentation gets that of its first mark. -/
theorem indent_marked (leads : Leads columns rows t) (flush : indent t = 0) {lead : Nat}
    {mark : Nat → Text → Text} (opens : Opens lead mark) : indent (withMarks mark t) = lead := by
  obtain ⟨line, others, split, shown, same⟩ := leads.first_line
  have marked : ink (mark 0 line ++ line) ≠ [] := by
    rw [ink_append]
    exact List.append_ne_nil_of_right_ne_nil _ shown
  obtain ⟨rest, whole⟩ := prefix_join ['\n'] (mark 0 line ++ line)
    (others.mapIdx fun index line => mark (index + 1) line ++ line)
  rw [withMarks, split, List.mapIdx_cons, ← whole, indent_append_of_ink marked]
  exact opens line line shown (same.trans flush)

/-- Without a row on the first line, that line has no column. -/
theorem of_unowned (leads : Leads columns rows t) (unowned : rows.head? = some none)
    (first : Nat) : Leads ⟨first, columns.rest⟩ rows t := by
  obtain ⟨lines, below, whole, block, starts⟩ := leads
  exact ⟨lines, below, whole, block.of_unowned unowned first, starts⟩

end Leads

namespace Within

/-- More may be shown above the rows. -/
theorem below (within : Within columns rows t) (k : Text) : Within columns rows (k ++ t) := by
  obtain ⟨above, s, rfl, shown, leads⟩ := within
  refine ⟨k ++ above, s, (List.append_assoc _ _ _).symm, ?_, leads⟩
  rw [ink_append]
  exact List.append_ne_nil_of_right_ne_nil _ shown

/-- A text may go on below its rows. -/
theorem append (within : Within columns rows t) (u : Text) :
    Within columns rows (t ++ '\n' :: u) := by
  obtain ⟨above, s, rfl, shown, leads⟩ := within
  exact ⟨above, s ++ '\n' :: u, List.append_assoc _ _ _, shown, leads.append u⟩

private theorem dropEnd (within : Within columns rows t) {p : Char → Bool}
    (spaces : ∀ c, p c = true → isSpace c = true) : Within columns rows (dropEndWhile p t) := by
  obtain ⟨above, s, rfl, shown, leads⟩ := within
  refine ⟨above, dropEndWhile p s, ?_, shown, leads.dropEnd spaces⟩
  have stays := (leads.dropEnd spaces).ne_nil
  have whole : above ++ '\n' :: s = (above ++ ['\n']) ++ s := by simp
  rw [whole, dropEndWhile_append_of_ne_nil stays, List.append_assoc]
  rfl

private theorem trimStart (within : Within columns rows t) :
    Within columns rows (Text.trimStart t) := by
  obtain ⟨above, s, rfl, shown, leads⟩ := within
  exact ⟨Text.trimStart above, s, trimStart_append_of_ink shown _,
    by rw [ink_trimStart]; exact shown, leads⟩

private theorem marked (within : Within columns rows t) {mark : Nat → Text → Text}
    (marks : Marks width mark) :
    Within (Columns.right ⟨width.rest, width.rest⟩ columns) rows (withMarks mark t) := by
  obtain ⟨above, s, rfl, shown, leads⟩ := within
  -- The lines of the rows are counted on from those above, so none of them is the first line.
  have counted := List.length_pos_of_ne_nil (splitBy_ne_nil (· == '\n') above)
  rw [withMarks_append]
  exact ⟨_, _, rfl, ink_withMarks shown mark, leads.marked (marks.onward counted)⟩

end Within

namespace Shows

variable {place : Place}

/-- The rows stand at their columns at the start of the text, or below something. -/
theorem within_or_leads (shows : Shows rows place t) :
    Within place.columns rows t ∨ Leads place.columns rows t := by
  cases place with
  | behind columns => exact .inl shows
  | first lead columns => exact .inr shows.1

/-- A text with rows shows something. -/
theorem ink_ne_nil (shows : Shows rows place t) : ink t ≠ [] := by
  rcases shows.within_or_leads with ⟨above, s, rfl, shown, -⟩ | leads
  · rw [ink_append]
    exact List.append_ne_nil_of_left_ne_nil shown _
  · exact leads.ink_ne_nil

/-- A text with rows is not empty. -/
theorem ne_nil (shows : Shows rows place t) : t ≠ [] :=
  mt (congrArg ink) shows.ink_ne_nil

/-- A text may go on below its rows. -/
theorem append (shows : Shows rows place t) (u : Text) : Shows rows place (t ++ '\n' :: u) := by
  cases place with
  | behind columns => exact Within.append shows u
  | first lead columns =>
      refine ⟨shows.1.append u, ?_⟩
      rw [indent_append_of_ink shows.1.ink_ne_nil]
      exact shows.2

/-- Dropping spaces at the end keeps the rows. -/
theorem dropEnd (shows : Shows rows place t) {p : Char → Bool}
    (spaces : ∀ c, p c = true → isSpace c = true) : Shows rows place (dropEndWhile p t) := by
  cases place with
  | behind columns => exact Within.dropEnd shows spaces
  | first lead columns =>
      refine ⟨shows.1.dropEnd spaces, ?_⟩
      rw [indent_dropEnd shows.1.ink_ne_nil spaces]
      exact shows.2

/-- Trimming moves the rows to their trimmed place. -/
theorem trim (shows : Shows rows place t) : Shows rows place.trimmed (Text.trim t) := by
  have started : Shows rows place.trimmed (Text.trimStart t) := by
    cases place with
    | behind columns => exact Within.trimStart shows
    | first lead columns =>
        refine ⟨?_, .inr (indent_trimStart t)⟩
        rcases shows.2 with unowned | rfl
        · exact shows.1.trimStart.of_unowned unowned _
        · exact shows.1.trimStart
  exact started.dropEnd fun _ space => space

/-- Marks move rows that have been trimmed. -/
theorem marked (shows : Shows rows place.trimmed t) {mark : Nat → Text → Text}
    (marks : Marks width mark) {lead : Nat} (opens : Opens lead mark) :
    Shows rows (place.trimmed.marked width lead) (withMarks mark t) := by
  cases place with
  | behind columns => exact Within.marked shows marks
  | first _ columns =>
      exact ⟨shows.1.marked marks, shows.2.imp_right fun flush => shows.1.indent_marked flush opens⟩

/-- Where the rows are, line by line. -/
theorem lines (shows : Shows rows place t) :
    ∃ before shown after, splitOn '\n' t = before ++ shown ++ after ∧
      Block place.columns rows shown := by
  rcases shows.within_or_leads with ⟨above, s, rfl, -, leads⟩ | leads
  · obtain ⟨shown, after, split, block⟩ := leads.lines
    refine ⟨splitOn '\n' above, shown, after, ?_, block⟩
    rw [splitOn_append_cons, split, List.append_assoc]
  · obtain ⟨shown, after, split, block⟩ := leads.lines
    exact ⟨[], shown, after, split, block⟩

end Shows

end Texts

section OneColumn

/-- Each row stands on its line at its column. -/
inductive RowsAt (columns : Columns) : List (Option Text) → List Text → Prop
  | nil : RowsAt columns [] []
  | cons {row : Option Text} {rows : List (Option Text)} {line : Text} {lines : List Text}
      (starts : RowAt columns.first row line)
      (aligned : List.Forall₂ (RowAt columns.rest) rows lines) :
      RowsAt columns (row :: rows) (line :: lines)

/-- One column is the column of all rows: the two are the same, or one of them is that of no row. -/
def Columns.OneFor (columns : Columns) (rows : List (Option Text)) : Prop :=
  columns.first = columns.rest ∨ (∀ row ∈ rows.head?, row = none) ∨ ∀ row ∈ rows.tail, row = none

variable {column : Nat} {columns : Columns} {rows : List (Option Text)} {lines : List Text}

/-- In a block, each row stands at its column. -/
theorem Block.rowsAt (block : Block columns rows lines) : RowsAt columns rows lines := by
  cases block with
  | intro starts _ aligned _ _ => exact .cons starts.placed (aligned.imp fun _ _ => Sits.placed)

/-- Lines without rows have their rows at any column. -/
theorem forall₂_rowAt_of_unowned {R : Option Text → Text → Prop}
    (aligned : List.Forall₂ R rows lines) (unowned : ∀ row ∈ rows, row = none) (column : Nat) :
    List.Forall₂ (RowAt column) rows lines := by
  induction aligned with
  | nil => exact .nil
  | cons _ _ ih =>
      rw [List.forall_mem_cons] at unowned
      obtain ⟨rfl, below⟩ := unowned
      exact .cons nofun (ih below)

/-- Rows that stand at two columns stand at one, or there are none. -/
theorem column_eq_or_unowned {other : Nat} (aligned : List.Forall₂ (RowAt column) rows lines)
    (aligned' : List.Forall₂ (RowAt other) rows lines) :
    column = other ∨ ∀ row ∈ rows, row = none := by
  induction aligned with
  | nil => exact .inr nofun
  | @cons row line rows lines placed _ ih =>
      obtain ⟨placed', below⟩ := List.forall₂_cons.mp aligned'
      cases row with
      | some t => exact .inl (placed.column_eq placed')
      | none => exact (ih below).imp_right fun unowned => List.forall_mem_cons.mpr ⟨rfl, unowned⟩

/-- Rows at their columns line up if one column is that of all of them. -/
theorem RowsAt.line_up_iff (placed : RowsAt columns rows lines) :
    (∃ column, List.Forall₂ (RowAt column) rows lines) ↔ columns.OneFor rows := by
  cases placed with
  | nil => exact ⟨fun _ => .inr (.inl nofun), fun _ => ⟨0, .nil⟩⟩
  | @cons row rows line lines starts aligned =>
      constructor
      · rintro ⟨column, lineUp⟩
        obtain ⟨here, below⟩ := List.forall₂_cons.mp lineUp
        cases row with
        | none =>
            refine .inr (.inl ?_)
            rintro _ ⟨⟩
            rfl
        | some t =>
            have first := starts.column_eq here
            exact (column_eq_or_unowned below aligned).imp first.trans .inr
      · rintro (same | unowned | unowned)
        · rw [← same] at aligned
          exact ⟨columns.first, .cons starts aligned⟩
        · have nothing : row = none := unowned row rfl
          subst nothing
          exact ⟨columns.rest, .cons nofun aligned⟩
        · exact ⟨columns.first, .cons starts (forall₂_rowAt_of_unowned aligned unowned _)⟩

end OneColumn
end Text
end ArticleMarkdown
