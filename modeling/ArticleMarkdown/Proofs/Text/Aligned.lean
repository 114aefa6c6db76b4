import ArticleMarkdown.Proofs.Fragment.Spread
import ArticleMarkdown.Proofs.Text.Lines
import Mathlib.Data.List.Forall2

/-!
# Rows that line up

A block of lines shows rows if each row stands on its line behind a margin as wide as its column; a
line without a row of its own may hold anything (`Text.Block`). All rows have one column but the one
on the first line, which is treated in its own way: trimming takes its indentation off
(`Text.Block.trimStart`), and its mark can be of another width than those of the lines below
(`Text.Block.marked`).
-/

namespace ArticleMarkdown

namespace Text

/-- The line is a margin as wide as the column and behind it the row, if there is one. -/
def RowAt (column : Nat) (row : Option Text) (line : Text) : Prop :=
  ∀ t ∈ row, ∃ margin : Text, margin.length = column ∧ line = margin ++ t

/-- What the line shows first opens neither an image nor a tag. -/
def OpensPlain (line : Text) : Prop :=
  ∃ c ∈ (ink line).head?, c ≠ '!' ∧ c ≠ '<'

/-- A line for a row. If there is a row, it does not start with whitespace, and the line can be told
from an image. -/
structure Sits (column : Nat) (row : Option Text) (line : Text) : Prop where
  placed : RowAt column row line
  plain : row.isSome = true → OpensPlain line
  solid : ∀ t ∈ row, ∀ c ∈ t.head?, isSpace c = false

private theorem Sits.none {column : Nat} {line : Text} : Sits column .none line :=
  ⟨nofun, nofun, nofun⟩

/-- The column of the row on the first line, and that of the rows below. -/
structure Columns where
  first : Nat
  rest : Nat
  deriving DecidableEq, Repr

/-- Columns to the right of others. -/
def Columns.right (width columns : Columns) : Columns :=
  ⟨width.first + columns.first, width.rest + columns.rest⟩

/-- Lines that show rows, from a line that shows something to one that does not end in
whitespace. -/
inductive Block (columns : Columns) : List (Option Text) → List Text → Prop
  | intro {row : Option Text} {rows : List (Option Text)} {line : Text} {lines : List Text}
      (starts : Sits columns.first row line) (shown : ink line ≠ [])
      (aligned : List.Forall₂ (Sits columns.rest) rows lines)
      (single : ∀ other ∈ line :: lines, '\n' ∉ other)
      (closes : ∃ last ∈ (line :: lines).getLast?, Row last) :
      Block columns (row :: rows) (line :: lines)

/-- A line that opens plain shows something. -/
theorem OpensPlain.ink_ne_nil {line : Text} (plain : OpensPlain line) : ink line ≠ [] := by
  obtain ⟨c, first, -⟩ := plain
  intro nothing
  rw [nothing] at first
  cases first

/-- Marks that keep lines apart from images. The mark of the first line has a width of its own, and
those of the others have one width. -/
structure Marks (width : Columns) (mark : Nat → Text → Text) : Prop where
  single : ∀ index line, ∀ c ∈ mark index line, isLineBreak c = false
  plain : ∀ index line, ∀ c ∈ (ink (mark index line)).head?, c ≠ '!' ∧ c ≠ '<'
  first : ∀ line, OpensPlain line → (mark 0 line).length = width.first
  rest : ∀ index line, 0 < index → OpensPlain line → (mark index line).length = width.rest

/-- The text with a mark in front of each line. -/
def withMarks (mark : Nat → Text → Text) (t : Text) : Text :=
  join ['\n'] ((splitOn '\n' t).mapIdx fun index line => mark index line ++ line)

private theorem OpensPlain.of_ink {s t : Text} (plain : OpensPlain s) (same : ink t = ink s) :
    OpensPlain t := by
  rw [OpensPlain, same]
  exact plain

/-- Marks may be made from other lines of the same ink. -/
theorem Marks.of_ink {width : Columns} {mark mark' : Nat → Text → Text} (marks : Marks width mark)
    (same : ∀ index line, ∃ s, ink s = ink line ∧ mark' index line = mark index s) :
    Marks width mark' where
  single index line := by
    obtain ⟨s, -, made⟩ := same index line
    rw [made]
    exact marks.single index s
  plain index line := by
    obtain ⟨s, -, made⟩ := same index line
    rw [made]
    exact marks.plain index s
  first line plain := by
    obtain ⟨s, inked, made⟩ := same 0 line
    rw [made]
    exact marks.first s (plain.of_ink inked)
  rest index line further plain := by
    obtain ⟨s, inked, made⟩ := same index line
    rw [made]
    exact marks.rest index s further (plain.of_ink inked)

/-- The marks of lines further down. -/
theorem Marks.onward {width : Columns} {mark : Nat → Text → Text} (marks : Marks width mark)
    {count : Nat} (counted : 0 < count) :
    Marks ⟨width.rest, width.rest⟩ fun index => mark (index + count) where
  single _ := marks.single _
  plain _ := marks.plain _
  first line := marks.rest _ line (Nat.lt_add_left 0 counted)
  rest index line _ := marks.rest _ line (Nat.lt_add_left index counted)

section Indents

/-- How many whitespace characters a text starts with. -/
def indent (t : Text) : Nat :=
  (t.takeWhile isSpace).length

private theorem trimStart_eq_drop (t : Text) : trimStart t = t.drop (indent t) := by
  have parts := List.takeWhile_append_dropWhile (p := isSpace) (l := t)
  calc trimStart t = t.dropWhile isSpace := rfl
    _ = (t.takeWhile isSpace ++ t.dropWhile isSpace).drop (indent t) := List.drop_left.symm
    _ = t.drop (indent t) := by rw [parts]

/-- Spaces in front of a text add to its indentation. -/
theorem indent_append_of_blank {pad : Text} (blank : isBlank pad = true) (t : Text) :
    indent (pad ++ t) = pad.length + indent t := by
  rw [indent, List.takeWhile_append_of_pos (isBlank_iff.mp blank), List.length_append, indent]

/-- What follows something that shows does not change the indentation. -/
theorem indent_append_of_ink {s : Text} (shown : ink s ≠ []) (t : Text) :
    indent (s ++ t) = indent s := by
  obtain ⟨pad, blank, parts⟩ := trimStart_split s
  rcases trimStart_cases s with nothing | ⟨c, rest, starts, solid⟩
  · rw [nothing, List.append_nil] at parts
    rw [parts, ink_eq_nil.mpr blank] at shown
    exact absurd rfl shown
  · have plain : ∀ u : Text, indent (c :: u) = 0 := fun u => by
      rw [indent, List.takeWhile_cons_of_neg (by simp [solid]), List.length_nil]
    rw [parts, starts, List.append_assoc, indent_append_of_blank blank,
      indent_append_of_blank blank, List.cons_append, plain, plain]

/-- A text that starts with no whitespace is not indented. -/
theorem indent_of_solid {t : Text} (solid : ∀ c ∈ t.head?, isSpace c = false) : indent t = 0 := by
  cases t with
  | nil => rfl
  | cons c rest =>
      rw [indent, List.takeWhile_cons_of_neg (by simp [solid c rfl]), List.length_nil]

/-- A trimmed text is not indented. -/
theorem indent_trimStart (t : Text) : indent (trimStart t) = 0 :=
  indent_of_solid fun _ => head?_trimStart

/-- A row that starts with no whitespace ends the indentation of its line. -/
theorem indent_le_of_solid {t : Text} (margin : Text) (solid : ∀ c ∈ t.head?, isSpace c = false) :
    indent (margin ++ t) ≤ margin.length := by
  by_cases blank : isBlank margin = true
  · rw [indent_append_of_blank blank, indent_of_solid solid]
    exact Nat.le_refl _
  · rw [indent_append_of_ink (mt ink_eq_nil.mp blank)]
    exact (List.takeWhile_sublist isSpace).length_le

/-- Cutting whitespace off the end does not change the indentation. -/
theorem indent_dropEnd {t : Text} (shown : ink t ≠ []) {p : Char → Bool}
    (spaces : ∀ c, p c = true → isSpace c = true) : indent (dropEndWhile p t) = indent t := by
  obtain ⟨after, -, parts⟩ := dropEndWhile_split spaces t
  have kept : ink (dropEndWhile p t) ≠ [] := by rwa [ink_dropEndWhile spaces]
  exact (indent_append_of_ink kept after).symm.trans (congrArg indent parts.symm)

/-- The first mark gives an indentation to a line that has none. -/
def Opens (lead : Nat) (mark : Nat → Text → Text) : Prop :=
  ∀ s line, ink s ≠ [] → indent line = 0 → indent (mark 0 s ++ line) = lead

/-- First marks may be made from other lines of the same ink. -/
theorem Opens.of_ink {lead : Nat} {mark mark' : Nat → Text → Text} (opens : Opens lead mark)
    (same : ∀ index line, ∃ s, ink s = ink line ∧ mark' index line = mark index s) :
    Opens lead mark' := by
  intro s line shown flush
  obtain ⟨source, inked, made⟩ := same 0 s
  rw [made]
  exact opens source line (inked ▸ shown) flush

/-- A mark that starts with no whitespace is no indentation. -/
theorem opens_of_solid {mark : Nat → Text → Text}
    (solid : ∀ s, ink s ≠ [] → ∀ c ∈ (mark 0 s).head?, isSpace c = false) : Opens 0 mark := by
  intro s line shown flush
  have started := solid s shown
  cases written : mark 0 s with
  | nil => exact flush
  | cons c rest =>
      rw [written] at started
      exact indent_of_solid started

end Indents

section Lines

/-- Blank separators between pieces have no ink. -/
theorem ink_join (separator : Text) (blank : isBlank separator = true) (pieces : List Text) :
    ink (join separator pieces) = ink pieces.flatten := by
  fun_induction join separator pieces with
  | case1 => rfl
  | case2 only => simp
  | case3 first others more ih => simp [ih, ink_eq_nil.mpr blank]

private theorem trimStart_join {line : Text} (shown : ink line ≠ []) (separator : Text)
    (rest : List Text) :
    trimStart (join separator (line :: rest)) = join separator (trimStart line :: rest) := by
  by_cases alone : rest = []
  · rw [alone]
    rfl
  · rw [join_cons_of_ne_nil _ _ alone, join_cons_of_ne_nil _ _ alone, List.append_assoc,
      trimStart_append_of_ink shown, List.append_assoc]

/-- What follows lines in a text stands on lines of its own. -/
theorem splitOn_below {lines : List Text} (filled : lines ≠ [])
    (single : ∀ line ∈ lines, '\n' ∉ line) {below : Text} (starts : ∀ c ∈ below.head?, c = '\n') :
    ∃ after, splitOn '\n' (join ['\n'] lines ++ below) = lines ++ after := by
  cases below with
  | nil =>
      refine ⟨[], ?_⟩
      rw [List.append_nil, List.append_nil]
      exact splitOn_join filled single
  | cons c rest =>
      cases starts c rfl
      refine ⟨splitOn '\n' rest, ?_⟩
      rw [splitOn_append_cons, splitOn_join filled single]

/-- Lines that follow others in a text stand below a line break. -/
theorem join_below {lines : List Text} (filled : lines ≠ []) (after : List Text) :
    ∃ below : Text, join ['\n'] (lines ++ after) = join ['\n'] lines ++ below ∧
      ∀ c ∈ below.head?, c = '\n' := by
  by_cases nothing : after = []
  · refine ⟨[], ?_, nofun⟩
    rw [nothing, List.append_nil, List.append_nil]
  · refine ⟨'\n' :: join ['\n'] after, ?_, ?_⟩
    · rw [join_append _ filled nothing, List.append_assoc]
      rfl
    · rintro c ⟨⟩
      rfl

/-- Marks take no ink away. -/
theorem ink_withMarks {t : Text} (shown : ink t ≠ []) (mark : Nat → Text → Text) :
    ink (withMarks mark t) ≠ [] := by
  rw [withMarks, ink_join ['\n'] rfl]
  rw [← ink_lines] at shown
  generalize splitOn '\n' t = lines at shown
  induction lines generalizing mark with
  | nil => exact shown
  | cons line rest ih =>
      rw [List.mapIdx_cons, List.flatten_cons, ink_append, ink_append]
      rw [List.flatten_cons, ink_append] at shown
      intro nothing
      obtain ⟨here, below⟩ := List.append_eq_nil_iff.mp nothing
      rw [(List.append_eq_nil_iff.mp here).2] at shown
      exact ih (fun index => mark (index + 1)) shown below

/-- A text that starts with something to see still starts with no line break. -/
theorem Marks.head?_withMarks {width : Columns} {mark : Nat → Text → Text}
    (marks : Marks width mark)
    {t : Text} (filled : t ≠ []) (solid : ∀ c ∈ t.head?, isSpace c = false) {c : Char}
    (first : c ∈ (withMarks mark t).head?) : isLineBreak c = false := by
  obtain ⟨d, rest, rfl⟩ := List.exists_cons_of_ne_nil filled
  have notBreak := isLineBreak_of_solid (solid d rfl)
  have other : (d == '\n') = false := by
    rw [← Bool.not_eq_true, beq_iff_eq]
    rintro rfl
    cases notBreak
  obtain ⟨piece, pieces, below⟩ := List.exists_cons_of_ne_nil (splitBy_ne_nil (· == '\n') rest)
  have split : splitOn '\n' (d :: rest) = (d :: piece) :: pieces := by
    simp only [splitOn, splitBy, other, below, Bool.false_eq_true, if_false]
  rw [withMarks, split, List.mapIdx_cons] at first
  cases written : mark 0 (d :: piece) with
  | nil =>
      rw [written, List.nil_append, head?_join] at first
      cases first
      exact notBreak
  | cons e more =>
      rw [written, List.cons_append, head?_join] at first
      cases first
      exact marks.single 0 (d :: piece) _ (written ▸ List.mem_cons_self)

/-- The lines below a line break are counted on. -/
theorem withMarks_append (mark : Nat → Text → Text) (s t : Text) :
    withMarks mark (s ++ '\n' :: t) =
      withMarks mark s ++ '\n' ::
        withMarks (fun index => mark (index + (splitOn '\n' s).length)) t := by
  have filled : ∀ (u : Text) (g : Nat → Text → Text), (splitOn '\n' u).mapIdx g ≠ [] := by
    intro u g
    rw [ne_eq, List.mapIdx_eq_nil_iff]
    exact splitBy_ne_nil _ _
  rw [withMarks, splitOn_append_cons, List.mapIdx_append, join_append _ (filled s _) (filled t _),
    List.append_assoc]
  rfl

private theorem forall₂_mapIdx {R S : Option Text → Text → Prop} {rows : List (Option Text)}
    {lines : List Text} (related : List.Forall₂ R rows lines) (g : Nat → Text → Text)
    (kept : ∀ index row line, R row line → S row (g index line)) :
    List.Forall₂ S rows (lines.mapIdx g) := by
  induction related generalizing g with
  | nil => exact .nil
  | cons here _ ih =>
      rw [List.mapIdx_cons]
      exact .cons (kept 0 _ _ here) (ih _ fun index => kept (index + 1))

end Lines

/-- A mark moves the row by its width. -/
theorem Sits.marked {column width : Nat} {row : Option Text} {line : Text}
    (sits : Sits column row line) {mark : Text}
    (plain : ∀ c ∈ (ink mark).head?, c ≠ '!' ∧ c ≠ '<')
    (wide : OpensPlain line → mark.length = width) :
    Sits (width + column) row (mark ++ line) := by
  refine ⟨?_, ?_, sits.solid⟩
  · intro t member
    obtain ⟨margin, filled, rfl⟩ := sits.placed t member
    have shown : row.isSome = true := Option.isSome_of_mem member
    refine ⟨mark ++ margin, ?_, (List.append_assoc _ _ _).symm⟩
    rw [List.length_append, wide (sits.plain shown), filled]
  · intro shown
    obtain ⟨c, first, opens⟩ := sits.plain shown
    rw [OpensPlain, ink_append]
    cases inked : ink mark with
    | nil => exact ⟨c, first, opens⟩
    | cons d rest =>
        rw [inked] at plain
        exact ⟨d, rfl, plain d rfl⟩

/-- Trimming takes the indentation off the line of a row, and the row moves to the left. -/
theorem Sits.trimStart {column : Nat} {row : Option Text} {line : Text}
    (sits : Sits column row line) :
    Sits (column - indent line) row (Text.trimStart line) := by
  refine ⟨?_, fun shown => (sits.plain shown).of_ink (ink_trimStart line), sits.solid⟩
  intro t member
  obtain ⟨margin, filled, rfl⟩ := sits.placed t member
  have within := indent_le_of_solid margin (sits.solid t member)
  refine ⟨margin.drop (indent (margin ++ t)), ?_, ?_⟩
  · rw [List.length_drop, filled]
  · rw [trimStart_eq_drop, List.drop_append_of_le_length within]

/-- A row stands at one column of its line. -/
theorem RowAt.column_eq {column other : Nat} {t line : Text} (placed : RowAt column (some t) line)
    (placed' : RowAt other (some t) line) : column = other := by
  obtain ⟨margin, rfl, rfl⟩ := placed t rfl
  obtain ⟨margin', rfl, same⟩ := placed' t rfl
  have lengths := congrArg List.length same
  rw [List.length_append, List.length_append] at lengths
  exact Nat.add_right_cancel lengths

namespace Block

variable {rows : List (Option Text)} {columns width : Columns} {lines : List Text}

/-- A block has lines. -/
theorem filled (block : Block columns rows lines) : lines ≠ [] := by
  cases block
  exact List.cons_ne_nil _ _

/-- A block has a row for each line, or a place for one. -/
theorem rows_ne_nil (block : Block columns rows lines) : rows ≠ [] := by
  cases block
  exact List.cons_ne_nil _ _

/-- Each line of a block is a single line. -/
theorem single (block : Block columns rows lines) : ∀ line ∈ lines, '\n' ∉ line := by
  cases block with
  | intro _ _ _ single _ => exact single

private theorem closes (block : Block columns rows lines) : ∃ last ∈ lines.getLast?, Row last := by
  cases block with
  | intro _ _ _ _ closes => exact closes

private theorem join_ends (block : Block columns rows lines) :
    ∃ before c, join ['\n'] lines = before ++ [c] ∧ isSpace c = false := by
  obtain ⟨line, last, row⟩ := block.closes
  exact Text.join_ends last row ['\n']

/-- A block shows something. -/
theorem ink_ne_nil (block : Block columns rows lines) : ink (join ['\n'] lines) ≠ [] := by
  obtain ⟨before, c, ending, solid⟩ := block.join_ends
  rw [ending, ink_append, ink_cons, solid]
  exact List.append_ne_nil_of_right_ne_nil _ (List.cons_ne_nil _ _)

/-- A block is no empty text. -/
theorem join_ne_nil (block : Block columns rows lines) : join ['\n'] lines ≠ [] :=
  mt (congrArg ink) block.ink_ne_nil

/-- A block ends with nothing to drop. -/
theorem dropEnd_join (block : Block columns rows lines) {p : Char → Bool}
    (spaces : ∀ c, p c = true → isSpace c = true) :
    dropEndWhile p (join ['\n'] lines) = join ['\n'] lines := by
  obtain ⟨before, c, ending, solid⟩ := block.join_ends
  rw [ending]
  exact dropEndWhile_solid spaces solid before

/-- Two blocks with a blank line between them. The first row of the lower one is one row of many. -/
theorem append {others : List (Option Text)} {lower : List Text} (block : Block columns rows lines)
    (block' : Block ⟨columns.rest, columns.rest⟩ others lower) :
    Block columns (rows ++ none :: others) (lines ++ [] :: lower) := by
  cases block with
  | intro starts shown aligned single closes =>
  cases block' with
  | intro starts' shown' aligned' single' closes' =>
  have between : Sits columns.rest none [] := .none
  have below := List.rel_append aligned (.cons between (.cons starts' aligned'))
  obtain ⟨last, final, row⟩ := closes'
  rw [List.cons_append, List.cons_append]
  refine .intro starts shown below ?_ ⟨last, ?_, row⟩
  · exact List.forall_mem_append.mpr
      ⟨single, List.forall_mem_cons.mpr ⟨List.not_mem_nil, single'⟩⟩
  · rw [← List.cons_append, List.getLast?_append_of_ne_nil _ (List.cons_ne_nil _ _),
      List.getLast?_cons_of_ne_nil (List.cons_ne_nil _ _)]
    exact final

/-- Any lines are a block of lines without rows of their own. -/
theorem forget (block : Block columns rows lines) (columns' : Columns) :
    Block columns' (rows.map fun _ => none) lines := by
  cases block with
  | intro starts shown aligned single closes =>
  refine .intro .none shown ?_ single closes
  rw [List.forall₂_map_left_iff]
  exact aligned.imp fun _ _ _ => .none

/-- Trimming a block takes the indentation off its first line, and nothing else. -/
theorem trimStart (block : Block columns rows lines) :
    ∃ trimmed, Text.trimStart (join ['\n'] lines) = join ['\n'] trimmed ∧
      Block ⟨columns.first - indent (join ['\n'] lines), columns.rest⟩ rows trimmed := by
  cases block with
  | @intro row rows line lines starts shown aligned single closes =>
  obtain ⟨after, whole⟩ : ∃ after, join ['\n'] (line :: lines) = line ++ after :=
    (prefix_join ['\n'] line lines).imp fun _ => Eq.symm
  have lead : indent (join ['\n'] (line :: lines)) = indent line := by
    rw [whole, indent_append_of_ink shown]
  rw [lead]
  refine ⟨Text.trimStart line :: lines, trimStart_join shown _ lines, ?_⟩
  rw [List.forall_mem_cons] at single
  have lineSingle : '\n' ∉ Text.trimStart line := fun member =>
    single.1 ((List.dropWhile_sublist _).subset member)
  refine .intro starts.trimStart (by rwa [ink_trimStart]) aligned
    (List.forall_mem_cons.mpr ⟨lineSingle, single.2⟩) ?_
  obtain ⟨last, final, row⟩ := closes
  by_cases alone : lines = []
  · subst alone
    cases final
    obtain ⟨before, c, rfl, solid⟩ := row.ends
    refine ⟨_, rfl, lineSingle, Text.trimStart before, c, ?_, solid⟩
    exact trimStart_append_cons solid before []
  · rw [List.getLast?_cons_of_ne_nil alone] at final
    refine ⟨last, ?_, row⟩
    rw [List.getLast?_cons_of_ne_nil alone]
    exact final

/-- Rows without a row on the first line have no column there. -/
theorem of_unowned (block : Block columns rows lines) (unowned : rows.head? = some none)
    (first : Nat) : Block ⟨first, columns.rest⟩ rows lines := by
  cases block with
  | intro starts shown aligned single closes =>
  cases unowned
  exact .intro .none shown aligned single closes

/-- Marks move a block by their width. -/
theorem marked (block : Block columns rows lines) {mark : Nat → Text → Text}
    (marks : Marks width mark) :
    Block (width.right columns) rows (lines.mapIdx fun index line => mark index line ++ line) := by
  cases block with
  | @intro row rows line lines starts shown aligned single closes =>
  have notBreak : ∀ index line, '\n' ∉ mark index line := fun index line inside => by
    have breaks := marks.single index line _ inside
    cases breaks
  have single' : ∀ other ∈ (line :: lines).mapIdx fun index line => mark index line ++ line,
      '\n' ∉ other := by
    intro other member
    obtain ⟨index, bound, rfl⟩ := List.mem_mapIdx.mp member
    rw [List.mem_append, not_or]
    exact ⟨notBreak _ _, single _ (List.getElem_mem bound)⟩
  have closes' : ∃ last ∈ ((line :: lines).mapIdx fun index line =>
      mark index line ++ line).getLast?, Row last := by
    obtain ⟨last, final, row⟩ := closes
    rw [List.getLast?_mapIdx, Option.mem_def.mp final]
    exact ⟨_, rfl, row.prepend (notBreak _ _)⟩
  have shown' : ink (mark 0 line ++ line) ≠ [] := by
    rw [ink_append]
    exact List.append_ne_nil_of_right_ne_nil _ shown
  rw [List.mapIdx_cons] at single' closes' ⊢
  exact .intro (starts.marked (marks.plain 0 line) (marks.first line)) shown'
    (forall₂_mapIdx aligned _ fun index row line sits =>
      sits.marked (marks.plain (index + 1) line) (marks.rest _ line index.succ_pos)) single' closes'

end Block

end Text
end ArticleMarkdown
