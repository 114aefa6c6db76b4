import ArticleMarkdown.Proofs.Text.Ink
import ArticleMarkdown.Proofs.Text.Split

/-!
# The lines of a text

Pieces that do not hold the mark are what splitting finds again in their join. A text whose first
and last characters are no whitespace is trimmed already. A row is a line that ends with something
to see; rows with blank lines between them can be told apart again (`Text.splitOn_rows`).
-/

namespace ArticleMarkdown.Text

/-- Mapping a list before its positions are used. -/
theorem mapIdx_map {α β γ : Type} (g : Nat → β → γ) (f : α → β) (l : List α) :
    (l.map f).mapIdx g = l.mapIdx fun i a => g i (f a) := by
  apply List.ext_getElem?
  intro i
  simp [Function.comp_def]

/-- A map that does not use the positions. -/
theorem mapIdx_const {α β : Type} (f : α → β) (l : List α) :
    (l.mapIdx fun _ a => f a) = l.map f := by
  apply List.ext_getElem?
  intro i
  simp

/-- The separator stands once between two parts that are not empty. -/
theorem join_append (separator : Text) {first second : List Text} (filled : first ≠ [])
    (filled' : second ≠ []) :
    join separator (first ++ second) =
      join separator first ++ separator ++ join separator second := by
  induction first with
  | nil => exact absurd rfl filled
  | cons piece rest ih =>
      by_cases last : rest = []
      · rw [last]
        exact join_cons_of_ne_nil separator piece filled'
      · have more : rest ++ second ≠ [] := List.append_ne_nil_of_left_ne_nil last second
        rw [List.cons_append, join_cons_of_ne_nil _ _ more, ih last,
          join_cons_of_ne_nil _ _ last]
        simp only [List.append_assoc]

/-- One more piece at the end. -/
theorem join_concat (mark : Char) {pieces : List Text} (filled : pieces ≠ []) (last : Text) :
    join [mark] (pieces ++ [last]) = join [mark] pieces ++ mark :: last := by
  rw [join_append _ filled (List.cons_ne_nil _ _), List.append_assoc]
  rfl

/-- Pieces that are joined already may stand as one piece. -/
theorem join_join_cons (separator : Text) {first : List Text} (filled : first ≠ [])
    (second : List Text) :
    join separator (join separator first :: second) = join separator (first ++ second) := by
  by_cases last : second = []
  · rw [last, List.append_nil]
    rfl
  · rw [join_cons_of_ne_nil _ _ last, join_append separator filled last]

/-- Pieces without the mark are found again when the joined text is split. -/
theorem splitOn_join {mark : Char} {pieces : List Text} (filled : pieces ≠ [])
    (unmarked : ∀ piece ∈ pieces, mark ∉ piece) : splitOn mark (join [mark] pieces) = pieces := by
  induction pieces with
  | nil => exact absurd rfl filled
  | cons piece rest ih =>
      have alone := splitOn_of_notMem (unmarked piece List.mem_cons_self)
      by_cases last : rest = []
      · rw [last]
        exact alone
      · have below := ih last fun other member => unmarked other (List.mem_cons_of_mem _ member)
        rw [join_cons_of_ne_nil _ _ last, List.append_assoc, List.singleton_append,
          splitOn_append_cons, alone, below]
        rfl

/-- A text with solid edges is trimmed. -/
theorem trim_of_edges {t : Text} (first : ∀ c ∈ t.head?, isSpace c = false)
    (last : ∀ c ∈ t.getLast?, isSpace c = false) : trim t = t := by
  have started : trimStart t = t := by
    cases t with
    | nil => rfl
    | cons c rest => exact trimStart_append_cons (first c rfl) [] rest
  rw [trim, started]
  rcases List.eq_nil_or_concat t with nothing | ⟨before, c, whole⟩
  · rw [nothing]
    rfl
  · rw [List.concat_eq_append] at whole
    rw [whole, List.getLast?_append] at last
    rw [whole]
    exact trimEnd_append_cons (last c rfl) before []

/-- A line that does not end in whitespace. -/
structure Row (t : Text) : Prop where
  single : '\n' ∉ t
  ends : ∃ before c, t = before ++ [c] ∧ isSpace c = false

namespace Row

variable {t : Text}

private theorem ne_nil (row : Row t) : t ≠ [] := by
  obtain ⟨before, c, rfl, -⟩ := row.ends
  exact List.append_ne_nil_of_right_ne_nil before (List.cons_ne_nil c [])

/-- A row is not blank. -/
theorem not_blank (row : Row t) : isBlank t = false := by
  obtain ⟨before, c, rfl, solid⟩ := row.ends
  rw [isBlank_append]
  simp [isBlank, solid]

/-- A row may have anything of its own line in front. -/
theorem prepend (row : Row t) {before : Text} (single : '\n' ∉ before) : Row (before ++ t) where
  single := by
    rw [List.mem_append, not_or]
    exact ⟨single, row.single⟩
  ends := by
    obtain ⟨start, c, rfl, solid⟩ := row.ends
    exact ⟨before ++ start, c, (List.append_assoc _ _ _).symm, solid⟩

end Row

/-- Rows with blank lines between them, as lines. -/
theorem join_blankLines (row : Text) (rows : List Text) :
    join ['\n'] (row :: rows.flatMap fun other => [[], other]) =
      join ['\n', '\n'] (row :: rows) := by
  induction rows generalizing row with
  | nil => rfl
  | cons next others ih =>
      rw [join_cons_of_ne_nil _ _ (List.cons_ne_nil _ _), ← ih next, List.flatMap_cons]
      simp [join]

/-- Rows with blank lines between them are split into rows and empty lines. -/
theorem splitOn_rows {row : Text} {rows : List Text} (single : '\n' ∉ row)
    (singles : ∀ other ∈ rows, '\n' ∉ other) :
    splitOn '\n' (join ['\n', '\n'] (row :: rows)) =
      row :: rows.flatMap fun other => [[], other] := by
  rw [← join_blankLines]
  apply splitOn_join (List.cons_ne_nil _ _)
  refine List.forall_mem_cons.mpr ⟨single, ?_⟩
  intro piece member
  obtain ⟨other, found, inside⟩ := List.mem_flatMap.mp member
  simp only [List.mem_cons, List.not_mem_nil, or_false] at inside
  rcases inside with rfl | rfl
  · exact List.not_mem_nil
  · exact singles piece found

/-- Lines end with what the last one ends with. -/
theorem join_ends {lines : List Text} {last : Text} (final : last ∈ lines.getLast?)
    (row : Row last) (separator : Text) :
    ∃ before c, join separator lines = before ++ [c] ∧ isSpace c = false := by
  fun_induction join separator lines with
  | case1 => cases final
  | case2 only =>
      cases final
      exact row.ends
  | case3 first others more ih =>
      have others_ne_nil : others ≠ [] := fun nothing => more nothing
      rw [List.getLast?_cons_of_ne_nil others_ne_nil] at final
      obtain ⟨before, c, ending, solid⟩ := ih final
      refine ⟨first ++ separator ++ before, c, ?_, solid⟩
      rw [ending]
      exact (List.append_assoc _ _ _).symm

/-- A text of rows ends with a solid character. -/
theorem join_rows_ends {rows : List Text} (filled : rows ≠ []) (settled : ∀ row ∈ rows, Row row)
    (separator : Text) : ∃ before c, join separator rows = before ++ [c] ∧ isSpace c = false :=
  join_ends (List.getLast?_eq_some_getLast filled) (settled _ (List.getLast_mem filled)) separator

/-- Joined pieces start with the first one. -/
theorem head?_join (separator : Text) (c : Char) (rest : Text) (others : List Text) :
    (join separator ((c :: rest) :: others)).head? = some c := by
  cases others <;> rfl

/-- A text of rows is trimmed if its first row is. -/
theorem trim_rows {row : Text} {rows : List Text} (first : ∀ c ∈ row.head?, isSpace c = false)
    (settled : ∀ other ∈ row :: rows, Row other) (separator : Text) :
    trim (join separator (row :: rows)) = join separator (row :: rows) := by
  have filled := (settled row List.mem_cons_self).ne_nil
  obtain ⟨before, last, ending, solid⟩ := join_rows_ends (List.cons_ne_nil _ _) settled separator
  apply trim_of_edges
  · obtain ⟨c, more, rfl⟩ := List.exists_cons_of_ne_nil filled
    rw [head?_join]
    exact first
  · rw [ending, List.getLast?_concat]
    rintro c ⟨⟩
    exact solid

end ArticleMarkdown.Text
