import ArticleMarkdown.Text.Basic
import Mathlib.Data.List.DropRight

/-!
# Trimming

Trimming stops at the first character from each end that is no whitespace, so what lies between two
such characters stays, and a trimmed text has nothing left to trim.
-/

namespace ArticleMarkdown.Text

/-- Dropping from the start stops at a character that is kept. -/
theorem dropWhile_append_cons {p : Char → Bool} {c : Char} (stays : p c = false) (s t : Text) :
    (s ++ c :: t).dropWhile p = s.dropWhile p ++ c :: t := by
  rw [List.dropWhile_append]
  split
  · next empty =>
    rw [List.isEmpty_iff.mp empty, List.dropWhile_cons_of_neg (by simp [stays]), List.nil_append]
  · rfl

/-- What is dropped at the end and what stays make up the text. -/
theorem dropEndWhile_append_takeEndWhile (p : Char → Bool) (t : Text) :
    dropEndWhile p t ++ (t.reverse.takeWhile p).reverse = t := by
  rw [dropEndWhile, ← List.reverse_append, List.takeWhile_append_dropWhile, List.reverse_reverse]

/-- Dropping at the end of two texts. -/
theorem dropEndWhile_append (p : Char → Bool) (s t : Text) :
    dropEndWhile p (s ++ t) =
      if (dropEndWhile p t).isEmpty then dropEndWhile p s else s ++ dropEndWhile p t := by
  simp only [dropEndWhile, List.reverse_append, List.dropWhile_append, List.isEmpty_reverse]
  split
  · rfl
  · rw [List.reverse_append, List.reverse_reverse]

/-- Only the second text loses characters if some of it stays. -/
theorem dropEndWhile_append_of_ne_nil {p : Char → Bool} {t : Text} (stays : dropEndWhile p t ≠ [])
    (s : Text) : dropEndWhile p (s ++ t) = s ++ dropEndWhile p t := by
  rw [dropEndWhile_append, if_neg (mt List.isEmpty_iff.mp stays)]

/-- The first text loses characters, too, if nothing of the second one stays. -/
theorem dropEndWhile_append_of_nil {p : Char → Bool} {t : Text} (gone : dropEndWhile p t = [])
    (s : Text) : dropEndWhile p (s ++ t) = dropEndWhile p s := by
  rw [dropEndWhile_append, gone, List.isEmpty_nil, if_pos rfl]

/-- Nothing is left to be dropped. -/
@[simp] theorem dropEndWhile_idem (p : Char → Bool) (t : Text) :
    dropEndWhile p (dropEndWhile p t) = dropEndWhile p t := by
  simp only [dropEndWhile, List.reverse_reverse, List.dropWhile_idempotent]

/-- What stays does not end with a character that is dropped. -/
theorem getLast?_dropEndWhile {p : Char → Bool} {c : Char} {t : Text}
    (last : c ∈ (dropEndWhile p t).getLast?) :
    p c = false := by
  rw [dropEndWhile, List.getLast?_reverse] at last
  have first := List.head?_dropWhile_not p t.reverse
  rw [Option.mem_def.mp last] at first
  simpa using first

/-- Dropping from the end takes the first character last. -/
theorem dropEndWhile_cons_cases (p : Char → Bool) (c : Char) (t : Text) :
    dropEndWhile p (c :: t) = [] ∨ ∃ rest, dropEndWhile p (c :: t) = c :: rest := by
  have single : dropEndWhile p [c] = [] ∨ dropEndWhile p [c] = [c] := by
    cases dropped : p c <;> simp [dropEndWhile, dropped]
  have parts := dropEndWhile_append p [c] t
  split at parts
  · rcases single with gone | stays
    · exact .inl (parts.trans gone)
    · exact .inr ⟨[], parts.trans stays⟩
  · exact .inr ⟨_, parts⟩

/-- Trimming the end keeps the start. -/
theorem head?_trimEnd {c : Char} {t : Text} (first : c ∈ (trimEnd t).head?) : c ∈ t.head? := by
  cases t with
  | nil => exact first
  | cons d rest =>
      rcases dropEndWhile_cons_cases isSpace d rest with gone | ⟨stays, some⟩
      · rw [trimEnd, gone] at first
        cases first
      · rw [trimEnd, some] at first
        exact first

/-- What is trimmed at the start starts with a character that is no whitespace. -/
theorem head?_trimStart {c : Char} {t : Text} (first : c ∈ (trimStart t).head?) :
    isSpace c = false := by
  have kept := List.head?_dropWhile_not isSpace t
  rw [trimStart] at first
  rw [Option.mem_def.mp first] at kept
  simpa using kept

/-- A trimmed text ends with no whitespace. -/
theorem getLast?_trim {c : Char} {t : Text} (last : c ∈ (trim t).getLast?) : isSpace c = false :=
  getLast?_dropEndWhile last

/-- Trimming the start stops at a solid character. -/
theorem trimStart_append_cons {c : Char} (solid : isSpace c = false) (s t : Text) :
    trimStart (s ++ c :: t) = trimStart s ++ c :: t :=
  dropWhile_append_cons solid s t

/-- Trimming the end stops at a solid character. -/
theorem trimEnd_append_cons {c : Char} (solid : isSpace c = false) (s t : Text) :
    trimEnd (s ++ c :: t) = s ++ c :: trimEnd t := by
  simp [trimEnd, dropEndWhile, dropWhile_append_cons solid]

/-- Whitespace only is trimmed away; any other text starts, trimmed at its start, with a character
that is no whitespace. -/
theorem trimStart_cases (t : Text) :
    trimStart t = [] ∨ ∃ c rest, trimStart t = c :: rest ∧ isSpace c = false := by
  cases trimmed : trimStart t with
  | nil => exact .inl rfl
  | cons c rest =>
      refine .inr ⟨c, rest, rfl, ?_⟩
      have first := List.head?_dropWhile_not isSpace t
      rw [trimStart] at trimmed
      rw [trimmed] at first
      simpa using first

/-- Blank text at the end is trimmed off. -/
theorem trimEnd_append_blank {w : Text} (blank : isBlank w = true) (t : Text) :
    trimEnd (t ++ w) = trimEnd t := by
  have gone : dropEndWhile isSpace w = [] := by
    rw [dropEndWhile, List.reverse_eq_nil_iff, List.dropWhile_eq_nil_iff]
    exact fun c member => List.all_eq_true.mp blank c (List.mem_reverse.mp member)
  exact dropEndWhile_append_of_nil gone t

/-- Blank text in front is trimmed off. -/
theorem trim_blank_append {w : Text} (blank : isBlank w = true) (t : Text) :
    trim (w ++ t) = trim t := by
  have start : trimStart (w ++ t) = trimStart t :=
    List.dropWhile_append_of_pos (List.all_eq_true.mp blank)
  rw [trim, start]
  rfl

/-- Blank text behind is trimmed off. -/
theorem trim_append_blank {w : Text} (blank : isBlank w = true) (t : Text) :
    trim (t ++ w) = trim t := by
  unfold trim
  rw [trimStart, List.dropWhile_append]
  split
  · next nothing =>
    have gone : w.dropWhile isSpace = [] :=
      List.dropWhile_eq_nil_iff.mpr (List.all_eq_true.mp blank)
    rw [gone, trimStart, List.isEmpty_iff.mp nothing]
  · exact trimEnd_append_blank blank _

/-- The end is trimmed once. -/
theorem trimEnd_trimEnd (t : Text) : trimEnd (trimEnd t) = trimEnd t :=
  dropEndWhile_idem isSpace t

/-- A text is trimmed once. -/
theorem trim_trim (t : Text) : trim (trim t) = trim t := by
  rcases trimStart_cases t with blank | ⟨c, rest, starts, solid⟩
  · simp only [trim, blank]
    rfl
  · have kept : trimEnd (c :: rest) = c :: trimEnd rest := trimEnd_append_cons solid [] rest
    have start : trimStart (c :: trimEnd rest) = c :: trimEnd rest :=
      trimStart_append_cons solid [] (trimEnd rest)
    rw [trim, trim, starts, kept, start, ← kept, trimEnd_trimEnd]

/-- A trimmed text starts with no whitespace. -/
theorem head?_of_trimmed {t : Text} (trimmed : trim t = t) : ∀ c ∈ t.head?, isSpace c = false := by
  rw [← trimmed]
  exact fun c first => head?_trimStart (head?_trimEnd first)

/-- A trimmed text ends with no whitespace. -/
theorem getLast?_of_trimmed {t : Text} (trimmed : trim t = t) :
    ∀ c ∈ t.getLast?, isSpace c = false := by
  rw [← trimmed]
  exact fun c last => getLast?_trim last

/-- A trimmed text has nothing to trim at its start. -/
theorem trimStart_of_trimmed {t : Text} (trimmed : trim t = t) : trimStart t = t := by
  cases t with
  | nil => rfl
  | cons c rest => exact trimStart_append_cons (head?_of_trimmed trimmed c rfl) [] rest

end ArticleMarkdown.Text
