import ArticleMarkdown.Proofs.Text.Trim
import ArticleMarkdown.Text.Basic

/-!
# The ink of a text

What is left of a text without its whitespace is its ink. Layout moves whitespace only, so ink is
what a text keeps through it. A text frames another one if it is that text with whitespace around
it; trimming leaves a text that the untrimmed one frames (`Text.frames_trim`).
-/

namespace ArticleMarkdown.Text

/-- The characters that are no whitespace. -/
def ink (t : Text) : Text :=
  t.filter fun c => !isSpace c

/-- The characters that a reader sees: neither whitespace nor invisible formatting. -/
def visible (t : Text) : Text :=
  t.filter fun c => !isSpace c && !isInvisible c

/-- An empty text has no ink. -/
@[simp] theorem ink_nil : ink [] = [] := rfl

/-- The ink of a text, one character at a time. -/
theorem ink_cons (c : Char) (t : Text) :
    ink (c :: t) = if isSpace c then ink t else c :: ink t := by
  rw [ink, List.filter_cons]
  cases isSpace c <;> rfl

/-- A text that starts with no whitespace starts as its ink does. -/
theorem head?_ink {t : Text} (opens : ∀ c ∈ t.head?, isSpace c = false) :
    (ink t).head? = t.head? := by
  cases t with
  | nil => rfl
  | cons c rest =>
      rw [ink_cons, opens c rfl]
      rfl

/-- Ink of joined texts. -/
@[simp] theorem ink_append (s t : Text) : ink (s ++ t) = ink s ++ ink t :=
  List.filter_append s t

/-- Visible characters of joined texts. -/
@[simp] theorem visible_append (s t : Text) : visible (s ++ t) = visible s ++ visible t :=
  List.filter_append s t

/-- A blank text is all whitespace. -/
theorem isBlank_iff {t : Text} : isBlank t = true ↔ ∀ c ∈ t, isSpace c = true :=
  List.all_eq_true

/-- A blank text is one without ink. -/
theorem ink_eq_nil {t : Text} : ink t = [] ↔ isBlank t = true := by
  simp [ink, isBlank]

private theorem visible_eq_filter_ink (t : Text) :
    visible t = (ink t).filter fun c => !isInvisible c := by
  rw [ink, List.filter_filter, visible]
  exact List.filter_congr fun c _ => Bool.and_comm _ _

/-- The ink without invisible characters is what is visible. -/
theorem ink_stripInvisible (t : Text) : ink (stripInvisible t) = visible t := by
  rw [ink, stripInvisible, List.filter_filter, visible]

/-- What is visible is ink. -/
theorem visible_sublist_ink (t : Text) : (visible t).Sublist (ink t) := by
  rw [visible_eq_filter_ink]
  exact List.filter_sublist

/-- A blank text shows nothing. -/
theorem visible_of_blank {t : Text} (blank : isBlank t = true) : visible t = [] := by
  rw [visible_eq_filter_ink, ink_eq_nil.mpr blank, List.filter_nil]

/-- What is seen of a text is found in any text whose ink holds that text's ink. -/
theorem sublist_of_ink {v t : Text} (found : v.Sublist (ink t)) : v.Sublist t :=
  found.trans List.filter_sublist

/-- A joined text is blank if both parts are. -/
@[simp] theorem isBlank_append (s t : Text) : isBlank (s ++ t) = (isBlank s && isBlank t) :=
  List.all_append

/-- The first text is the second one with whitespace around it. -/
def Frames (s t : Text) : Prop :=
  ∃ before after, isBlank before = true ∧ isBlank after = true ∧ s = before ++ t ++ after

/-- Whitespace around a text is no ink. -/
theorem Frames.ink_eq {s t : Text} (framed : Frames s t) : ink s = ink t := by
  obtain ⟨before, after, blank, blank', rfl⟩ := framed
  simp [ink_eq_nil.mpr blank, ink_eq_nil.mpr blank']

section Dropping

variable {p : Char → Bool} (spaces : ∀ c, p c = true → isSpace c = true)

include spaces

/-- What is dropped from the start is whitespace if all that may be dropped is. -/
theorem dropWhile_split (t : Text) :
    ∃ before, isBlank before = true ∧ t = before ++ t.dropWhile p := by
  refine ⟨t.takeWhile p, ?_, (List.takeWhile_append_dropWhile).symm⟩
  exact isBlank_iff.mpr fun c member => spaces c (List.mem_takeWhile_imp member)

/-- What is dropped at the end is blank. -/
theorem dropEndWhile_split (t : Text) :
    ∃ after, isBlank after = true ∧ t = dropEndWhile p t ++ after := by
  refine ⟨(t.reverse.takeWhile p).reverse, ?_, (dropEndWhile_append_takeEndWhile p t).symm⟩
  refine isBlank_iff.mpr fun c member => spaces c ?_
  exact List.mem_takeWhile_imp (List.mem_reverse.mp member)

private theorem ink_dropWhile (t : Text) : ink (t.dropWhile p) = ink t := by
  obtain ⟨before, blank, split⟩ := dropWhile_split spaces t
  have joined := congrArg ink split
  rw [ink_append, ink_eq_nil.mpr blank, List.nil_append] at joined
  exact joined.symm

/-- Dropping spaces at the end keeps the ink. -/
theorem ink_dropEndWhile (t : Text) : ink (dropEndWhile p t) = ink t := by
  obtain ⟨after, blank, split⟩ := dropEndWhile_split spaces t
  have joined := congrArg ink split
  rw [ink_append, ink_eq_nil.mpr blank, List.append_nil] at joined
  exact joined.symm

/-- What is no whitespace is not dropped. -/
theorem stays_of_solid {c : Char} (solid : isSpace c = false) : p c = false := by
  rw [← Bool.not_eq_true]
  intro drops
  rw [spaces c drops] at solid
  cases solid

/-- Nothing is dropped behind a solid character. -/
theorem dropEndWhile_solid {c : Char} (solid : isSpace c = false) (before : Text) :
    dropEndWhile p (before ++ [c]) = before ++ [c] := by
  have stays : dropEndWhile p [c] = [c] := by
    simp [dropEndWhile, stays_of_solid spaces solid]
  rw [dropEndWhile_append_of_ne_nil (by rw [stays]; exact List.cons_ne_nil c []), stays]

end Dropping

/-- What is trimmed off the start is blank. -/
theorem trimStart_split (t : Text) : ∃ before, isBlank before = true ∧ t = before ++ trimStart t :=
  dropWhile_split (fun _ space => space) t

/-- What is trimmed off the end is blank. -/
theorem trimEnd_split (t : Text) : ∃ after, isBlank after = true ∧ t = trimEnd t ++ after :=
  dropEndWhile_split (fun _ space => space) t

/-- Trimming the start keeps the ink. -/
@[simp] theorem ink_trimStart (t : Text) : ink (trimStart t) = ink t :=
  ink_dropWhile (fun _ space => space) t

/-- Trimming the end keeps the ink. -/
@[simp] theorem ink_trimEnd (t : Text) : ink (trimEnd t) = ink t :=
  ink_dropEndWhile (fun _ space => space) t

/-- Trimming keeps the ink. -/
@[simp] theorem ink_trim (t : Text) : ink (trim t) = ink t := by
  rw [trim, ink_trimEnd, ink_trimStart]

/-- Trimming leaves nothing of a blank text, and only of that. -/
theorem trim_eq_nil {t : Text} : trim t = [] ↔ isBlank t = true := by
  constructor
  · intro nothing
    rw [← ink_eq_nil, ← ink_trim, nothing, ink_nil]
  · exact fun blank => trim_append_blank blank []

/-- Trimming a text at the start ends in the part that shows something. -/
theorem trimStart_append_of_ink {s : Text} (shown : ink s ≠ []) (t : Text) :
    trimStart (s ++ t) = trimStart s ++ t := by
  have stays : trimStart s ≠ [] := by
    intro gone
    rw [← ink_trimStart, gone] at shown
    exact shown rfl
  rw [trimStart, List.dropWhile_append]
  exact if_neg (mt List.isEmpty_iff.mp stays)

/-- A text with blank parts cut off both ends. -/
theorem Frames.of_splits {s t u before after : Text} (blank : isBlank before = true)
    (blank' : isBlank after = true) (start : s = before ++ t) (ending : t = u ++ after) :
    Frames s u :=
  ⟨before, after, blank, blank', by rw [start, ending, List.append_assoc]⟩

/-- Blank parts may be cut off in two steps. -/
theorem Frames.trans {s t u : Text} (outer : Frames s t) (inner : Frames t u) : Frames s u := by
  obtain ⟨before, after, blank, blank', rfl⟩ := outer
  obtain ⟨before', after', nearBlank, nearBlank', rfl⟩ := inner
  exact ⟨before ++ before', after' ++ after, by simp [blank, nearBlank],
    by simp [blank', nearBlank'], by simp⟩

/-- Trimming cuts blank parts off. -/
theorem frames_trim (t : Text) : Frames t (trim t) := by
  obtain ⟨before, blank, start⟩ := trimStart_split t
  obtain ⟨after, blank', ending⟩ := trimEnd_split (trimStart t)
  exact .of_splits blank blank' start ending

/-- A trimmed text is a part of the text. -/
theorem infix_trim (t : Text) : trim t <:+: t := by
  obtain ⟨before, after, -, -, whole⟩ := frames_trim t
  exact ⟨before, after, whole.symm⟩

/-- A line break is whitespace. -/
theorem isSpace_of_isLineBreak {c : Char} (breaks : isLineBreak c = true) : isSpace c = true := by
  simp only [isLineBreak, Bool.or_eq_true, beq_iff_eq] at breaks
  rcases breaks with rfl | rfl <;> rfl

/-- A solid character is no line break. -/
theorem isLineBreak_of_solid {c : Char} (solid : isSpace c = false) : isLineBreak c = false :=
  stays_of_solid (fun _ => isSpace_of_isLineBreak) solid

/-- Dropping line breaks at the start keeps the ink. -/
@[simp] theorem ink_dropLineBreaks (t : Text) : ink (t.dropWhile isLineBreak) = ink t :=
  ink_dropWhile (fun _ => isSpace_of_isLineBreak) t

end ArticleMarkdown.Text
