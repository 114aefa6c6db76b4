import ArticleMarkdown.Fragment.Layout
import ArticleMarkdown.Proofs.Text.Ink

/-!
# Words and gaps

Words are made of characters that neither stand between words nor mark emphasis; the letters of all
scripts are such. A gap is whitespace after a number of these characters. Gaps of texts one after
another are those of the first, and those of the second moved behind the first.
-/

namespace ArticleMarkdown.Text

/-- A character of a word: neither whitespace, nor punctuation that takes no space before it, nor a
mark of emphasis. -/
def isWordChar (c : Char) : Bool :=
  !isSpace c && !isClosingPunctuation c && c != '*' && c != '~'

/-- The characters of the words of a text. -/
def wordChars (t : Text) : Text :=
  t.filter isWordChar

/-- Whether whitespace stands after exactly `n` characters of words. -/
def GapAt (n : Nat) (t : Text) : Prop :=
  ∃ i : Fin t.length, isSpace t[i] = true ∧ (wordChars (t.take i)).length = n

instance (n : Nat) (t : Text) : Decidable (GapAt n t) :=
  inferInstanceAs (Decidable (∃ _ : Fin t.length, _))

/-- Whether whitespace stands between the `k`-th character of words and the next. -/
def Separated (k : Nat) (t : Text) : Prop :=
  GapAt k t ∧ 0 < k ∧ k < (wordChars t).length

instance (k : Nat) (t : Text) : Decidable (Separated k t) :=
  inferInstanceAs (Decidable (_ ∧ _ ∧ _))

/-- An empty text has no words. -/
@[simp] theorem wordChars_nil : wordChars [] = [] := rfl

/-- Characters of words in joined texts. -/
@[simp] theorem wordChars_append (s t : Text) : wordChars (s ++ t) = wordChars s ++ wordChars t :=
  List.filter_append s t

/-- A blank text has no words. -/
theorem wordChars_of_blank {t : Text} (blank : isBlank t = true) : wordChars t = [] := by
  refine List.filter_eq_nil_iff.mpr fun c member word => ?_
  rw [isWordChar, isBlank_iff.mp blank c member] at word
  cases word

/-- The text before a gap, the whitespace of the gap, and the text after it. -/
theorem GapAt.split {n : Nat} {t : Text} (gap : GapAt n t) :
    ∃ before c after, t = before ++ c :: after ∧ isSpace c = true ∧
      (wordChars before).length = n := by
  obtain ⟨i, space, count⟩ := gap
  refine ⟨t.take i, t[i], t.drop (i + 1), ?_, space, count⟩
  rw [Fin.getElem_fin, List.getElem_cons_drop, List.take_append_drop]

private theorem gapAt_of_split (before : Text) {c : Char} (space : isSpace c = true)
    (after : Text) :
    GapAt (wordChars before).length (before ++ c :: after) :=
  ⟨⟨before.length, by simp⟩, by simpa using space, by simp⟩

/-- An empty text has no gap. -/
theorem not_gapAt_nil (n : Nat) : ¬GapAt n [] :=
  fun ⟨i, _⟩ => i.elim0

/-- A text that starts with whitespace has a gap before its words. -/
theorem gapAt_cons_of_space {c : Char} (space : isSpace c = true) (t : Text) : GapAt 0 (c :: t) :=
  gapAt_of_split [] space t

/-- What follows does not close a gap. -/
theorem GapAt.before {n : Nat} {s : Text} (gap : GapAt n s) (t : Text) : GapAt n (s ++ t) := by
  obtain ⟨before, c, after, rfl, space, rfl⟩ := gap.split
  rw [List.append_assoc]
  exact gapAt_of_split before space (after ++ t)

/-- A gap is counted on behind another text. -/
theorem GapAt.behind {n : Nat} {t : Text} (gap : GapAt n t) (s : Text) :
    GapAt ((wordChars s).length + n) (s ++ t) := by
  obtain ⟨before, c, after, rfl, space, rfl⟩ := gap.split
  rw [← List.append_assoc, ← List.length_append, ← wordChars_append]
  exact gapAt_of_split (s ++ before) space after

/-- A gap of two texts one after another stands in the first, or in the second. -/
theorem GapAt.of_append {n : Nat} {s t : Text} (gap : GapAt n (s ++ t)) :
    GapAt n s ∨ ∃ m, GapAt m t ∧ n = (wordChars s).length + m := by
  obtain ⟨before, c, after, split, space, rfl⟩ := gap.split
  rcases List.append_eq_append_iff.mp split with ⟨rest, rfl, rfl⟩ | ⟨rest, rfl, starts⟩
  · refine .inr ⟨(wordChars rest).length, gapAt_of_split rest space after, ?_⟩
    rw [wordChars_append, List.length_append]
  · cases rest with
    | nil =>
        refine .inr ⟨0, ?_, by simp⟩
        rw [← show c :: after = t from starts]
        exact gapAt_cons_of_space space after
    | cons first rest =>
        obtain ⟨rfl, rfl⟩ := List.cons.inj starts
        exact .inl (gapAt_of_split before space rest)

/-- A gap lies within the words or at their ends. -/
theorem GapAt.le {n : Nat} {t : Text} (gap : GapAt n t) : n ≤ (wordChars t).length := by
  obtain ⟨before, c, after, rfl, _, rfl⟩ := gap.split
  simp

private theorem GapAt.eq_zero_of_blank {n : Nat} {t : Text} (gap : GapAt n t)
    (blank : isBlank t = true) :
    n = 0 := by
  have bound := gap.le
  rw [wordChars_of_blank blank] at bound
  exact Nat.le_zero.mp bound

/-- Blank text in front adds a gap at the start only. -/
theorem GapAt.of_blank_append {n : Nat} {s t : Text} (gap : GapAt n (s ++ t))
    (blank : isBlank s = true) : n = 0 ∨ GapAt n t := by
  rcases gap.of_append with outer | ⟨m, inner, rfl⟩
  · exact .inl (outer.eq_zero_of_blank blank)
  · rw [wordChars_of_blank blank, List.length_nil, Nat.zero_add]
    exact .inr inner

/-- Blank text behind adds a gap at the end only. -/
theorem GapAt.of_append_blank {n : Nat} {s t : Text} (gap : GapAt n (s ++ t))
    (blank : isBlank t = true) : GapAt n s ∨ n = (wordChars s).length := by
  rcases gap.of_append with inner | ⟨m, outer, rfl⟩
  · exact .inl inner
  · exact .inr (by rw [outer.eq_zero_of_blank blank, Nat.add_zero])

/-- A space in front is a gap before all words. -/
theorem gapAt_start {t : Text} {c : Char} (first : t.head? = some c) (space : isSpace c = true) :
    GapAt 0 t := by
  obtain ⟨rest, rfl⟩ := List.head?_eq_some_iff.mp first
  exact gapAt_cons_of_space space rest

/-- A space at the end is a gap behind all words. -/
theorem gapAt_end {t : Text} {c : Char} (last : t.getLast? = some c) (space : isSpace c = true) :
    GapAt (wordChars t).length t := by
  obtain ⟨before, rfl⟩ := List.getLast?_eq_some_iff.mp last
  have bare : wordChars [c] = [] := wordChars_of_blank (by simp [isBlank, space])
  rw [wordChars_append, bare, List.append_nil]
  exact gapAt_of_split before space []

/-- A gap that is lost with whitespace around a text stood at an end of the text. -/
theorem Frames.gapAt {s t : Text} (framed : Frames s t) {n : Nat} (gap : GapAt n s) :
    GapAt n t ∨ n = 0 ∨ n = (wordChars t).length := by
  obtain ⟨before, after, blank, blank', rfl⟩ := framed
  rw [List.append_assoc] at gap
  rcases gap.of_blank_append blank with start | inner
  · exact .inr (.inl start)
  · exact (inner.of_append_blank blank').imp_right .inr

/-- Trimming keeps the characters of words. -/
theorem Frames.wordChars_eq {s t : Text} (framed : Frames s t) : wordChars s = wordChars t := by
  obtain ⟨before, after, blank, blank', rfl⟩ := framed
  simp [wordChars_of_blank blank, wordChars_of_blank blank']

/-- A trimmed text holds nothing new. -/
theorem Frames.mem {s t : Text} (framed : Frames s t) {c : Char} (member : c ∈ t) : c ∈ s := by
  obtain ⟨before, after, _, _, rfl⟩ := framed
  simp [member]

/-- Between spaced marks without words, a framed text keeps all gaps. -/
theorem Frames.gapAt_between {s t front back : Text} (framed : Frames s t)
    (wordless : wordChars front = []) (opens : GapAt 0 front) (closes : GapAt 0 back) {n : Nat}
    (gap : GapAt n s) : GapAt n (front ++ t ++ back) := by
  have same : wordChars (front ++ t) = wordChars t := by
    rw [wordChars_append, wordless, List.nil_append]
  rcases framed.gapAt gap with inner | rfl | rfl
  · have moved := inner.behind front
    rw [wordless, List.length_nil, Nat.zero_add] at moved
    exact moved.before back
  · exact (opens.before t).before back
  · have moved := closes.behind (front ++ t)
    rwa [same] at moved

/-- Whitespace is no closing punctuation. -/
theorem isClosingPunctuation_of_isSpace {c : Char} (space : isSpace c = true) :
    isClosingPunctuation c = false := by
  have apart : ".,;:!?)]\x7d。，；：！？、）】」".toList.any isSpace = false := by decide +kernel
  rw [Bool.eq_false_iff]
  intro closing
  exact List.any_eq_false.mp apart c (List.contains_iff_mem.mp closing) space

/-- Whether a text holds words and whitespace only. -/
def isWording (t : Text) : Bool :=
  t.all fun c => isWordChar c || isSpace c

/-- A wording holds no closing punctuation. -/
theorem unclosed_of_wording {t : Text} (wording : isWording t = true) :
    ∀ c ∈ t, isClosingPunctuation c = false := by
  intro c member
  have either := List.all_eq_true.mp wording c member
  rw [Bool.or_eq_true] at either
  rcases either with word | space
  · simp only [isWordChar, Bool.and_eq_true, Bool.not_eq_true'] at word
    exact word.1.1.2
  · exact isClosingPunctuation_of_isSpace space

private theorem blank_of_wordless {t : Text} (wording : isWording t = true)
    (wordless : wordChars t = []) :
    isBlank t = true := by
  refine isBlank_iff.mpr fun c member => ?_
  have either := List.all_eq_true.mp wording c member
  have noWord := List.filter_eq_nil_iff.mp wordless c member
  rw [Bool.or_eq_true] at either
  exact either.resolve_left noWord

/-- Joined wordings are wordings. -/
theorem isWording_append (s t : Text) : isWording (s ++ t) = (isWording s && isWording t) :=
  List.all_append

/-- A trimmed wording is a wording. -/
theorem Frames.isWording {s t : Text} (framed : Frames s t) (wording : isWording s = true) :
    isWording t = true :=
  List.all_eq_true.mpr fun c member => List.all_eq_true.mp wording c (framed.mem member)

/-- A gap before all words starts with the text. -/
theorem GapAt.head? {t : Text} (gap : GapAt 0 t) (wording : isWording t = true) :
    t.head?.any isSpace = true := by
  obtain ⟨before, c, after, rfl, space, none⟩ := gap.split
  cases before with
  | nil => exact space
  | cons first rest =>
      rw [isWording_append, Bool.and_eq_true] at wording
      exact isBlank_iff.mp (blank_of_wordless wording.1 (List.length_eq_zero_iff.mp none)) first
        List.mem_cons_self

/-- A gap after all words ends with the text. -/
theorem GapAt.getLast? {t : Text} (gap : GapAt (wordChars t).length t)
    (wording : isWording t = true) : t.getLast?.any isSpace = true := by
  obtain ⟨before, c, after, rfl, space, all⟩ := gap.split
  rw [wordChars_append, List.length_append] at all
  rw [isWording_append, Bool.and_eq_true] at wording
  have none : wordChars (c :: after) = [] := List.length_eq_zero_iff.mp (by omega)
  have last := List.getLast?_eq_some_getLast (List.cons_ne_nil c after)
  rw [List.getLast?_append, last, Option.some_or, Option.any_some]
  exact isBlank_iff.mp (blank_of_wordless wording.2 none) _ (List.getLast_mem _)

end ArticleMarkdown.Text
