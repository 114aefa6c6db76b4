import ArticleMarkdown.Proofs.Fragment.Spread
import ArticleMarkdown.Proofs.Text.Words

/-!
# Words in fragments

A fragment conveys a text if it has the words of the text and all gaps between them, separators
counted as gaps, and no punctuation that could close one. The final layout of such a fragment has
the same words, and each gap between two of them (`Fragment.Conveys.finalText`).
-/

namespace ArticleMarkdown

open Text

/-- A fragment with the words and the gaps of a text, and without closing punctuation. -/
structure Fragment.Conveys (f : Fragment) (t : Text) : Prop where
  words : wordChars f.spread = wordChars t
  gaps : ∀ n, GapAt n t → GapAt n f.spread
  unclosed : ∀ c ∈ f.spread, isClosingPunctuation c = false

namespace Fragment.Conveys

/-- An empty fragment conveys nothing. -/
theorem empty : (∅ : Fragment).Conveys [] :=
  ⟨rfl, fun n gap => absurd gap (not_gapAt_nil n), nofun⟩

/-- A fragment of whitespace conveys nothing. -/
theorem of_blank {f : Fragment} (blank : Text.isBlank f.spread = true) : f.Conveys [] where
  words := wordChars_of_blank blank
  gaps n gap := absurd gap (not_gapAt_nil n)
  unclosed c member := isClosingPunctuation_of_isSpace (Text.isBlank_iff.mp blank c member)

private theorem blockBreak : Fragment.blockBreak.Conveys [] :=
  of_blank rfl

/-- A separator conveys nothing. -/
theorem inlineBreak : Fragment.inlineBreak.Conveys [] :=
  of_blank rfl

variable {f g : Fragment} {t u : Text}

/-- Joined fragments convey joined texts. -/
theorem append (conveyed : f.Conveys t) (conveyed' : g.Conveys u) : (f ++ g).Conveys (t ++ u) where
  words := by
    rw [spread_append, wordChars_append, wordChars_append, conveyed.words, conveyed'.words]
  gaps n gap := by
    rw [spread_append]
    rcases gap.of_append with first | ⟨m, second, rfl⟩
    · exact (conveyed.gaps n first).before g.spread
    · rw [← conveyed.words]
      exact (conveyed'.gaps m second).behind f.spread
  unclosed c member := by
    rw [spread_append] at member
    exact (List.mem_append.mp member).elim (conveyed.unclosed c) (conveyed'.unclosed c)

/-- A separator behind conveys nothing more. -/
theorem closed (conveyed : f.Conveys t) : (f ++ Fragment.blockBreak).Conveys t := by
  have whole := conveyed.append blockBreak
  rwa [List.append_nil] at whole

/-- Separators around convey nothing more. -/
theorem blocked (conveyed : f.Conveys t) : f.blocked.Conveys t :=
  (blockBreak.append conveyed).closed

end Fragment.Conveys

namespace Layout

/-- What a layout has written of a text: its words and the gaps behind the first of them. A gap at
the end may wait as a separator. -/
structure Holds (layout : Layout) (t : Text) : Prop where
  words : wordChars layout.written = wordChars t
  gaps : ∀ n, 0 < n → GapAt n t → GapAt n layout.written ∨
    n = (wordChars t).length ∧ (layout.pendingBlock || layout.pendingInline) = true

private theorem Holds.start : Layout.start.Holds [] :=
  ⟨rfl, fun n _ gap => absurd gap (not_gapAt_nil n)⟩

variable {layout : Layout} {t u : Text}

/-- Whitespace may wait as a separator. -/
theorem Holds.wait (holds : layout.Holds t) {next : Layout} (same : next.written = layout.written)
    (waits : (next.pendingBlock || next.pendingInline) = true) (blank : Text.isBlank u = true) :
    next.Holds (t ++ u) where
  words := by rw [same, holds.words, wordChars_append, wordChars_of_blank blank, List.append_nil]
  gaps n positive gap := by
    rw [same, wordChars_append, wordChars_of_blank blank, List.append_nil]
    rcases gap.of_append_blank blank with inner | atEnd
    · exact (holds.gaps n positive inner).imp_right fun waited => ⟨waited.1, waits⟩
    · exact .inr ⟨atEnd, waits⟩

/-- Where an inline separator waits, two texts meet with a gap between them. -/
theorem gapAt_seam {before after : Text} (filled : before ≠ []) (filled' : after ≠ [])
    (unclosed : ∀ c ∈ after, isClosingPunctuation c = false) :
    GapAt (wordChars before).length
      (before ++ (if needsSpace before after then [' '] else []) ++ after) := by
  have last := List.getLast?_eq_some_getLast filled
  have first := List.head?_eq_some_head filled'
  by_cases ends : isSpace (before.getLast filled)
  · exact ((gapAt_end last ends).before _).before after
  · by_cases starts : isSpace (after.head filled')
    · have bare : wordChars (if needsSpace before after then [' '] else []) = [] := by
        split <;> rfl
      have gap := (gapAt_start first starts).behind
        (before ++ if needsSpace before after then [' '] else [])
      rwa [wordChars_append, bare, List.append_nil] at gap
    · have needed : needsSpace before after = true := by
        simp [needsSpace, last, first, ends, starts, unclosed _ (List.head_mem filled')]
      rw [if_pos needed]
      exact ((gapAt_cons_of_space rfl []).behind before).before after

private theorem Holds.writeInline (holds : layout.Holds t) (noBlock : layout.pendingBlock = false)
    (filled : u ≠ []) (unclosed : ∀ c ∈ u, isClosingPunctuation c = false) :
    (layout.write (.text u)).Holds (t ++ u) := by
  have bare : ∀ wanted : Prop, [Decidable wanted] →
      wordChars (if wanted then [' '] else []) = [] := by
    intro wanted _
    split <;> rfl
  simp only [write, List.isEmpty_eq_false_iff.mpr filled, noBlock, Bool.false_eq_true, if_false]
  constructor
  · simp [bare, holds.words]
  · intro n positive gap
    left
    rcases gap.of_append with inner | ⟨m, next, rfl⟩
    · rcases holds.gaps n positive inner with written | ⟨rfl, waits⟩
      · exact (written.before _).before u
      · rw [noBlock, Bool.false_or] at waits
        have something : layout.written ≠ [] := by
          rintro nothing
          rw [← holds.words, nothing] at positive
          exact absurd positive (Nat.lt_irrefl 0)
        rw [waits, Bool.true_and, ← holds.words]
        exact gapAt_seam something filled unclosed
    · have behind := next.behind (layout.written ++
        if layout.pendingInline && needsSpace layout.written u then [' '] else [])
      rwa [wordChars_append, bare, List.append_nil, holds.words] at behind

/-- A blank line between what is written and what follows takes the place of the whitespace that
was there. -/
theorem Holds.breakLine (holds : layout.Holds t) {kept after before shown : Text}
    (ending : layout.written = kept ++ after) (blank : Text.isBlank after = true)
    (start : u = before ++ shown) (blank' : Text.isBlank before = true) :
    Holds ⟨if kept.isEmpty then shown else kept ++ '\n' :: '\n' :: shown, false, false⟩
      (t ++ u) := by
  have words : wordChars t = wordChars kept := by
    rw [← holds.words, ending, wordChars_append, wordChars_of_blank blank, List.append_nil]
  have words' : wordChars u = wordChars shown := by
    rw [start, wordChars_append, wordChars_of_blank blank', List.nil_append]
  by_cases nothing : kept = []
  · subst nothing
    rw [wordChars_nil] at words
    refine ⟨by simp [words, words'], fun n positive gap => .inl ?_⟩
    rcases gap.of_append with inner | ⟨m, next, rfl⟩
    · have bound := inner.le
      rw [words, List.length_nil] at bound
      exact absurd positive (Nat.not_lt.mpr bound)
    · rw [words, List.length_nil, Nat.zero_add] at positive ⊢
      rw [start] at next
      exact (next.of_blank_append blank').resolve_left (Nat.ne_of_gt positive)
  · have lineFeeds : wordChars ('\n' :: '\n' :: shown) = wordChars shown :=
      wordChars_append ['\n', '\n'] shown
    have seam : GapAt (wordChars t).length (kept ++ '\n' :: '\n' :: shown) := by
      rw [words]
      exact (gapAt_cons_of_space rfl _).behind kept
    rw [if_neg (List.isEmpty_iff.not.mpr nothing)]
    refine ⟨by rw [wordChars_append, wordChars_append, words, words', lineFeeds],
      fun n positive gap => .inl ?_⟩
    rcases gap.of_append with inner | ⟨m, next, rfl⟩
    · rcases holds.gaps n positive inner with written | ⟨rfl, _⟩
      · rw [ending] at written
        rcases written.of_append_blank blank with inside | rfl
        · exact inside.before _
        · exact words ▸ seam
      · exact seam
    · rw [start] at next
      rcases next.of_blank_append blank' with rfl | behind
      · exact seam
      · have moved := (behind.behind ['\n', '\n']).behind kept
        have bare : (wordChars ['\n', '\n']).length = 0 := rfl
        rwa [bare, Nat.zero_add, ← words] at moved

private theorem Holds.writeBlock (holds : layout.Holds t) (block : layout.pendingBlock = true)
    (u : Text) :
    (layout.write (.text u)).Holds (t ++ u) := by
  have waits : (layout.pendingBlock || layout.pendingInline) = true := by rw [block, Bool.true_or]
  obtain ⟨before, blank, start⟩ := dropWhile_split (p := isLineBreak)
    (fun _ => isSpace_of_isLineBreak) u
  obtain ⟨after, blank', ending⟩ := dropEndWhile_split (p := isSpacing)
    (fun _ => isSpace_of_isSpacing) layout.written
  simp only [write, block, if_true]
  split
  · next nothing =>
    exact holds.wait rfl waits (List.isEmpty_iff.mp nothing ▸ rfl)
  · split
    · next none =>
      rw [none, List.append_nil] at start
      exact holds.wait rfl waits (start ▸ blank)
    · exact holds.breakLine ending blank' start blank

private theorem Holds.write (holds : layout.Holds t) (token : Token)
    (unclosed : ∀ c ∈ token.spread, isClosingPunctuation c = false) :
    (layout.write token).Holds (t ++ token.spread) := by
  cases token with
  | blockBreak => exact holds.wait rfl rfl rfl
  | inlineBreak =>
      refine holds.wait rfl ?_ rfl
      simp only [Layout.write]
      cases layout.pendingBlock <;> simp
  | text u =>
      by_cases filled : u = []
      · subst filled
        rw [Token.spread, List.append_nil]
        exact holds
      · by_cases block : layout.pendingBlock
        · exact holds.writeBlock block u
        · exact holds.writeInline (Bool.eq_false_iff.mpr block) filled unclosed

private theorem Holds.foldl_write (holds : layout.Holds t) (tokens : List Token)
    (unclosed : ∀ c ∈ Token.allSpread tokens, isClosingPunctuation c = false) :
    (tokens.foldl Layout.write layout).Holds (t ++ Token.allSpread tokens) := by
  induction tokens generalizing layout t with
  | nil => rwa [Token.allSpread_nil, List.append_nil]
  | cons token rest ih =>
      rw [Token.allSpread_cons] at unclosed
      have first := holds.write token fun c member =>
        unclosed c (List.mem_append_left _ member)
      rw [Token.allSpread_cons, ← List.append_assoc]
      exact ih first fun c member => unclosed c (List.mem_append_right _ member)

end Layout

private theorem Text.Separated.of_frames {s t : Text} (framed : Frames s t) {k : Nat}
    (separated : Separated k s) : Separated k t := by
  obtain ⟨gap, positive, below⟩ := separated
  rw [framed.wordChars_eq] at below
  refine ⟨?_, positive, below⟩
  rcases framed.gapAt gap with inner | rfl | rfl
  · exact inner
  · exact absurd positive (Nat.lt_irrefl 0)
  · exact absurd below (Nat.lt_irrefl _)

/-- The final layout keeps the words of a text and what separates them. -/
theorem Fragment.Conveys.finalText {f : Fragment} {t : Text} (conveyed : f.Conveys t) :
    wordChars f.finalText = wordChars t ∧ ∀ k, Separated k t → Separated k f.finalText := by
  have holds := Layout.Holds.start.foldl_write f.tokens conveyed.unclosed
  have framed : Frames (f.tokens.foldl Layout.write Layout.start).written f.finalText :=
    Text.frames_trim _
  have words : wordChars (f.tokens.foldl Layout.write Layout.start).written = wordChars t :=
    holds.words.trans conveyed.words
  refine ⟨framed.wordChars_eq.symm.trans words, fun k separated => .of_frames framed ?_⟩
  obtain ⟨gap, positive, below⟩ := separated
  rw [← words] at below
  refine ⟨?_, positive, below⟩
  rcases holds.gaps k positive (conveyed.gaps k gap) with written | ⟨rfl, _⟩
  · exact written
  · rw [holds.words] at below
    exact absurd below (Nat.lt_irrefl _)

end ArticleMarkdown
