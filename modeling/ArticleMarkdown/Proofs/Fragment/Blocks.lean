import ArticleMarkdown.Proofs.Fragment.Resolution

/-!
# What a block separator becomes

Two fragments with a block separator between them are laid out with a blank line between them, and
neither side gains or loses ink. What was written before the separator is fixed once the separator
has cut its spacing off: later separators cut back to it at most (`Layout.Beyond`).
-/

namespace ArticleMarkdown

namespace Text

private theorem getLast?_trimStart {c : Char} {t : Text} (last : c ∈ (trimStart t).getLast?) :
    c ∈ t.getLast? := by
  obtain ⟨before, -, start⟩ := trimStart_split t
  rw [start, List.getLast?_append, Option.mem_def.mp last]
  rfl

/-- Trimming two texts with a blank line between them trims one at the start and the other at the
end, if both show something. -/
theorem trim_blankLine {s t : Text} (shown : ink s ≠ []) (shown' : ink t ≠ []) :
    trim (s ++ '\n' :: '\n' :: t) = trimStart s ++ '\n' :: '\n' :: trimEnd t := by
  have stays : ¬ (trimStart s).isEmpty = true := by
    rw [List.isEmpty_iff]
    intro gone
    rw [← ink_trimStart, gone] at shown
    exact shown rfl
  have stays' : trimEnd t ≠ [] := by
    intro gone
    rw [← ink_trimEnd, gone] at shown'
    exact shown' rfl
  have started : trimStart (s ++ '\n' :: '\n' :: t) =
      (trimStart s ++ ['\n', '\n']) ++ t := by
    rw [trimStart, List.dropWhile_append]
    refine (if_neg stays).trans ?_
    rw [List.append_assoc]
    rfl
  rw [trim, started, trimEnd, dropEndWhile_append_of_ne_nil stays',
    List.append_assoc]
  rfl

end Text

namespace Layout

variable {layout : Layout} {kept : Text}

/-- What is laid out after `kept` and a block separator: so far nothing but spacing, or a blank
line and then a text that starts with no line break. -/
inductive Beyond (kept : Text) (layout : Layout) : Prop
  | waiting (blocked : layout.pendingBlock = true)
      (cut : Text.dropEndWhile Text.isSpacing layout.written = kept)
  | opened (c : Char) (rest : Text) (opens : Text.isLineBreak c = false)
      (split : layout.written = kept ++ '\n' :: '\n' :: c :: rest)

namespace Beyond

variable (filled : kept ≠ []) (ended : Text.dropEndWhile Text.isSpacing kept = kept)

include ended in
/-- The next block separator cuts back to `kept`, or to a place after it. -/
theorem cut_cases (beyond : layout.Beyond kept) :
    Text.dropEndWhile Text.isSpacing layout.written = kept ∨
      ∃ c rest, Text.isLineBreak c = false ∧
        Text.dropEndWhile Text.isSpacing layout.written = kept ++ '\n' :: '\n' :: c :: rest := by
  cases beyond with
  | waiting _ cut => exact .inl cut
  | opened c rest opens split =>
      have blankLine : kept ++ '\n' :: '\n' :: c :: rest = (kept ++ ['\n', '\n']) ++ c :: rest := by
        simp
      rw [split, blankLine]
      rcases Text.dropEndWhile_cons_cases Text.isSpacing c rest with gone | ⟨stays, some⟩
      · left
        rw [Text.dropEndWhile_append_of_nil gone, Text.dropEndWhile_append_of_nil (by decide),
          ended]
      · right
        refine ⟨c, stays, opens, ?_⟩
        rw [Text.dropEndWhile_append_of_ne_nil (by simp [some]), some, List.append_assoc]
        rfl

include filled ended in
private theorem write (beyond : layout.Beyond kept) (token : Token) :
    (layout.write token).Beyond kept := by
  cases token with
  | blockBreak =>
      cases beyond with
      | waiting _ cut => exact .waiting rfl cut
      | opened c rest opens split => exact .opened c rest opens split
  | inlineBreak =>
      cases beyond with
      | waiting blocked cut => exact .waiting blocked cut
      | opened c rest opens split => exact .opened c rest opens split
  | text t =>
      cases blocked : layout.pendingBlock with
      | false =>
          obtain ⟨waits, -⟩ | ⟨c, rest, opens, split⟩ := beyond
          · exact absurd waits (by simp [blocked])
          · by_cases nothing : t = []
            · rw [nothing, write_nil]
              exact .opened c rest opens split
            · refine .opened c (rest ++ layout.space t ++ t) opens ?_
              rw [write_unblocked blocked nothing, split]
              simp
      | true =>
          cases body : t.dropWhile Text.isLineBreak with
          | nil =>
              rw [write_lineBreaks blocked body]
              exact beyond
          | cons c rest =>
              have opens : Text.isLineBreak c = false := by
                have first := List.head?_dropWhile_not Text.isLineBreak t
                simpa [body] using first
              have something : t.dropWhile Text.isLineBreak ≠ [] := by simp [body]
              rw [write_blocked blocked something, body]
              rcases beyond.cut_cases ended with cut | ⟨d, more, opens', cut⟩
              · refine .opened c rest opens ?_
                simp only [cut, List.isEmpty_eq_false_iff.mpr filled, Bool.false_eq_true, if_false]
              · refine .opened d (more ++ '\n' :: '\n' :: c :: rest) opens' ?_
                simp [cut]

include filled ended in
/-- What is kept behind a separator stays, whatever tokens follow. -/
theorem foldl_write (beyond : layout.Beyond kept) (tokens : List Token) :
    (tokens.foldl Layout.write layout).Beyond kept := by
  induction tokens generalizing layout with
  | nil => exact beyond
  | cons token rest ih => exact ih (beyond.write filled ended token)

end Beyond

/-- A layout that shows something, a block separator, and tokens that show something. -/
theorem written_after_blockBreak (shown : Text.ink layout.written ≠ []) {tokens : List Token}
    (shown' : Text.ink (Token.allSpread tokens) ≠ []) :
    ∃ c rest, Text.isLineBreak c = false ∧
      Text.ink (c :: rest) = Text.ink (Token.allSpread tokens) ∧
      (tokens.foldl Layout.write (layout.write .blockBreak)).written =
        Text.dropEndWhile Text.isSpacing layout.written ++ '\n' :: '\n' :: c :: rest := by
  have inkKept := Text.ink_dropSpacing layout.written
  have filled : Text.dropEndWhile Text.isSpacing layout.written ≠ [] := by
    intro nothing
    rw [nothing] at inkKept
    exact shown inkKept.symm
  have waits :
      (layout.write .blockBreak).Beyond (Text.dropEndWhile Text.isSpacing layout.written) :=
    .waiting rfl rfl
  have whole : Text.ink (tokens.foldl Layout.write (layout.write .blockBreak)).written =
      Text.ink layout.written ++ Text.ink (Token.allSpread tokens) :=
    ink_foldl_write (layout.write .blockBreak) tokens
  have beyond := waits.foldl_write filled (Text.dropEndWhile_idem _ _) tokens
  obtain ⟨-, cut⟩ | ⟨c, rest, opens, split⟩ := beyond
  · rw [← Text.ink_dropSpacing, cut, inkKept] at whole
    exact absurd whole (by simpa using shown')
  · refine ⟨c, rest, opens, ?_, split⟩
    rw [split, Text.ink_append, inkKept] at whole
    exact List.append_cancel_left whole

end Layout

namespace Token

/-- A block separator between joined tokens. -/
theorem join_blockBreak (left right : List Token) :
    join (join left [.blockBreak]) right = left ++ .blockBreak :: right := by
  induction left with
  | nil => rfl
  | cons token rest ih =>
      have ends : join (token :: rest) [.blockBreak] = token :: join rest [.blockBreak] := by
        simp [join]
      have filled : join rest [.blockBreak] ≠ [] := by
        cases rest <;> simp [join]
      rw [ends]
      simp [join, filled, ih]

end Token

namespace Fragment

/-- The literal text has the ink of the fragment. -/
theorem ink_plainText (f : Fragment) : Text.ink f.plainText = f.ink := by
  simp only [plainText, ink, spread, Token.allSpread]
  induction f.tokens with
  | nil => rfl
  | cons token rest ih =>
      have same : Text.ink token.literal = Text.ink token.spread := by cases token <;> rfl
      rw [List.flatMap_cons, List.flatMap_cons, Text.ink_append, Text.ink_append, same, ih]

/-- Laying out moves no ink; and between two fragments that show something, a block separator
becomes a blank line, with the ink of each fragment on its own side. -/
theorem finalText_blockBreak (f g : Fragment) :
    Text.ink f.finalText = Text.ink f.plainText ∧
      (f.isBlank = false → g.isBlank = false →
        ∃ before after, (f ++ blockBreak ++ g).finalText = before ++ '\n' :: '\n' :: after ∧
          (∀ c ∈ before.getLast?, Text.isSpacing c = false) ∧
          (∀ c ∈ after.head?, Text.isLineBreak c = false) ∧
          Text.ink before = Text.ink f.plainText ∧ Text.ink after = Text.ink g.plainText) := by
  rw [ink_plainText, ink_plainText, ink_finalText]
  refine ⟨rfl, fun shown shown' => ?_⟩
  have inked : f.ink ≠ [] := mt f.isBlank_iff.mpr (by simp [shown])
  have inked' : g.ink ≠ [] := mt g.isBlank_iff.mpr (by simp [shown'])
  have inkFirst : Text.ink (f.tokens.foldl Layout.write .start).written = f.ink :=
    Layout.ink_foldl_write .start f.tokens
  obtain ⟨c, rest, opens, inkRest, split⟩ :=
    Layout.written_after_blockBreak (inkFirst ▸ inked) inked'
  generalize keeps : Text.dropEndWhile Text.isSpacing _ = kept at split
  have laid : (f ++ blockBreak ++ g).finalText = Text.trim (kept ++ '\n' :: '\n' :: c :: rest) := by
    have tokens : (f ++ blockBreak ++ g).tokens = f.tokens ++ .blockBreak :: g.tokens :=
      Token.join_blockBreak f.tokens g.tokens
    rw [finalText, tokens, List.foldl_append, List.foldl_cons, split]
  have inkKept : Text.ink kept = f.ink := by rw [← keeps, Text.ink_dropSpacing, inkFirst]
  refine ⟨Text.trimStart kept, Text.trimEnd (c :: rest), ?_, ?_, ?_, ?_, ?_⟩
  · rw [laid]
    exact Text.trim_blankLine (inkKept ▸ inked) (inkRest ▸ inked')
  · intro d last
    have lastKept := Text.getLast?_trimStart last
    rw [← keeps] at lastKept
    exact Text.getLast?_dropEndWhile lastKept
  · intro d first
    cases Text.head?_trimEnd first
    exact opens
  · rw [Text.ink_trimStart, inkKept]
  · rw [Text.ink_trimEnd, inkRest]
    rfl

/-- Spacing on either side of the separator is taken off. -/
theorem finalText_blockBreak_spaced :
    ∃ before after,
      (ofText "a \n".toList ++ blockBreak ++ ofText "\n b".toList).finalText =
        before ++ '\n' :: '\n' :: after ∧
      Text.ink before = ['a'] ∧ Text.ink after = ['b'] := by
  have shown : (ofText "a \n".toList).isBlank = false := by decide
  have shown' : (ofText "\n b".toList).isBlank = false := by decide
  obtain ⟨before, after, laid, -, -, left, right⟩ := (finalText_blockBreak _ _).2 shown shown'
  exact ⟨before, after, laid, left, right⟩

end Fragment
end ArticleMarkdown
