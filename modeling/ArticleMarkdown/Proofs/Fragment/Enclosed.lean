import ArticleMarkdown.Proofs.Fragment.Marking
import ArticleMarkdown.Proofs.Text.Anchored

/-!
# Fragments between marks

Behind a mark that shows, the layout goes on the same whatever stands before the mark
(`Layout.foldl_write_shown`). What stands between two marks is therefore laid out on its own, at the
same place in every document (`Fragment.Encloses`): without block separators it differs from the
content in spaces only, and a block separator always leaves a blank line there.
-/

namespace ArticleMarkdown

open Text

namespace Layout

variable {layout : Layout} {tokens : List Token} {opening closing : Text}

/-- Behind something that shows, the layout does not depend on what stands before. -/
theorem write_shown (shown : ink layout.written ≠ []) (token : Token) (before : Text) :
    (layout.behind before).write token = (layout.write token).behind before := by
  have filled : layout.written ≠ [] := by
    intro nothing
    rw [nothing] at shown
    exact shown rfl
  cases token with
  | blockBreak => rfl
  | inlineBreak => rfl
  | text t =>
      cases blocked : layout.pendingBlock with
      | false =>
          have inline : Token.text t ≠ .blockBreak := nofun
          exact write_behind blocked filled inline before
      | true =>
          have blocked' : (layout.behind before).pendingBlock = true := blocked
          by_cases nothing : t.dropWhile isLineBreak = []
          · rw [write_lineBreaks blocked nothing, write_lineBreaks blocked' nothing]
          · have kept : dropEndWhile isSpacing layout.written ≠ [] := by
              intro gone
              rw [← ink_dropSpacing, gone] at shown
              exact shown rfl
            have kept' : before ++ dropEndWhile isSpacing layout.written ≠ [] :=
              List.append_ne_nil_of_right_ne_nil _ kept
            rw [write_blocked blocked nothing, write_blocked blocked' nothing]
            simp only [behind, List.isEmpty_eq_false_iff.mpr kept,
              List.isEmpty_eq_false_iff.mpr kept',
              dropEndWhile_append_of_ne_nil kept, Bool.false_eq_true, if_false, List.append_assoc]

private theorem foldl_write_shown (shown : ink layout.written ≠ []) (tokens : List Token)
    (before : Text) :
    tokens.foldl write (layout.behind before) = (tokens.foldl write layout).behind before := by
  induction tokens generalizing layout with
  | nil => rfl
  | cons token rest ih =>
      rw [List.foldl_cons, List.foldl_cons, write_shown shown]
      refine ih ?_
      rw [ink_write]
      exact List.append_ne_nil_of_left_ne_nil shown _

/-- A mark is written as it is, and nothing waits behind it. -/
theorem write_firm (firm : Firm opening) (layout : Layout) :
    ∃ front, layout.write (.text opening) = (⟨opening, false, false⟩ : Layout).behind front := by
  cases blocked : layout.pendingBlock with
  | false =>
      rw [write_unblocked blocked firm.ne_nil]
      exact ⟨_, rfl⟩
  | true =>
      have opened : opening.dropWhile isLineBreak = opening := firm.dropLineBreaks
      rw [write_blocked blocked (opened.symm ▸ firm.ne_nil), opened]
      split
      · exact ⟨[], rfl⟩
      · refine ⟨dropEndWhile isSpacing layout.written ++ ['\n', '\n'], ?_⟩
        simp [behind]

/-- Without block separators, the layout writes what the tokens are read as, up to spaces. -/
theorem unspaced_foldl_write (unblocked : layout.pendingBlock = false)
    (flat : .blockBreak ∉ tokens) :
    unspaced (tokens.foldl write layout).written =
      unspaced layout.written ++ unspaced (Token.allSpread tokens) := by
  induction tokens generalizing layout with
  | nil => exact (List.append_nil _).symm
  | cons token rest ih =>
      have below : .blockBreak ∉ rest := mt (List.mem_cons_of_mem _) flat
      have step : unspaced (layout.write token).written =
          unspaced layout.written ++ unspaced token.spread := by
        cases token with
        | blockBreak => exact absurd List.mem_cons_self flat
        | inlineBreak => exact (List.append_nil _).symm
        | text t =>
            by_cases nothing : t = []
            · rw [nothing]
              exact (List.append_nil _).symm
            · have gap : unspaced (layout.space t) = [] := by
                rw [space]
                split <;> rfl
              rw [write_unblocked unblocked nothing, unspaced_append, unspaced_append, gap,
                List.append_nil]
              rfl
      have inline : token ≠ .blockBreak := by
        rintro rfl
        exact flat List.mem_cons_self
      rw [List.foldl_cons, ih (pendingBlock_write unblocked inline) below, step, List.append_assoc,
        Token.allSpread_cons, unspaced_append]

/-- Whether a blank line stands in what has been written or waits behind it. -/
def Parts (layout : Layout) (inner : Text) : Prop :=
  layout.pendingBlock = true ∨ hasBlankLine inner = true

private theorem write_opened (firm : Firm opening) {inner : Text}
    (written : layout.written = opening ++ inner) (token : Token) :
    ∃ inner', (layout.write token).written = opening ++ inner' ∧
      (layout.Parts inner ∨ token = .blockBreak → (layout.write token).Parts inner') := by
  cases token with
  | blockBreak => exact ⟨inner, written, fun _ => .inl rfl⟩
  | inlineBreak => exact ⟨inner, written, fun parts => parts.resolve_right nofun⟩
  | text t =>
      have parts : ∀ {next : Layout} {inner' : Text}, (layout.Parts inner → next.Parts inner') →
          layout.Parts inner ∨ Token.text t = .blockBreak → next.Parts inner' :=
        fun onward before => onward (before.resolve_right nofun)
      cases blocked : layout.pendingBlock with
      | false =>
          by_cases nothing : t = []
          · rw [nothing]
            exact ⟨inner, written, fun before => before.resolve_right nofun⟩
          · rw [write_unblocked blocked nothing, written]
            refine ⟨inner ++ layout.space t ++ t, by simp, parts fun before => .inr ?_⟩
            have standing := before.resolve_left (by simp [blocked])
            exact hasBlankLine_append_of_left (hasBlankLine_append_of_left standing _) _
      | true =>
          by_cases nothing : t.dropWhile isLineBreak = []
          · rw [write_lineBreaks blocked nothing]
            exact ⟨inner, written, parts id⟩
          · have kept : opening ++ dropEndWhile isSpacing inner ≠ [] :=
              List.append_ne_nil_of_left_ne_nil firm.ne_nil _
            rw [write_blocked blocked nothing, written, firm.dropEnd_append,
              if_neg (mt List.isEmpty_iff.mp kept)]
            refine ⟨dropEndWhile isSpacing inner ++ '\n' :: '\n' :: t.dropWhile isLineBreak,
              by simp,
              fun _ => .inr ?_⟩
            exact hasBlankLine_lineFeeds _ _

private theorem foldl_write_opened (firm : Firm opening) {inner : Text}
    (written : layout.written = opening ++ inner) (tokens : List Token) :
    ∃ inner', (tokens.foldl write layout).written = opening ++ inner' ∧
      (layout.Parts inner ∨ .blockBreak ∈ tokens → (tokens.foldl write layout).Parts inner') := by
  induction tokens generalizing layout inner with
  | nil => exact ⟨inner, written, fun parts => parts.resolve_right List.not_mem_nil⟩
  | cons token rest ih =>
      obtain ⟨inner', written', onward⟩ := write_opened firm written token
      obtain ⟨inner'', written'', onward'⟩ := ih written'
      refine ⟨inner'', written'', fun parts => onward' ?_⟩
      rw [List.mem_cons, ← or_assoc] at parts
      exact parts.imp_left fun here => onward (here.imp_right Eq.symm)

/-- A closing mark ends what has been written behind the opening one. -/
theorem write_closing (firm : Firm opening) (firm' : Firm closing) {inner : Text}
    (written : layout.written = opening ++ inner) :
    ∃ between, layout.write (.text closing) = ⟨opening ++ between ++ closing, false, false⟩ ∧
      (layout.pendingBlock = false → unspaced between = unspaced inner) ∧
      (layout.Parts inner → hasBlankLine between = true) := by
  cases blocked : layout.pendingBlock with
  | false =>
      have gap : unspaced (layout.space closing) = [] := by
        rw [space]
        split <;> rfl
      refine ⟨inner ++ layout.space closing, ?_, fun _ => ?_, fun parts => ?_⟩
      · rw [write_unblocked blocked firm'.ne_nil, written]
        simp
      · rw [unspaced_append, gap, List.append_nil]
      · exact hasBlankLine_append_of_left (parts.resolve_left (by simp [blocked])) _
  | true =>
      have opened : closing.dropWhile isLineBreak = closing := firm'.dropLineBreaks
      have kept : opening ++ dropEndWhile isSpacing inner ≠ [] :=
        List.append_ne_nil_of_left_ne_nil firm.ne_nil _
      refine ⟨dropEndWhile isSpacing inner ++ ['\n', '\n'], ?_, fun idle => absurd idle (by simp),
        fun _ => ?_⟩
      · rw [write_blocked blocked (opened.symm ▸ firm'.ne_nil), opened, written,
          firm.dropEnd_append,
          if_neg (mt List.isEmpty_iff.mp kept)]
        simp
      · exact hasBlankLine_lineFeeds _ _

end Layout

namespace Fragment

/-- The fragment is laid out as a text between two marks, wherever it stands. -/
def Encloses (f : Fragment) (opening between closing : Text) : Prop :=
  ∀ before after : Fragment, ∃ front back,
    (before ++ f ++ after).finalText = front ++ opening ++ between ++ closing ++ back ∧
      Text.ink front = before.ink ∧ Text.ink back = after.ink

/-- Fragments without ink may stand around what is enclosed. -/
theorem Encloses.around {f : Fragment} {opening between closing : Text}
    (encloses : f.Encloses opening between closing) {before after : Fragment}
    (nothing : before.ink = []) (nothing' : after.ink = []) :
    (before ++ f ++ after).Encloses opening between closing := by
  intro outer outer'
  have same : (outer ++ (before ++ f ++ after) ++ outer').finalText =
      ((outer ++ before) ++ f ++ (after ++ outer')).finalText := by
    simp only [finalText, tokens_append, Layout.foldl_write_join]
  obtain ⟨front, back, whole, inkFront, inkBack⟩ := encloses (outer ++ before) (after ++ outer')
  refine ⟨front, back, same.trans whole, ?_, ?_⟩
  · rw [inkFront, ink_append, nothing, List.append_nil]
  · rw [inkBack, ink_append, nothing', List.nil_append]

/-- A text that is not empty is one token. -/
theorem tokens_ofText {t : Text} (filled : t ≠ []) : (ofText t).tokens = [.text t] := by
  rw [ofText, if_neg (mt List.isEmpty_iff.mp filled)]

/-- Between two marks a fragment is laid out the same wherever it stands: as the text that it is
read as, apart from spaces, and where it holds a block separator, with a blank line. -/
theorem encloses {opening closing : Text} (firm : Firm opening) (firm' : Firm closing)
    (f : Fragment) :
    ∃ between, (ofText opening ++ f ++ ofText closing).Encloses opening between closing ∧
      (.blockBreak ∉ f.tokens → unspaced between = unspaced f.spread) ∧
      (.blockBreak ∈ f.tokens → hasBlankLine between = true) := by
  let opened : Layout := ⟨opening, false, false⟩
  have begun : opened.written = opening ++ [] := (List.append_nil opening).symm
  obtain ⟨inner, written, parts⟩ := Layout.foldl_write_opened firm begun f.tokens
  obtain ⟨between, closed, kept, parted⟩ := Layout.write_closing firm firm' written
  refine ⟨between, fun before after => ?_, fun flat => ?_,
    fun member => parted (parts (.inr member))⟩
  · obtain ⟨front, placed⟩ := Layout.write_firm firm (before.tokens.foldl Layout.write .start)
    have core := firm.between firm' between
    let enclosed : Layout := ⟨opening ++ between ++ closing, false, false⟩
    have whole : enclosed.written = opening ++ between ++ closing ++ [] := (List.append_nil _).symm
    obtain ⟨back, ending, -⟩ := Layout.foldl_write_opened core whole after.tokens
    have shown : Text.ink (f.tokens.foldl Layout.write opened).written ≠ [] := by
      rw [Layout.ink_foldl_write]
      exact List.append_ne_nil_of_left_ne_nil firm.ink_ne_nil _
    have laid : (before ++ (ofText opening ++ f ++ ofText closing) ++ after).finalText =
        Text.trim (front ++ (opening ++ between ++ closing) ++ back) := by
      simp only [finalText, tokens_append, Layout.foldl_write_join, tokens_ofText firm.ne_nil,
        tokens_ofText firm'.ne_nil, List.foldl_cons, List.foldl_nil]
      rw [placed, Layout.foldl_write_shown firm.ink_ne_nil, Layout.write_shown shown, closed,
        Layout.foldl_write_shown core.ink_ne_nil, Layout.behind, ending, ← List.append_assoc]
    refine ⟨Text.trimStart front, Text.trimEnd back, ?_, ?_, ?_⟩
    · rw [laid, core.trim_around]
      simp only [List.append_assoc]
    · have inks := Layout.ink_write (before.tokens.foldl Layout.write .start) (.text opening)
      rw [placed, Layout.ink_foldl_write, Layout.behind, Text.ink_append] at inks
      rw [Text.ink_trimStart]
      exact List.append_cancel_right inks
    · have inks := Layout.ink_foldl_write enclosed after.tokens
      rw [ending, Text.ink_append] at inks
      rw [Text.ink_trimEnd]
      exact List.append_cancel_left inks
  · have idle : opened.pendingBlock = false := rfl
    have unblocked := Layout.pendingBlock_foldl_write idle flat
    have same := Layout.unspaced_foldl_write idle flat
    rw [written, unspaced_append] at same
    rw [kept unblocked]
    exact List.append_cancel_left same

end Fragment
end ArticleMarkdown
