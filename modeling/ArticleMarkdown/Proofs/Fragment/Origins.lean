import ArticleMarkdown.Proofs.Fragment.Mentions
import ArticleMarkdown.Proofs.Fragment.Resolution
import ArticleMarkdown.Proofs.Text.Foreign

/-!
# Where what fragments mention comes from

Passes over a fragment make it mention nothing that it did not mention before: a separator keeps
apart what stands on both sides of it, unless whitespace or closing punctuation stands there
already, and the marks of lines start no occurrence.
-/

namespace ArticleMarkdown

/-- A solid text without closing punctuation. -/
structure Text.Unclosed (p : Text) : Prop extends Text.Solid p where
  unpunctuated : ∀ c ∈ p, isClosingPunctuation c = false

namespace Text

variable {p s t : Text}

/-- Where no space is needed, no occurrence spans the place where two texts meet. -/
theorem Unclosed.infix_seam (unclosed : p.Unclosed) (close : needsSpace s t = false)
    (filled : t ≠ []) {rest : Text} (held : p <:+: s ++ (t ++ rest)) :
    p <:+: s ∨ p <:+: t ++ rest := by
  obtain ⟨first, more, rfl⟩ := List.exists_cons_of_ne_nil filled
  rcases List.eq_nil_or_concat' s with rfl | ⟨before, last, rfl⟩
  · exact .inr held
  simp only [needsSpace, List.getLast?_append, List.getLast?_singleton, Option.some_or,
    List.head?_cons, Bool.and_eq_false_iff, Bool.not_eq_false'] at close
  have foreign : last ∉ p ∨ first ∉ p := by
    rcases close with (space | space) | closing
    · exact .inl (unclosed.toSolid.foreign space)
    · exact .inr (unclosed.toSolid.foreign space)
    · refine .inr fun member => ?_
      rw [unclosed.unpunctuated first member] at closing
      cases closing
  rcases foreign with foreign | foreign
  · rw [List.append_assoc] at held
    rcases infix_across_foreign foreign held with left | right
    · exact .inl (List.infix_append_of_infix_left left)
    · exact .inr right
  · rcases infix_across_foreign foreign held with left | right
    · exact .inl left
    · exact .inr (List.infix_cons right)

end Text

namespace Layout

variable {p : Text} (unclosed : p.Unclosed)
include unclosed

/-- Text after a block separator. -/
theorem infix_of_write_blocked {layout : Layout} (blocked : layout.pendingBlock = true)
    {t rest : Text} (mentioned : p <:+:
      (layout.write (.text t)).written ++ ((layout.write (.text t)).gap ++ rest)) :
    p <:+: layout.written ∨ p <:+: t ++ rest := by
  obtain ⟨breaks, -, cut⟩ := Text.dropWhile_split (fun _ => Text.isSpace_of_isLineBreak) t
  by_cases nothing : t.dropWhile Text.isLineBreak = []
  · rw [write_lineBreaks blocked nothing, gap, blocked] at mentioned
    rcases unclosed.infix_space_iff.mp mentioned with before | later
    · exact .inl before
    · exact .inr (List.infix_append_of_infix_right later)
  · have inBody : p <:+: t.dropWhile Text.isLineBreak ++ rest → p <:+: t ++ rest := by
      intro held
      rw [cut, List.append_assoc]
      exact List.infix_append_of_infix_right held
    rw [write_blocked blocked nothing] at mentioned
    simp only [gap, Bool.or_self, Text.gap, Bool.false_eq_true, if_false, List.nil_append]
      at mentioned
    split at mentioned
    · exact .inr (inBody mentioned)
    · obtain ⟨spacing, -, kept⟩ :=
        Text.dropEndWhile_split (fun _ => Text.isSpace_of_isSpacing) layout.written
      rw [List.append_assoc] at mentioned
      rcases unclosed.infix_across rfl mentioned with before | later
      · left
        rw [kept]
        exact List.infix_append_of_infix_left before
      · rcases unclosed.infix_across (s := []) rfl later with none | body
        · exact absurd (List.infix_nil.mp none) unclosed.filled
        · exact .inr (inBody body)

private theorem infix_of_write {layout : Layout} {token : Token} {rest : Text}
    (mentioned : p <:+: (layout.write token).written ++ ((layout.write token).gap ++ rest)) :
    p <:+: layout.written ++ (layout.gap ++ (token.spread ++ rest)) := by
  have apart : p <:+: layout.written ∨ p <:+: rest →
      p <:+: layout.written ++ (layout.gap ++ (token.spread ++ rest)) := by
    rintro (before | later)
    · exact List.infix_append_of_infix_left before
    · iterate 3 refine List.infix_append_of_infix_right ?_
      exact later
  cases token with
  | blockBreak => exact apart (unclosed.infix_space_iff.mp mentioned)
  | inlineBreak =>
      have waits : (layout.write .inlineBreak).gap = [' '] := by
        obtain ⟨written, pendingBlock, pendingInline⟩ := layout
        cases pendingBlock <;> cases pendingInline <;> rfl
      rw [waits] at mentioned
      exact apart (unclosed.infix_space_iff.mp mentioned)
  | text t =>
      by_cases nothing : t = []
      · subst nothing
        exact mentioned
      cases blocked : layout.pendingBlock with
      | true =>
          have parts := infix_of_write_blocked unclosed blocked mentioned
          rw [gap, blocked]
          exact unclosed.infix_space_iff.mpr parts
      | false =>
          rw [write_unblocked blocked nothing] at mentioned
          simp only [gap, Bool.or_self, Text.gap, Bool.false_eq_true, if_false, List.nil_append,
            List.append_assoc] at mentioned
          rw [gap, blocked, Bool.false_or, Text.gap, Token.spread]
          rw [space] at mentioned
          cases waits : layout.pendingInline with
          | false =>
              rw [waits] at mentioned
              exact mentioned
          | true =>
              rw [waits, Bool.true_and] at mentioned
              cases needs : Text.needsSpace layout.written t with
              | true =>
                  rw [needs] at mentioned
                  exact mentioned
              | false =>
                  rw [needs] at mentioned
                  exact unclosed.infix_space_iff.mpr (unclosed.infix_seam needs nothing mentioned)

private theorem infix_of_foldl_write {layout : Layout} {tokens : List Token}
    (mentioned : p <:+: (tokens.foldl write layout).written) :
    p <:+: layout.written ++ (layout.gap ++ Token.allSpread tokens) := by
  induction tokens generalizing layout with
  | nil => exact List.infix_append_of_infix_left mentioned
  | cons token rest ih => exact infix_of_write unclosed (ih mentioned)

end Layout

namespace Fragment.Mentions

variable {f : Fragment} {p : Text}

/-- What a trimmed fragment mentions the fragment mentions. -/
theorem of_trim (held : f.trim.Mentions p) : f.Mentions p := by
  obtain ⟨before, after, -, -, whole⟩ := f.frames_trim
  rw [Mentions, whole]
  exact held.trans (List.infix_append _ _ _)

/-- What is found in the final text the fragment mentions, unless punctuation closes it off. -/
theorem of_finalText (unclosed : p.Unclosed) (held : p <:+: f.finalText) : f.Mentions p := by
  obtain ⟨before, after, -, -, whole⟩ :=
    Text.frames_trim (f.tokens.foldl Layout.write .start).written
  have written : p <:+: (f.tokens.foldl Layout.write .start).written := by
    rw [whole]
    exact held.trans (List.infix_append _ _ _)
  exact Layout.infix_of_foldl_write unclosed written

/-- Resolving keeps the final text, which mentions nothing else than the fragment does. -/
theorem of_resolve (unclosed : p.Unclosed) (held : f.resolve.Mentions p) : f.Mentions p := by
  have final := held.finalText unclosed.toSolid
  rw [finalText_resolve] at final
  exact of_finalText unclosed final

section Marks

variable {mark : Nat → Text → Text} (solid : p.Solid)
  (quiet : ∀ index t, ∀ c ∈ p.head?, c ∉ mark index t)

private theorem of_marked {mark : Text} (solid : p.Solid) (quiet : ∀ c ∈ p.head?, c ∉ mark)
    (held : (Fragment.marked mark f).Mentions p) : f.Mentions p := by
  rw [Fragment.marked] at held
  split at held
  · exact held
  · obtain ⟨first, rest, rfl⟩ := List.exists_cons_of_ne_nil solid.filled
    rw [Mentions, spread_append, spread_ofText] at held
    have dropped := Text.infix_of_append_of_head? rfl (quiet first rfl) held
    rw [Mentions, spread, ← List.takeWhile_append_dropWhile (p := (· == .inlineBreak))
      (l := f.tokens), Token.allSpread_append]
    exact List.infix_append_of_infix_right dropped

include solid quiet

private theorem of_markFollowing {index : Nat} {lines : List Fragment} {before : Text}
    (held : p <:+: before ++ (Fragment.markFollowing mark index lines).spread) :
    p <:+: before ∨ ∃ line ∈ lines, line.Mentions p := by
  induction lines generalizing index before with
  | nil =>
      rw [Fragment.markFollowing, spread_empty, List.append_nil] at held
      exact .inl held
  | cons line rest ih =>
      rw [Fragment.markFollowing, spread_append, spread_append, spread_ofText,
        List.append_assoc] at held
      rcases solid.infix_across rfl held with earlier | later
      · exact .inl earlier
      · rcases ih later with here | ⟨other, member, there⟩
        · exact .inr ⟨line, List.mem_cons_self, of_marked solid (quiet _ _) here⟩
        · exact .inr ⟨other, List.mem_cons_of_mem _ member, there⟩

/-- Marks that start no occurrence make none. -/
theorem of_markLines (held : (f.markLines mark).Mentions p) : f.Mentions p := by
  have inLine : ∃ line ∈ f.lines, line.Mentions p := by
    rw [Fragment.markLines] at held
    split at held
    · exact absurd (List.infix_nil.mp held) solid.filled
    · next first rest found =>
      rw [found]
      rw [Mentions, spread_append] at held
      rcases of_markFollowing solid quiet held with here | ⟨other, member, there⟩
      · exact ⟨first, List.mem_cons_self, of_marked solid (quiet _ _) here⟩
      · exact ⟨other, List.mem_cons_of_mem _ member, there⟩
  obtain ⟨line, member, inLine⟩ := inLine
  rw [Mentions, spread, ← Token.join_lines]
  refine List.IsInfix.trans inLine (Text.infix_join ?_ _)
  obtain ⟨tokens, found, rfl⟩ := List.mem_map.mp member
  exact List.mem_map_of_mem found

end Marks
end Fragment.Mentions
end ArticleMarkdown
