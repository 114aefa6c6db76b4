import ArticleMarkdown.Proofs.Fragment.Aligned
import ArticleMarkdown.Proofs.Fragment.Enclosed

/-!
# Blocks set apart

What stands between block separators is laid out as it is alone, and a blank line keeps it from what
is laid out above it and below it (`Fragment.setsApart_blocked`). It stays like this whatever is put
around it, also in the list of nodes that its node stands in.
-/

namespace ArticleMarkdown

open Text

/-- A text that ends firmly has no spacing to lose. -/
theorem Text.EndsFirm.dropSpacing {t : Text} (ends : EndsFirm t) :
    dropEndWhile isSpacing t = t := by
  obtain ⟨before, c, rfl, solid⟩ := ends
  exact dropEndWhile_solid (fun _ => isSpace_of_isSpacing) solid before

/-- Two line feeds, with nothing between them. -/
def Text.blankLine : Text := ['\n', '\n']

private theorem Text.trimStart_above {above : Text} (ends : above = [] ∨ blankLine <:+ above) :
    trimStart above = [] ∨ blankLine <:+ trimStart above := by
  rcases ends with rfl | ⟨before, rfl⟩
  · exact .inl rfl
  · rw [trimStart, List.dropWhile_append]
    split
    · exact .inl rfl
    · exact .inr (List.suffix_append _ _)

private theorem Text.trimEnd_below (t : Text) :
    trimEnd (blankLine ++ t) = [] ∨ blankLine <+: trimEnd (blankLine ++ t) := by
  rw [trimEnd, dropEndWhile_append]
  split
  · exact .inl rfl
  · exact .inr (List.prefix_append _ _)

/-- What is stacked below something has a blank line above it. -/
theorem Text.stack_eq_append (upper : Text) {lower : Text} (filled : lower ≠ []) :
    ∃ above, stack upper lower = above ++ lower ∧ (above = [] ∨ blankLine <:+ above) := by
  by_cases nothing : upper = []
  · exact ⟨[], by rw [nothing, nil_stack]; rfl, .inl rfl⟩
  · refine ⟨upper ++ blankLine, ?_, .inr (List.suffix_append _ _)⟩
    rw [stack_of_ne_nil nothing filled, List.append_assoc]
    rfl

namespace Fragment

variable {t : Text} {f : Fragment}

/-- Wherever the fragment stands, the final text has `block` in it, with blank lines around. -/
def SetsApart (f : Fragment) (block : Text) : Prop :=
  ∀ before after : Fragment, ∃ above below,
    (before ++ f ++ after).finalText = above ++ block ++ below ∧
      (above = [] ∨ blankLine <:+ above) ∧ (below = [] ∨ blankLine <+: below)

/-- A fragment without block separators is set apart between two of them, without the spacing that
it ends in. -/
theorem setsApart_blocked (unbroken : .blockBreak ∉ f.tokens) (firm : Firm t)
    (laid : dropEndWhile isSpacing f.laid = t) : f.blocked.SetsApart t := by
  intro before after
  have opens : ∀ c ∈ f.laid.head?, isLineBreak c = false := by
    obtain ⟨c, rest, starts, solid⟩ := firm.starts
    obtain ⟨cut, -, whole⟩ := dropEndWhile_split (fun _ => isSpace_of_isSpacing) f.laid
    rw [whole, laid, starts]
    rintro d ⟨⟩
    exact isLineBreak_of_solid solid
  have adds := adds_blockBreak unbroken opens
  rw [laid, ← closed, tokens_closed] at adds
  have whole : (before ++ f.blocked ++ after).tokens = Token.join before.tokens [] ++
      .blockBreak :: (f.tokens ++ .blockBreak :: Token.join [] after.tokens) := by
    have placed := Token.join_onto_block before.tokens [] (f.tokens ++ [.blockBreak])
    have around := Token.join_block (Token.join before.tokens [] ++ .blockBreak :: f.tokens) []
      after.tokens
    rw [List.append_assoc, List.append_assoc, List.cons_append, List.cons_append] at around
    rw [tokens_append, tokens_append, tokens_blocked]
    exact (congrArg (Token.join · after.tokens) placed).trans around
  obtain ⟨upper, -, around⟩ := finalText_around whole adds firm.ne_nil
  obtain ⟨above, stacked, ends⟩ := stack_eq_append upper firm.ne_nil
  rw [stacked] at around
  rcases around with last | ⟨rest, last⟩
  · refine ⟨trimStart above, [], ?_, trimStart_above ends, .inl rfl⟩
    have kept := firm.trim_around above []
    rwa [List.append_nil, ← last] at kept
  · refine ⟨trimStart above, trimEnd (blankLine ++ rest), ?_, trimStart_above ends,
      trimEnd_below _⟩
    rw [last]
    exact firm.trim_around above (blankLine ++ rest)

/-- A firm block of text is set apart. -/
theorem setsApart_blockText (firm : Firm t) : (blockText t).SetsApart t := by
  have laid : (ofText t).laid = t := by
    rw [laid, Token.laid, tokens_ofText firm.ne_nil, List.foldl_cons, List.foldl_nil,
      Layout.write_unblocked rfl firm.ne_nil]
    rfl
  refine setsApart_blocked (blockBreak_notMem_ofText t) firm ?_
  rw [laid]
  exact firm.ends.dropSpacing

/-- Anything may stand in front of a text that is set apart. -/
theorem SetsApart.append_left (apart : f.SetsApart t) (g : Fragment) : (g ++ f).SetsApart t := by
  intro before after
  obtain ⟨above, below, laid, rest⟩ := apart (before ++ g) after
  refine ⟨above, below, ?_, rest⟩
  rw [← laid]
  simp only [finalText, tokens_append, Layout.foldl_write_join]

/-- Anything may follow a text that is set apart. -/
theorem SetsApart.append_right (apart : f.SetsApart t) (g : Fragment) : (f ++ g).SetsApart t := by
  intro before after
  obtain ⟨above, below, laid, rest⟩ := apart before (g ++ after)
  refine ⟨above, below, ?_, rest⟩
  rw [← laid]
  simp only [finalText, tokens_append, Layout.foldl_write_join]

/-- In the final text, a text that is set apart has blank lines around it, or nothing. -/
theorem SetsApart.finalText (apart : f.SetsApart t) :
    ∃ above below, f.finalText = above ++ t ++ below ∧
      (above = [] ∨ blankLine <:+ above) ∧ (below = [] ∨ blankLine <+: below) := by
  have alone : (∅ ++ f ++ ∅ : Fragment).finalText = f.finalText := by
    simp only [Fragment.finalText, tokens_append, Layout.foldl_write_join]
    rfl
  exact alone ▸ apart ∅ ∅

/-- In a whole document a blank line follows in any case. -/
theorem SetsApart.documentText (apart : f.SetsApart t) (filled : t ≠ []) :
    ∃ above below, f.documentText = above ++ t ++ below ∧
      (above = [] ∨ blankLine <:+ above) ∧ blankLine <+: below := by
  obtain ⟨above, below, laid, ends, starts⟩ := apart.finalText
  refine ⟨above, below ++ blankLine, ?_, ends, ?_⟩
  · have shown : f.finalText.isEmpty = false := by
      rw [laid, List.isEmpty_eq_false_iff]
      exact List.append_ne_nil_of_left_ne_nil (List.append_ne_nil_of_right_ne_nil _ filled) _
    have ended : f.documentText = f.finalText ++ blankLine :=
      if_neg (Bool.eq_false_iff.mp shown)
    rw [ended, laid, List.append_assoc]
  · rcases starts with rfl | starts
    · exact List.prefix_refl _
    · exact starts.trans (List.prefix_append _ _)

/-- The node's fragment stays apart among the nodes that it stands with. -/
theorem setsApart_draftNodes (s : Settings) (centered : Bool) {node : Node} {nodes : List Node}
    (member : node ∈ nodes) (apart : ∀ paths, ((draftNode s centered node).fill paths).SetsApart t)
    (paths : List Text) : ((draftNodes s centered nodes).fill paths).SetsApart t := by
  induction nodes generalizing paths with
  | nil => cases member
  | cons first rest ih =>
      rw [draftNodes]
      rcases List.mem_cons.mp member with rfl | later
      · exact (apart _).append_right _
      · exact (ih later _).append_left _

end Fragment

end ArticleMarkdown
