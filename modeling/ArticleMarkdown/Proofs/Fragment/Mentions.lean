import ArticleMarkdown.Proofs.Fragment.Spread
import ArticleMarkdown.Proofs.Text.Solid
import ArticleMarkdown.Proofs.Text.Split

/-!
# What fragments mention

A fragment mentions a solid text that stands in it without a separator in between. No pass over a
fragment breaks up what it mentions: they only move whitespace and write marks before lines.
-/

namespace ArticleMarkdown

/-- A separator that waits for the next text, as a text. -/
def Text.gap (pending : Bool) : Text :=
  if pending then [' '] else []

/-- A gap between tokens is whitespace. -/
theorem Text.isBlank_gap (pending : Bool) : Text.isBlank (Text.gap pending) = true := by
  cases pending <;> rfl

namespace Text.Solid

variable {p : Text} (solid : p.Solid)
include solid

/-- A solid text is found on one side of a space. -/
theorem infix_space_iff {s t : Text} : p <:+: s ++ ' ' :: t ↔ p <:+: s ∨ p <:+: t := by
  refine ⟨solid.infix_across rfl, fun held => ?_⟩
  rcases held with left | right
  · exact List.infix_append_of_infix_left left
  · exact List.infix_append_of_infix_right (List.infix_cons right)

/-- Whatever waits, a space before the next text stands in its place. -/
theorem infix_gap {s t : Text} (pending : Bool) (held : p <:+: s ++ (gap pending ++ ' ' :: t)) :
    p <:+: s ∨ p <:+: t := by
  cases pending with
  | false => exact solid.infix_across rfl held
  | true =>
      rcases solid.infix_across rfl held with left | right
      · exact .inl left
      · exact .inr (solid.infix_of_blank_append (w := [' ']) rfl right)

end Text.Solid

namespace Token

/-- The text of tokens that are held last first. -/
def heldSpread (held : List Token) : Text :=
  allSpread held.reverse

/-- Nothing that is held back spreads to nothing. -/
@[simp] theorem heldSpread_nil : heldSpread [] = [] := rfl

@[simp] private theorem heldSpread_cons (token : Token) (before : List Token) :
    heldSpread (token :: before) = heldSpread before ++ token.spread := by
  simp [heldSpread]

@[simp] private theorem heldSpread_writeText (t : Text) (held : List Token) :
    heldSpread (writeText t held) = heldSpread held ++ t := by
  cases held with
  | nil => simp [writeText, spread]
  | cons token before => cases token <;> simp [writeText, spread]

private theorem cutSpacing_split (held : List Token) :
    ∃ after, Text.isBlank after = true ∧
      heldSpread held = heldSpread (cutSpacing held) ++ after := by
  have spaces : ∀ c, Text.isSpacing c = true → Text.isSpace c = true :=
    fun _ => Text.isSpace_of_isSpacing
  fun_induction cutSpacing held with
  | case1 t before nothing ih =>
      obtain ⟨after, blank, split⟩ := ih
      obtain ⟨spacing, blank', cut⟩ := Text.dropEndWhile_split spaces t
      rw [nothing, List.nil_append] at cut
      refine ⟨after ++ t, by rw [Text.isBlank_append, blank, cut, blank']; rfl, ?_⟩
      rw [heldSpread_cons, spread, split, List.append_assoc]
  | case2 t before _ =>
      obtain ⟨spacing, blank, cut⟩ := Text.dropEndWhile_split spaces t
      refine ⟨spacing, blank, ?_⟩
      rw [heldSpread_cons, heldSpread_cons, spread, spread, List.append_assoc, ← cut]
  | case3 before ih =>
      obtain ⟨after, blank, split⟩ := ih
      refine ⟨after ++ [' '], by rw [Text.isBlank_append, blank]; rfl, ?_⟩
      rw [heldSpread_cons, spread, split, List.append_assoc]
  | case4 held _ _ => exact ⟨[], rfl, (List.append_nil _).symm⟩

private theorem dropInline_split (held : List Token) :
    ∃ after, Text.isBlank after = true ∧
      heldSpread held = heldSpread (held.dropWhile (· == .inlineBreak)) ++ after := by
  refine ⟨heldSpread (held.takeWhile (· == .inlineBreak)), ?_, ?_⟩
  · rw [heldSpread, isBlank_allSpread, List.all_reverse]
    exact takeWhile_blank isBlank_of_inline held
  · rw [heldSpread, heldSpread, heldSpread, ← allSpread_append, ← List.reverse_append,
      List.takeWhile_append_dropWhile]

section Solid

variable {p : Text} (solid : p.Solid)
include solid

/-- Resolving separators keeps what is mentioned. -/
theorem infix_resolveFrom {pending : Bool} {held tokens : List Token}
    (mentioned : p <:+: heldSpread held ++ (Text.gap pending ++ allSpread tokens)) :
    p <:+: allSpread (resolveFrom pending held tokens) := by
  -- What is held, the separator that waits and what is to come are one text, which keeps
  -- mentioning `p` although each step moves whitespace between its parts.
  fun_induction resolveFrom pending held tokens with
  | case1 pending held =>
      refine solid.infix_of_append_blank ?_ mentioned
      rw [Text.isBlank_append, Text.isBlank_gap]
      rfl
  | case2 pending held rest ih =>
      refine ih (solid.infix_space_iff.mpr ?_)
      obtain ⟨after, blank, split⟩ := dropInline_split held
      rw [split] at mentioned
      rcases solid.infix_gap pending mentioned with before | later
      · exact .inl (solid.infix_of_append_blank blank before)
      · exact .inr later
  | case3 pending held rest ih =>
      refine ih ?_
      cases pending with
      | false =>
          rw [if_neg Bool.false_ne_true, heldSpread_cons, List.append_assoc]
          exact mentioned
      | true =>
          rw [if_pos rfl]
          exact solid.infix_space_iff.mpr (solid.infix_gap true mentioned)
  | case4 pending held t rest nothing ih =>
      rw [List.isEmpty_iff] at nothing
      subst nothing
      exact ih mentioned
  | case5 held t rest _ kept nothing ih =>
      refine ih (solid.infix_space_iff.mpr ?_)
      obtain ⟨after, blank, split⟩ := cutSpacing_split held
      obtain ⟨breaks, blank', cut⟩ := Text.dropWhile_split (fun _ => Text.isSpace_of_isLineBreak) t
      rw [nothing, List.append_nil] at cut
      rw [split] at mentioned
      rcases solid.infix_space_iff.mp mentioned with before | later
      · exact .inl (solid.infix_of_append_blank blank before)
      · rw [allSpread_cons, spread, cut] at later
        exact .inr (solid.infix_of_blank_append blank' later)
  | case6 held t rest _ kept opened _ ih =>
      refine ih ?_
      obtain ⟨after, blank, split⟩ := cutSpacing_split held
      obtain ⟨breaks, blank', cut⟩ := Text.dropWhile_split (fun _ => Text.isSpace_of_isLineBreak) t
      have opens : heldSpread kept <:+: heldSpread opened := by
        simp only [opened]
        split
        · exact List.infix_refl _
        · rw [heldSpread_writeText]
          exact List.infix_append_left
      rw [split] at mentioned
      rw [heldSpread_writeText, List.append_assoc]
      rcases solid.infix_space_iff.mp mentioned with before | later
      · have inKept := solid.infix_of_append_blank blank before
        exact List.infix_append_of_infix_left (inKept.trans opens)
      · rw [allSpread_cons, spread, cut, List.append_assoc] at later
        exact List.infix_append_of_infix_right (solid.infix_of_blank_append blank' later)
  | case7 pending held t rest _ now ih =>
      refine ih ?_
      rw [Bool.not_eq_true] at now
      subst now
      rw [heldSpread_writeText, List.append_assoc]
      exact mentioned

end Solid
end Token

namespace Token

/-- The lines of tokens are those of their text, whatever separators are read as. -/
theorem join_lines_read {read : Token → Text} (reads : ∀ t, read (.text t) = t)
    (tokens : List Token) :
    Text.join ['\n'] (((lines tokens).1 :: (lines tokens).2).map fun line => line.flatMap read) =
      tokens.flatMap read := by
  have whole_ofText? : ∀ t, (ofText? t).flatMap read = t := by
    intro t
    cases t with
    | nil => rfl
    | cons c rest => simp [ofText?, reads]
  fun_induction lines tokens with
  | case1 => rfl
  | case2 t rest first others below nothing ih => exact absurd nothing (Text.splitBy_ne_nil _ _)
  | case3 t rest first others below piece pieces split single ih =>
      have whole := Text.join_splitOn '\n' t
      rw [split, List.reverse_eq_nil_iff.mp single] at whole
      rw [below] at ih
      have joined := Text.join_append_join ['\n'] [] piece (first.flatMap read)
        (others.map fun line => line.flatMap read)
      rw [List.map_cons] at ih ⊢
      rw [ih] at joined
      rw [List.flatMap_append, whole_ofText?, List.flatMap_cons, reads, ← whole]
      exact joined.symm
  | case4 t rest first others below piece pieces split last middle ending ih =>
      have whole := Text.join_splitOn '\n' t
      rw [split, List.reverse_eq_iff.mp ending] at whole
      rw [below] at ih
      have joined := Text.join_append_join ['\n'] (piece :: middle.reverse) last
        (first.flatMap read) (others.map fun line => line.flatMap read)
      rw [List.map_cons] at ih
      rw [ih, List.cons_append, ← List.reverse_cons] at joined
      rw [List.flatMap_cons, reads, ← whole, joined]
      simp [Function.comp_def, whole_ofText?]
  | case5 separator rest isSeparator first others below ih =>
      rw [below] at ih
      rw [List.map_cons] at ih ⊢
      rw [List.flatMap_cons, List.flatMap_cons, ← ih]
      cases others with
      | nil => rfl
      | cons next more => simp [Text.join]

/-- The lines of tokens, put together again, are the tokens. -/
theorem join_lines (tokens : List Token) :
    Text.join ['\n'] (((lines tokens).1 :: (lines tokens).2).map allSpread) = allSpread tokens :=
  join_lines_read (fun _ => rfl) tokens

end Token

/-- A text stands in a fragment without a separator in between. -/
def Fragment.Mentions (f : Fragment) (p : Text) : Prop :=
  p <:+: f.spread

namespace Fragment.Mentions

variable {f g : Fragment} {p t : Text}

/-- A joined fragment mentions what its first part mentions. -/
theorem append_left (held : f.Mentions p) (g : Fragment) : (f ++ g).Mentions p := by
  rw [Mentions, spread_append]
  exact List.infix_append_of_infix_left held

/-- A joined fragment mentions what its second part mentions. -/
theorem append_right (held : g.Mentions p) (f : Fragment) : (f ++ g).Mentions p := by
  rw [Mentions, spread_append]
  exact List.infix_append_of_infix_right held

/-- A text mentions what is found in it. -/
theorem ofText (held : p <:+: t) : (Fragment.ofText t).Mentions p := by
  rwa [Mentions, spread_ofText]

/-- A block mentions what its content mentions. -/
theorem blocked (held : f.Mentions p) : f.blocked.Mentions p :=
  (held.append_right _).append_left _

/-- Inlined content mentions what the content mentions. -/
theorem inlined (held : f.Mentions p) : f.inlined.Mentions p :=
  (held.append_right _).append_left _

/-- Flattened content mentions what the content mentions. -/
theorem flattened (held : f.Mentions p) : f.flattened.Mentions p := by
  rwa [Mentions, spread_flattened]

section Solid

variable (solid : p.Solid)
include solid

/-- A fragment that mentions something is not blank. -/
theorem not_blank (held : f.Mentions p) : f.isBlank = false := by
  refine Bool.eq_false_iff.mpr fun blank => ?_
  rw [Fragment.isBlank, ← Token.isBlank_allSpread] at blank
  exact solid.not_infix_blank blank held

/-- Trimming takes nothing solid away. -/
theorem trim (held : f.Mentions p) : f.trim.Mentions p :=
  solid.infix_of_frames f.frames_trim held

/-- Resolving takes nothing solid away. -/
theorem resolve (held : f.Mentions p) : f.resolve.Mentions p :=
  trim solid (Token.infix_resolveFrom solid held)

private theorem exists_line (held : f.Mentions p) : ∃ line ∈ f.lines, line.Mentions p := by
  rw [Mentions, spread, ← Token.join_lines] at held
  obtain ⟨text, member, inLine⟩ := solid.infix_join rfl held
  obtain ⟨line, found, rfl⟩ := List.mem_map.mp member
  exact ⟨⟨line⟩, List.mem_map.mpr ⟨line, found, rfl⟩, inLine⟩

private theorem marked (held : f.Mentions p) (mark : Text) :
    (Fragment.marked mark f).Mentions p := by
  rw [Fragment.marked]
  split
  · exact held
  · refine append_right ?_ _
    have whole : f.spread = Token.allSpread (f.tokens.takeWhile (· == .inlineBreak)) ++
        Token.allSpread (f.tokens.dropWhile (· == .inlineBreak)) := by
      rw [← Token.allSpread_append, List.takeWhile_append_dropWhile]
      rfl
    have blank := Token.takeWhile_blank Token.isBlank_of_inline f.tokens
    rw [← Token.isBlank_allSpread] at blank
    rw [Mentions, whole] at held
    exact solid.infix_of_blank_append blank held

private theorem markFollowing {lines : List Fragment} (held : ∃ line ∈ lines, line.Mentions p)
    (mark : Nat → Text → Text) (index : Nat) :
    (Fragment.markFollowing mark index lines).Mentions p := by
  induction lines generalizing index with
  | nil =>
      obtain ⟨line, member, -⟩ := held
      cases member
  | cons first rest ih =>
      obtain ⟨line, member, inLine⟩ := held
      rw [Fragment.markFollowing]
      rcases List.mem_cons.mp member with rfl | later
      · exact ((marked solid inLine _).append_right _).append_left _
      · exact append_right (ih ⟨line, later, inLine⟩ (index + 1)) _

/-- Marks stand before lines and break up none. -/
theorem markLines (held : f.Mentions p) (mark : Nat → Text → Text) :
    (f.markLines mark).Mentions p := by
  obtain ⟨line, member, inLine⟩ := exists_line solid held
  rw [Fragment.markLines]
  split
  · next none =>
    rw [none] at member
    cases member
  · next first rest found =>
    rw [found] at member
    rcases List.mem_cons.mp member with rfl | later
    · exact (marked solid inLine _).append_left _
    · exact (markFollowing solid ⟨line, later, inLine⟩ mark 1).append_right _

end Solid
end Fragment.Mentions

namespace Layout

/-- The separator that waits for the next text. -/
def gap (layout : Layout) : Text :=
  Text.gap (layout.pendingBlock || layout.pendingInline)

variable {p : Text} (solid : p.Solid)
include solid

/-- Text after a block separator. -/
theorem infix_write_blocked {layout : Layout} (waits : layout.pendingBlock = true) {t rest : Text}
    (filled : t.isEmpty = false) (mentioned : p <:+: layout.written ∨ p <:+: t ++ rest) :
    p <:+: (layout.write (.text t)).written ++ ((layout.write (.text t)).gap ++ rest) := by
  have spaces : ∀ c, Text.isSpacing c = true → Text.isSpace c = true :=
    fun _ => Text.isSpace_of_isSpacing
  obtain ⟨breaks, blank, cut⟩ := Text.dropWhile_split (fun _ => Text.isSpace_of_isLineBreak) t
  obtain ⟨spacing, blank', cut'⟩ := Text.dropEndWhile_split spaces layout.written
  simp only [write, filled, waits, Bool.false_eq_true, if_false, if_true]
  split
  · next nothing =>
    rw [nothing, List.append_nil] at cut
    rw [gap, waits]
    refine solid.infix_space_iff.mpr (mentioned.imp_right fun later => ?_)
    rw [cut] at later
    exact solid.infix_of_blank_append blank later
  · rcases mentioned with before | later
    · rw [cut'] at before
      have inKept := solid.infix_of_append_blank blank' before
      refine List.infix_append_of_infix_left ?_
      split
      · next nothing =>
        rw [List.isEmpty_iff.mp nothing] at inKept
        exact absurd (List.infix_nil.mp inKept) solid.filled
      · exact List.infix_append_of_infix_left inKept
    · rw [cut, List.append_assoc] at later
      have inBody := solid.infix_of_blank_append blank later
      split
      · exact inBody
      · rw [List.append_assoc]
        exact List.infix_append_of_infix_right (List.infix_cons (List.infix_cons inBody))

private theorem infix_write {layout : Layout} {token : Token} {rest : Text}
    (mentioned : p <:+: layout.written ++ (layout.gap ++ (token.spread ++ rest))) :
    p <:+: (layout.write token).written ++ ((layout.write token).gap ++ rest) := by
  cases token with
  | blockBreak => exact solid.infix_space_iff.mpr (solid.infix_gap _ mentioned)
  | inlineBreak =>
      have waits : (layout.write .inlineBreak).gap = [' '] := by
        obtain ⟨written, pendingBlock, pendingInline⟩ := layout
        cases pendingBlock <;> cases pendingInline <;> rfl
      rw [waits]
      exact solid.infix_space_iff.mpr (solid.infix_gap _ mentioned)
  | text t =>
      obtain ⟨written, pendingBlock, pendingInline⟩ := layout
      rw [Token.spread] at mentioned
      cases filled : t.isEmpty with
      | true =>
          rw [List.isEmpty_iff.mp filled] at mentioned ⊢
          exact mentioned
      | false =>
          cases pendingBlock with
          | true => exact infix_write_blocked solid rfl filled (solid.infix_space_iff.mp mentioned)
          | false =>
              simp only [write, filled, Bool.false_eq_true, if_false, gap, Text.gap, Bool.or_self,
                List.nil_append, List.append_assoc]
              cases pendingInline with
              | false => exact mentioned
              | true =>
                  rcases solid.infix_space_iff.mp mentioned with before | later
                  · exact List.infix_append_of_infix_left before
                  · exact List.infix_append_of_infix_right (List.infix_append_of_infix_right later)

private theorem infix_foldl_write {layout : Layout} {tokens : List Token}
    (mentioned : p <:+: layout.written ++ (layout.gap ++ Token.allSpread tokens)) :
    p <:+: (tokens.foldl write layout).written := by
  induction tokens generalizing layout with
  | nil =>
      refine solid.infix_of_append_blank ?_ mentioned
      rw [Text.isBlank_append, gap, Text.isBlank_gap]
      rfl
  | cons token rest ih => exact ih (infix_write solid mentioned)

end Layout

/-- What a fragment mentions is found in its final text. -/
theorem Fragment.Mentions.finalText {f : Fragment} {p : Text} (solid : p.Solid)
    (held : f.Mentions p) : p <:+: f.finalText :=
  solid.infix_of_frames (Text.frames_trim _) (Layout.infix_foldl_write solid held)

end ArticleMarkdown
