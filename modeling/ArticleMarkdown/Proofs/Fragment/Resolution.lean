import ArticleMarkdown.Proofs.Fragment.Settled
import ArticleMarkdown.Proofs.Fragment.Spread

/-!
# Resolving agrees with the final layout

Resolving applies the rule of the final layout to tokens instead of text. Both run side by side
over the same fragment: the tokens that resolving holds would be laid out as the text that the
layout has written, up to spacing that a waiting block separator is about to absorb
(`Layout.Follows`). So resolving a fragment first does not change its final text.
-/

namespace ArticleMarkdown

namespace Text

private theorem needsSpace_append {s : Text} (filled : s ≠ []) (before t : Text) :
    needsSpace before (s ++ t) = needsSpace before s := by
  cases s with
  | nil => exact absurd rfl filled
  | cons c rest => rfl

/-- Nothing is put between two texts when the second starts with whitespace. -/
theorem needsSpace_of_blank {t : Text} (blank : isBlank t = true) (before : Text) :
    needsSpace before t = false := by
  cases t with
  | nil => cases h : before.getLast? <;> simp [needsSpace, h]
  | cons c rest =>
      have space := isBlank_iff.mp blank c List.mem_cons_self
      cases h : before.getLast? <;> simp [needsSpace, h, space]

/-- Only what stands directly in front of a text tells whether a space is needed. -/
theorem needsSpace_behind {s : Text} (filled : s ≠ []) (before t : Text) :
    needsSpace (before ++ s) t = needsSpace s t := by
  rw [needsSpace, List.getLast?_append_of_ne_nil before filled]
  rfl

/-- No space is needed behind blank text. -/
theorem needsSpace_behind_blank {s : Text} (blank : isBlank s = true) (t : Text) :
    needsSpace s t = false := by
  cases last : s.getLast? with
  | none => simp [needsSpace, last]
  | some c =>
      have space := isBlank_iff.mp blank c (List.mem_of_getLast? last)
      cases first : t.head? <;> simp [needsSpace, last, first, space]

/-- Spacing at the end is trimmed off anyway. -/
theorem trim_dropSpacing (t : Text) : trim (dropEndWhile isSpacing t) = trim t := by
  obtain ⟨after, blank, split⟩ := dropEndWhile_split (fun _ => isSpace_of_isSpacing) t
  conv_rhs => rw [split, trim_append_blank blank]

end Text

namespace Layout

variable {layout : Layout} {token : Token} {tokens held : List Token} {s t : Text}

/-- An empty text writes nothing. -/
theorem write_nil (layout : Layout) : layout.write (.text []) = layout := rfl

/-- The space that an inline separator becomes before a text. -/
def space (layout : Layout) (t : Text) : Text :=
  if layout.pendingInline && Text.needsSpace layout.written t then [' '] else []

/-- A text where no block separator waits. -/
theorem write_unblocked (unblocked : layout.pendingBlock = false) (filled : t ≠ []) :
    layout.write (.text t) = ⟨layout.written ++ layout.space t ++ t, false, false⟩ := by
  simp only [write, List.isEmpty_eq_false_iff.mpr filled, unblocked, Bool.false_eq_true, if_false,
    space]

/-- A text of line breaks behind a block separator writes nothing. -/
theorem write_lineBreaks (blocked : layout.pendingBlock = true)
    (nothing : t.dropWhile Text.isLineBreak = []) : layout.write (.text t) = layout := by
  simp only [write, blocked, if_true, nothing, ite_self]

/-- A text behind a block separator starts below a blank line. -/
theorem write_blocked (blocked : layout.pendingBlock = true)
    (something : t.dropWhile Text.isLineBreak ≠ []) :
    layout.write (.text t) =
      ⟨if (Text.dropEndWhile Text.isSpacing layout.written).isEmpty then
          t.dropWhile Text.isLineBreak
        else Text.dropEndWhile Text.isSpacing layout.written ++
          '\n' :: '\n' :: t.dropWhile Text.isLineBreak, false, false⟩ := by
  have filled : t.isEmpty = false := by
    rw [List.isEmpty_eq_false_iff]
    rintro rfl
    exact something rfl
  simp only [write, blocked, filled, Bool.false_eq_true, if_false, if_true]

/-- Without a block separator none waits. -/
theorem pendingBlock_write (unblocked : layout.pendingBlock = false)
    (inline : token ≠ .blockBreak) : (layout.write token).pendingBlock = false := by
  cases token with
  | blockBreak => exact absurd rfl inline
  | inlineBreak => exact unblocked
  | text t =>
      by_cases filled : t = []
      · rw [filled, write_nil]
        exact unblocked
      · rw [write_unblocked unblocked filled]

/-- No separator waits behind a text. -/
theorem pendingBlock_write_text (unblocked : layout.pendingBlock = false) (t : Text) :
    (layout.write (.text t)).pendingBlock = false :=
  pendingBlock_write unblocked nofun

/-- Where no block separator waits, a text may be written in two parts. -/
theorem write_append (unblocked : layout.pendingBlock = false) (s t : Text) :
    layout.write (.text (s ++ t)) = (layout.write (.text s)).write (.text t) := by
  by_cases nothing : s = []
  · rw [nothing, List.nil_append, write_nil]
  · by_cases nothing' : t = []
    · rw [nothing', List.append_nil, write_nil]
    · have whole : s ++ t ≠ [] := List.append_ne_nil_of_left_ne_nil nothing t
      rw [write_unblocked unblocked whole, write_unblocked unblocked nothing,
        write_unblocked rfl nothing']
      simp only [space, Text.needsSpace_append nothing, Bool.false_and, Bool.false_eq_true,
        if_false, List.append_nil, List.append_assoc]

/-- The layout of tokens that are held last first. -/
def ofHeld : List Token → Layout
  | [] => start
  | token :: before => (ofHeld before).write token

private theorem foldl_write_reverse (held : List Token) :
    held.reverse.foldl write start = ofHeld held := by
  induction held with
  | nil => rfl
  | cons token before ih => rw [List.reverse_cons, List.foldl_append, ih]; rfl

private theorem pendingBlock_ofHeld (settled : Token.Settled held) :
    (ofHeld held).pendingBlock = false := by
  induction held with
  | nil => rfl
  | cons token before ih =>
      refine pendingBlock_write (ih settled.tail) ?_
      rintro rfl
      exact settled.unbroken List.mem_cons_self

private theorem ofHeld_writeText (settled : Token.Settled held) (t : Text) :
    ofHeld (Token.writeText t held) = (ofHeld held).write (.text t) := by
  cases held with
  | nil => rfl
  | cons token before =>
      cases token with
      | blockBreak => rfl
      | inlineBreak => rfl
      | text s => exact write_append (pendingBlock_ofHeld settled.tail) s t

private theorem written_dropInline (held : List Token) :
    (ofHeld (held.dropWhile (· == .inlineBreak))).written = (ofHeld held).written := by
  induction held with
  | nil => rfl
  | cons token before ih =>
      rw [List.dropWhile_cons]
      split
      · next inline =>
        rw [beq_iff_eq.mp inline, ih]
        rfl
      · rfl

/-- Cutting tokens back before a block separator is what the layout does to the text. -/
theorem ofHeld_cutSpacing (settled : Token.Settled held) :
    ofHeld (Token.cutSpacing held) =
      ⟨Text.dropEndWhile Text.isSpacing (ofHeld held).written, false, false⟩ := by
  fun_induction Token.cutSpacing held with
  | case1 t before nothing ih =>
      have blank : Text.isBlank t = true := by
        rw [← Text.ink_eq_nil, ← Text.ink_dropSpacing, nothing, Text.ink_nil]
      rw [ih settled.tail, ofHeld,
        write_unblocked (pendingBlock_ofHeld settled.tail) settled.text_filled,
        Text.dropEndWhile_append_of_nil nothing, space, Text.needsSpace_of_blank blank,
        Bool.and_false, if_neg Bool.false_ne_true, List.append_nil]
  | case2 t before something =>
      have unblocked := pendingBlock_ofHeld settled.tail
      obtain ⟨after, -, split⟩ := Text.dropEndWhile_split (fun _ => Text.isSpace_of_isSpacing) t
      have same : (ofHeld before).space t =
          (ofHeld before).space (Text.dropEndWhile Text.isSpacing t) := by
        rw [space, space, ← Text.needsSpace_append something _ after, ← split]
      rw [ofHeld, ofHeld, write_unblocked unblocked something,
        write_unblocked unblocked settled.text_filled,
        Text.dropEndWhile_append_of_ne_nil something, same]
  | case3 before ih => exact ih settled.tail
  | case4 held noText noInline =>
      cases held with
      | nil => rfl
      | cons token before =>
          cases token with
          | blockBreak => exact absurd List.mem_cons_self settled.unbroken
          | inlineBreak => exact absurd rfl (noInline before)
          | text t => exact absurd rfl (noText t before)

/-- Tokens that have been cut back are gone, or end with a text. -/
theorem cutSpacing_cases (settled : Token.Settled held) :
    Token.cutSpacing held = [] ∨ ∃ t before, Token.cutSpacing held = .text t :: before := by
  fun_induction Token.cutSpacing held with
  | case1 t before nothing ih => exact ih settled.tail
  | case2 t before something => exact .inr ⟨_, _, rfl⟩
  | case3 before ih => exact ih settled.tail
  | case4 held noText noInline =>
      cases held with
      | nil => exact .inl rfl
      | cons token before =>
          cases token with
          | blockBreak => exact absurd List.mem_cons_self settled.unbroken
          | inlineBreak => exact absurd rfl (noInline before)
          | text t => exact absurd rfl (noText t before)

private theorem isEmpty_cutSpacing (settled : Token.Settled held) :
    (Token.cutSpacing held).isEmpty =
      (Text.dropEndWhile Text.isSpacing (ofHeld held).written).isEmpty := by
  have laid := congrArg Layout.written (ofHeld_cutSpacing settled)
  have cut := Token.settled_cutSpacing settled
  simp only at laid
  rw [← laid]
  rcases cutSpacing_cases settled with gone | ⟨t, before, kept⟩
  · rw [gone]
    rfl
  · rw [kept] at cut ⊢
    have shown : (ofHeld before).written ++ (ofHeld before).space t ++ t ≠ [] :=
      List.append_ne_nil_of_right_ne_nil _ cut.text_filled
    rw [ofHeld, write_unblocked (pendingBlock_ofHeld cut.tail) cut.text_filled, List.isEmpty_cons,
      List.isEmpty_eq_false_iff.mpr shown]

/-- A layout and the tokens that resolving holds, of the same fragment up to the same place. While
a block separator waits, they may differ in spacing at the end. -/
inductive Follows (layout : Layout) (held : List Token) : (pending : Bool) → Prop
  | writing (same : layout = ofHeld held) : Follows layout held false
  | waiting (blocked : layout.pendingBlock = true) (uninlined : layout.pendingInline = false)
      (same : Text.dropEndWhile Text.isSpacing layout.written =
        Text.dropEndWhile Text.isSpacing (ofHeld held).written) : Follows layout held true

private theorem Follows.dropSpacing {pending : Bool} (follows : layout.Follows held pending) :
    Text.dropEndWhile Text.isSpacing layout.written =
      Text.dropEndWhile Text.isSpacing (ofHeld held).written := by
  cases follows with
  | writing same => rw [same]
  | waiting _ _ same => exact same

/-- Laying out what resolving makes of tokens ends as laying out the tokens does, up to spacing. -/
theorem Follows.resolveFrom {pending : Bool} (follows : layout.Follows held pending)
    (settled : Token.Settled held) :
    Text.dropEndWhile Text.isSpacing (tokens.foldl write layout).written =
      Text.dropEndWhile Text.isSpacing
        ((Token.resolveFrom pending held tokens).foldl write start).written := by
  fun_induction Token.resolveFrom pending held tokens generalizing layout with
  | case1 pending held =>
      rw [foldl_write_reverse]
      exact follows.dropSpacing
  | case2 pending held rest ih =>
      refine ih ?_ (settled.of_infix (List.dropWhile_suffix _).isInfix)
      refine .waiting rfl rfl ?_
      rw [written_dropInline]
      exact follows.dropSpacing
  | case3 pending held rest ih =>
      cases follows with
      | writing same =>
          rw [List.foldl_cons, same]
          exact ih (.writing rfl) settled.inlineBreak_cons
      | waiting blocked uninlined same =>
          refine ih (.waiting blocked ?_ same) settled
          simp only [write, blocked, uninlined, Bool.not_true, Bool.or_self]
  | case4 pending held t rest nothing ih =>
      rw [List.isEmpty_iff.mp nothing, List.foldl_cons, write_nil]
      exact ih follows settled
  | case5 held t rest _ kept nothing =>
      rename_i ih
      obtain - | ⟨blocked, uninlined, same⟩ := follows
      rw [List.foldl_cons, write_lineBreaks blocked nothing]
      refine ih (.waiting blocked uninlined ?_) (Token.settled_cutSpacing settled)
      rw [ofHeld_cutSpacing settled, Text.dropEndWhile_idem]
      exact same
  | case6 held t rest _ kept opened something =>
      rename_i ih
      obtain - | ⟨blocked, uninlined, same⟩ := follows
      have cut := Token.settled_cutSpacing settled
      have settledOpened : Token.Settled opened := by
        simp only [opened]
        split
        · exact cut
        · exact Token.settled_writeText cut (List.cons_ne_nil _ _)
      refine ih (.writing ?_) (Token.settled_writeText settledOpened something)
      rw [ofHeld_writeText settledOpened, write_blocked blocked something, same]
      simp only [opened, kept, isEmpty_cutSpacing settled]
      split
      · next gone =>
        rw [ofHeld_cutSpacing settled, List.isEmpty_iff.mp gone, write_unblocked rfl something]
        rfl
      · rw [ofHeld_writeText cut, ofHeld_cutSpacing settled,
          write_unblocked rfl (List.cons_ne_nil _ _), write_unblocked rfl something]
        simp [space]
  | case7 pending held t rest filled now ih =>
      rw [Bool.not_eq_true] at now
      subst now
      cases follows with
      | writing same =>
          refine ih (.writing ?_)
            (Token.settled_writeText settled (mt List.isEmpty_iff.mpr filled))
          rw [ofHeld_writeText settled, same]

section Edges

variable (unblocked : layout.pendingBlock = false)

include unblocked

/-- Whitespace is written as it is. -/
theorem written_blank (blank : Text.isBlank t = true) :
    (layout.write (.text t)).written = layout.written ++ t := by
  by_cases nothing : t = []
  · rw [nothing, write_nil, List.append_nil]
  · simp [write_unblocked unblocked nothing, space, Text.needsSpace_of_blank blank]

/-- The layout of tokens without block separators differs in whitespace at the end from that of
the same tokens with their end trimmed. -/
theorem written_trimTrailing (unbroken : .blockBreak ∉ tokens) :
    ∃ after, Text.isBlank after = true ∧ (tokens.foldl write layout).written =
      ((Token.trimTrailing tokens).foldl write layout).written ++ after := by
  fun_induction Token.trimTrailing tokens generalizing layout with
  | case1 => exact ⟨[], rfl, (List.append_nil _).symm⟩
  | case2 rest trimmed ih =>
      rw [trimmed] at ih
      exact ih unblocked (mt (List.mem_cons_of_mem _) unbroken)
  | case3 => exact absurd List.mem_cons_self unbroken
  | case4 rest trimmed t nothing ih =>
      rw [trimmed] at ih
      obtain ⟨after, blank, laid⟩ :=
        ih (pendingBlock_write_text unblocked t) (mt (List.mem_cons_of_mem _) unbroken)
      obtain ⟨ending, blank', split⟩ := Text.trimEnd_split t
      rw [nothing, List.nil_append] at split
      rw [← split] at blank'
      refine ⟨t ++ after, by rw [Text.isBlank_append, blank', blank]; rfl, ?_⟩
      rw [List.foldl_cons, laid, ← List.append_assoc]
      exact congrArg (· ++ after) (written_blank unblocked blank')
  | case5 rest trimmed t something ih =>
      rw [trimmed] at ih
      obtain ⟨after, blank, laid⟩ :=
        ih (pendingBlock_write_text unblocked t) (mt (List.mem_cons_of_mem _) unbroken)
      obtain ⟨ending, blank', split⟩ := Text.trimEnd_split t
      refine ⟨ending ++ after, by rw [Text.isBlank_append, blank', blank]; rfl, ?_⟩
      have parts : layout.write (.text t) =
          (layout.write (.text (Text.trimEnd t))).write (.text ending) := by
        rw [← write_append unblocked, ← split]
      rw [List.foldl_cons, laid, ← List.append_assoc]
      refine congrArg (· ++ after) ?_
      rw [List.foldl_nil, parts]
      exact written_blank (pendingBlock_write_text unblocked _) blank'
  | case6 token rest something ih =>
      have inline : token ≠ .blockBreak := by
        rintro rfl
        exact unbroken List.mem_cons_self
      exact ih (pendingBlock_write unblocked inline) (mt (List.mem_cons_of_mem _) unbroken)

end Edges

/-- The layout with more text written before. -/
def behind (before : Text) (layout : Layout) : Layout :=
  { layout with written := before ++ layout.written }

private theorem written_behind_ne_nil (unblocked : layout.pendingBlock = false)
    (started : layout.written ≠ []) (token : Token) (inline : token ≠ .blockBreak) :
    (layout.write token).written ≠ [] := by
  cases token with
  | blockBreak => exact absurd rfl inline
  | inlineBreak => exact started
  | text t =>
      by_cases nothing : t = []
      · rw [nothing, write_nil]
        exact started
      · rw [write_unblocked unblocked nothing]
        exact List.append_ne_nil_of_right_ne_nil _ nothing

/-- Without a block separator, only the last character written decides how the layout goes on. -/
theorem write_behind (unblocked : layout.pendingBlock = false) (started : layout.written ≠ [])
    (inline : token ≠ .blockBreak) (before : Text) :
    (layout.behind before).write token = (layout.write token).behind before := by
  cases token with
  | blockBreak => exact absurd rfl inline
  | inlineBreak => rfl
  | text t =>
      by_cases nothing : t = []
      · rw [nothing, write_nil, write_nil]
      · have same : (layout.behind before).space t = layout.space t := by
          simp only [space, behind, Text.needsSpace_behind started]
        have unblocked' : (layout.behind before).pendingBlock = false := unblocked
        rw [write_unblocked unblocked nothing, write_unblocked unblocked' nothing, same]
        simp only [behind, List.append_assoc]

/-- What is laid out does not depend on what stands in front, once something is written. -/
theorem foldl_write_behind (unblocked : layout.pendingBlock = false)
    (started : layout.written ≠ []) (unbroken : .blockBreak ∉ tokens) (before : Text) :
    tokens.foldl write (layout.behind before) = (tokens.foldl write layout).behind before := by
  induction tokens generalizing layout with
  | nil => rfl
  | cons token rest ih =>
      have inline : token ≠ .blockBreak := by
        rintro rfl
        exact unbroken List.mem_cons_self
      rw [List.foldl_cons, List.foldl_cons, write_behind unblocked started inline]
      exact ih (pendingBlock_write unblocked inline)
        (written_behind_ne_nil unblocked started token inline)
        (mt (List.mem_cons_of_mem _) unbroken)

/-- Tokens without block separators, laid out behind whitespace, differ in whitespace at the start
from the same tokens with their start trimmed. -/
theorem written_trimLeading (unblocked : layout.pendingBlock = false)
    (blank : Text.isBlank layout.written = true) (unbroken : .blockBreak ∉ tokens) :
    ∃ before, Text.isBlank before = true ∧ (tokens.foldl write layout).written =
      before ++ ((Token.trimLeading tokens).foldl write start).written := by
  fun_induction Token.trimLeading tokens generalizing layout with
  | case1 rest ih => exact ih unblocked blank (mt (List.mem_cons_of_mem _) unbroken)
  | case2 t rest nothing ih =>
      obtain ⟨before, blank', split⟩ := Text.trimStart_split t
      rw [nothing, List.append_nil] at split
      rw [← split] at blank'
      refine ih (pendingBlock_write_text unblocked t) ?_ (mt (List.mem_cons_of_mem _) unbroken)
      rw [written_blank unblocked blank', Text.isBlank_append, blank, blank']
      rfl
  | case3 t rest something =>
      obtain ⟨before, blank', split⟩ := Text.trimStart_split t
      have filled : t ≠ [] := by
        rintro rfl
        exact something rfl
      have tight : layout.space t = [] := by
        rw [space, Text.needsSpace_behind_blank blank, Bool.and_false, if_neg Bool.false_ne_true]
      have shifted : layout.write (.text t) =
          (start.write (.text (Text.trimStart t))).behind (layout.written ++ before) := by
        rw [write_unblocked unblocked filled, write_unblocked rfl something, tight]
        conv_lhs => rw [split]
        simp [behind, start, space]
      refine ⟨layout.written ++ before, by rw [Text.isBlank_append, blank, blank']; rfl, ?_⟩
      rw [List.foldl_cons, List.foldl_cons, shifted,
        foldl_write_behind (pendingBlock_write_text rfl _) _ (mt (List.mem_cons_of_mem _) unbroken)]
      · rfl
      · rw [write_unblocked rfl something]
        exact List.append_ne_nil_of_right_ne_nil _ something
  | case4 tokens noInline noText =>
      cases tokens with
      | nil => exact ⟨layout.written, blank, (List.append_nil _).symm⟩
      | cons token rest =>
          cases token with
          | blockBreak => exact absurd List.mem_cons_self unbroken
          | inlineBreak => exact absurd rfl (noInline rest)
          | text t => exact absurd rfl (noText t rest)

end Layout

namespace Fragment

private theorem finalText_trim {f : Fragment} (settled : Token.Settled f.tokens) :
    f.trim.finalText = f.finalText := by
  have idle : Layout.start.pendingBlock = false := rfl
  have inner := Token.settled_trimLeading settled
  obtain ⟨after, blank, ended⟩ := Layout.written_trimTrailing idle inner.unbroken
  obtain ⟨before, blank', started⟩ := Layout.written_trimLeading idle rfl settled.unbroken
  rw [finalText, finalText, started, ended, Text.trim_blank_append blank',
    Text.trim_append_blank blank]
  rfl

/-- Resolving a fragment first leaves its final text as it is. -/
theorem finalText_resolve (f : Fragment) : f.resolve.finalText = f.finalText := by
  have settled : Token.Settled (Token.resolveFrom false [] f.tokens) :=
    Token.resolveFrom_settled false .nil
  have follows : Layout.start.Follows [] false := .writing rfl
  have same : Text.dropEndWhile Text.isSpacing (f.tokens.foldl Layout.write .start).written = _ :=
    follows.resolveFrom .nil
  rw [resolve, finalText_trim settled, finalText, finalText, ← Text.trim_dropSpacing, ← same,
    Text.trim_dropSpacing]

/-- Resolving leaves no block separator, resolving again changes nothing, and the final layout
writes the same text before and after. -/
theorem resolve_agrees_with_layout (f : Fragment) :
    .blockBreak ∉ f.resolve.tokens ∧ f.resolve.resolve = f.resolve ∧
      f.resolve.finalText = f.finalText :=
  ⟨f.settled_resolve.unbroken, f.resolve_resolve, f.finalText_resolve⟩

end Fragment
end ArticleMarkdown
