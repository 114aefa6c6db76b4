import ArticleMarkdown.Markup.OneLine
import ArticleMarkdown.Proofs.Text.Foreign
import ArticleMarkdown.Proofs.Text.Lines
import ArticleMarkdown.Proofs.Text.Respaced

/-!
# What stands in markup on one line

Putting markup on one line takes whitespace away between tags only, and changes it elsewhere.
So a solid text that does not hold the start of a tag stands in the line exactly if it stands in the
markup. No line feed is left (`Markup.lineFeed_notMem_oneLine`).

Markup on one line is collapsed: it holds no line feed, all of it but whitespace is kept, no
whitespace stands at its edges, and collapsing it again changes nothing
(`Markup.oneLine_collapsed`). Neither of the two passes takes a character away that is no
whitespace, and neither changes a text without line feeds.
-/

namespace ArticleMarkdown.Markup

open Text

variable {p s t : Text}

/-- Whitespace before a character that `p` does not hold makes no difference. -/
theorem infix_before_foreign (solid : p.Solid) {c : Char} (foreign : c ∉ p) {w : Text}
    (blank : isBlank w = true) : p <:+: s ++ (w ++ c :: t) ↔ p <:+: s ++ c :: t := by
  have severs := severs_singleton solid.filled foreign
  rw [← List.singleton_append, ← List.append_assoc, severs.infix_iff, severs.infix_iff]
  refine or_congr_left ⟨solid.infix_of_append_blank blank, fun held => ?_⟩
  exact List.infix_append_of_infix_left held

/-- After any character, what is read on stands behind it. -/
theorem infix_append_cons_iff {c : Char} {u v : Text}
    (later : ∀ s : Text, p <:+: s ++ u ↔ p <:+: s ++ v) :
    p <:+: s ++ c :: u ↔ p <:+: s ++ c :: v := by
  rw [List.append_cons, later, List.append_cons s c v]

private theorem infix_closeGapsFrom (solid : p.Solid) (foreign : '<' ∉ p) (gap : Option Text)
    (t : Text)
    (blank : ∀ w ∈ gap, isBlank w = true) :
    p <:+: s ++ closeGapsFrom gap t ↔ p <:+: s ++ (gap.getD [] ++ t) := by
  -- A gap that vanishes is whitespace before a tag.
  fun_induction closeGapsFrom gap t generalizing s with
  | case1 gap => rw [List.append_nil]
  | case2 c rest held space ih =>
      have longer : isBlank (held ++ [c]) = true := by
        rw [isBlank_append, blank held rfl]
        exact isBlank_iff.mpr (List.forall_mem_singleton.mpr space)
      rw [ih fun w same => Option.mem_some.mp same ▸ longer]
      simp only [Option.getD_some, List.append_assoc, List.singleton_append]
  | case3 c rest held _ ih =>
      have later : ∀ s : Text, p <:+: s ++ closeGapsFrom (if c == '>' then some [] else none) rest ↔
          p <:+: s ++ rest := by
        intro s
        rw [ih (by split <;> simp [isBlank])]
        split <;> rfl
      rw [Option.getD_some]
      split
      · next closes =>
        rw [Bool.and_eq_true, beq_iff_eq] at closes
        obtain ⟨rfl, -⟩ := closes
        rw [infix_before_foreign solid foreign (blank held rfl), List.nil_append]
        exact infix_append_cons_iff later
      · rw [← List.append_assoc, ← List.append_assoc]
        exact infix_append_cons_iff later
  | case4 c rest ih =>
      refine infix_append_cons_iff fun s => ?_
      rw [ih (by split <;> simp [isBlank])]
      split <;> rfl

private theorem isSpace_of_isBlankChar {c : Char} (blank : isBlankChar c = true) :
    isSpace c = true := by
  rw [isBlankChar, Bool.or_eq_true, beq_iff_eq, beq_iff_eq] at blank
  rcases blank with rfl | rfl <;> rfl

/-- The whitespace that is held back is what was read, `w`, or nothing once that broke the line. -/
structure HoldsBack (held : Option Text) (w : Text) : Prop where
  blank : isBlank w = true
  read : ∀ kept ∈ held, kept = w
  broken : held = none → w ≠ []

namespace HoldsBack

variable {held : Option Text} {w : Text}

/-- Nothing is held back at the start. -/
theorem start : HoldsBack (some []) [] :=
  ⟨rfl, fun _ same => (Option.mem_some.mp same).symm, nofun⟩

private theorem respaced (holds : HoldsBack held w) : Respaced (held.getD [' ']) w := by
  cases held with
  | none => exact .of_blank rfl holds.blank (iff_of_false (List.cons_ne_nil _ _) (holds.broken rfl))
  | some kept =>
      rw [holds.read kept rfl]
      exact .refl w

private theorem breakLine (holds : HoldsBack held w) {breaks : Text} (blank : isBlank breaks = true)
    (filled : breaks ≠ []) : HoldsBack none (w ++ breaks) := by
  refine ⟨?_, nofun, fun _ => List.append_ne_nil_of_right_ne_nil _ filled⟩
  rw [isBlank_append, holds.blank, blank]
  rfl

private theorem keep (holds : HoldsBack held w) {c : Char} (space : isSpace c = true) :
    HoldsBack (held.map (· ++ [c])) (w ++ [c]) := by
  refine ⟨?_, fun kept same => ?_, fun _ => List.concat_ne_nil _ _⟩
  · rw [isBlank_append, holds.blank]
    exact isBlank_iff.mpr (List.forall_mem_singleton.mpr space)
  · cases held with
    | none => cases same
    | some before =>
        cases same
        rw [holds.read before rfl]

end HoldsBack

/-- Lines are joined by other whitespace. -/
theorem respaced_joinLinesFrom (held : Option Text) (t : Text) {w : Text}
    (holds : HoldsBack held w) :
    Respaced (joinLinesFrom held t) (w ++ t) := by
  fun_induction joinLinesFrom held t generalizing w with
  | case1 held =>
      rw [List.append_nil]
      exact holds.respaced
  | case2 held rest ih =>
      rw [List.append_cons, List.append_cons, List.append_assoc w]
      exact ih (holds.breakLine rfl (by decide))
  | case3 held c rest _ breaks ih =>
      rw [List.append_cons]
      rw [beq_iff_eq] at breaks
      subst breaks
      exact ih (holds.breakLine rfl (by decide))
  | case4 held c rest _ _ space ih =>
      rw [List.append_cons]
      exact ih (holds.keep (isSpace_of_isBlankChar space))
  | case5 held c rest _ _ _ ih => exact holds.respaced.append (.char c (ih .start))

/-- Putting markup on one line neither makes nor breaks an occurrence. -/
theorem infix_oneLine_iff (solid : p.Solid) (foreign : '<' ∉ p) : p <:+: oneLine t ↔ p <:+: t := by
  have joined : Respaced (oneLine t) (closeGaps (trim t)) := respaced_joinLinesFrom _ _ .start
  have closed := infix_closeGapsFrom (s := []) solid foreign none (trim t) nofun
  refine (joined.infix_iff solid).trans (closed.trans ⟨fun held => ?_, fun held => ?_⟩)
  · obtain ⟨before, after, -, -, whole⟩ := frames_trim t
    rw [whole]
    exact held.trans (List.infix_append _ _ _)
  · exact solid.infix_of_frames (frames_trim t) held

/-- What is held back are spaces and tabs, and a line feed never gets out. -/
theorem lineFeed_notMem_joinLinesFrom (held : Option Text) (t : Text)
    (single : ∀ kept ∈ held, '\n' ∉ kept) : '\n' ∉ joinLinesFrom held t := by
  have kept : ∀ held : Option Text, (∀ kept ∈ held, '\n' ∉ kept) → '\n' ∉ held.getD [' '] := by
    intro held single
    cases held with
    | none => decide
    | some gap => exact single gap rfl
  fun_induction joinLinesFrom held t with
  | case1 held => exact kept held single
  | case2 held rest ih => exact ih nofun
  | case3 held c rest _ breaks ih => exact ih nofun
  | case4 held c rest _ other space ih =>
      refine ih fun gap same => ?_
      obtain ⟨before, read, rfl⟩ := Option.map_eq_some_iff.mp same
      rw [List.mem_append, List.mem_singleton, not_or]
      exact ⟨single before read, fun lineFeed => other (beq_iff_eq.mpr lineFeed.symm)⟩
  | case5 held c rest _ other _ ih =>
      rw [List.mem_append, List.mem_cons, not_or, not_or]
      refine ⟨kept held single, fun lineFeed => other (beq_iff_eq.mpr lineFeed.symm), ih ?_⟩
      rintro _ ⟨⟩
      exact List.not_mem_nil

/-- Markup on one line holds no line feed. -/
theorem lineFeed_notMem_oneLine (t : Text) : '\n' ∉ oneLine t :=
  lineFeed_notMem_joinLinesFrom _ _ fun kept same => by
    cases same
    exact List.not_mem_nil

/-! ## Collapsing again -/

section Collapsed

variable {t : Text} {c : Char}

private theorem ink_closeGapsFrom (gap : Option Text) (t : Text)
    (blank : ∀ w ∈ gap, isBlank w = true) :
    ink (closeGapsFrom gap t) = ink t := by
  have opened : ∀ (c : Char), ∀ w ∈ (if c == '>' then some [] else none : Option Text),
      isBlank w = true := by
    intro c w same
    split at same
    · cases same
      rfl
    · cases same
  fun_induction closeGapsFrom gap t with
  | case1 gap =>
      cases gap with
      | none => rfl
      | some held => exact ink_eq_nil.mpr (blank held rfl)
  | case2 c rest held space ih =>
      rw [ink_cons, if_pos space]
      refine ih fun w same => ?_
      cases same
      rw [isBlank_append, blank held rfl]
      exact isBlank_iff.mpr (List.forall_mem_singleton.mpr space)
  | case3 c rest held _ ih =>
      have gone : ink (if c == '<' && breaksLine held then [] else held) = [] := by
        split
        · rfl
        · exact ink_eq_nil.mpr (blank held rfl)
      rw [ink_append, gone, List.nil_append, ink_cons, ink_cons, ih (opened c)]
  | case4 c rest ih => rw [ink_cons, ink_cons, ih (opened c)]

private theorem respaced_oneLine (t : Text) : Respaced (oneLine t) (closeGaps (trim t)) :=
  respaced_joinLinesFrom _ _ .start

private theorem ink_oneLine (t : Text) : ink (oneLine t) = ink t := by
  rw [(respaced_oneLine t).ink_eq, closeGaps, ink_closeGapsFrom none _ nofun, ink_trim]

/-! ## Edges -/

/-- Closing gaps keeps a character at the end that is no whitespace. -/
theorem closeGapsFrom_concat (gap : Option Text) (t : Text) (solid : isSpace c = false) :
    ∃ closed, closeGapsFrom gap (t ++ [c]) = closed ++ [c] := by
  induction t generalizing gap with
  | nil =>
      have ended : closeGapsFrom (if c == '>' then some [] else none) [] = [] := by
        split <;> rfl
      cases gap with
      | none => exact ⟨[], by rw [List.nil_append, closeGapsFrom, ended]⟩
      | some held =>
          rw [List.nil_append, closeGapsFrom, if_neg (Bool.eq_false_iff.mp solid), ended]
          exact ⟨_, rfl⟩
  | cons d rest ih =>
      obtain ⟨closed, below⟩ := ih (if d == '>' then some [] else none)
      cases gap with
      | none =>
          rw [List.cons_append, closeGapsFrom, below]
          exact ⟨d :: closed, rfl⟩
      | some held =>
          rw [List.cons_append, closeGapsFrom]
          split
          · exact ih (some (held ++ [d]))
          · rw [below, ← List.cons_append, ← List.append_assoc]
            exact ⟨_, rfl⟩

private theorem closeGaps_opens (first : ∀ c ∈ t.head?, isSpace c = false) :
    ∀ c ∈ (closeGaps t).head?, isSpace c = false := by
  cases t with
  | nil => exact nofun
  | cons c rest => exact first

private theorem closeGaps_closes (last : ∀ c ∈ t.getLast?, isSpace c = false) :
    ∀ c ∈ (closeGaps t).getLast?, isSpace c = false := by
  rcases List.eq_nil_or_concat t with rfl | ⟨before, c, rfl⟩
  · exact nofun
  · rw [List.concat_eq_append] at last ⊢
    have solid : isSpace c = false := last c List.getLast?_concat
    obtain ⟨closed, ends⟩ := closeGapsFrom_concat none before solid
    rw [closeGaps, ends]
    rw [List.getLast?_concat] at last ⊢
    exact last

/-- No whitespace stands at the edges of a line. -/
theorem trim_oneLine (t : Text) : trim (oneLine t) = oneLine t := by
  have trimmed := trim_trim t
  refine trim_of_edges ?_ ?_
  · exact (respaced_oneLine t).symm.opens (closeGaps_opens (head?_of_trimmed trimmed))
  · exact (respaced_oneLine t).symm.closes (closeGaps_closes (getLast?_of_trimmed trimmed))

/-! ## Collapsing again -/

private theorem not_breaksLine {gap : Text} (single : '\n' ∉ gap) : breaksLine gap = false := by
  have later : '\n' ∉ gap.dropWhile isBlankChar :=
    fun member => single ((List.dropWhile_suffix _).subset member)
  rw [breaksLine]
  split
  · next rest starts => exact absurd (starts ▸ List.mem_cons_self) later
  · next rest starts =>
    exact absurd (starts ▸ List.mem_cons_of_mem _ List.mem_cons_self) later
  · rfl

/-- Gaps that break no line stay. -/
theorem closeGapsFrom_of_single (gap : Option Text) (t : Text) (held : '\n' ∉ gap.getD [])
    (single : '\n' ∉ t) : closeGapsFrom gap t = gap.getD [] ++ t := by
  have opened : ∀ c : Char, (if c == '>' then some [] else none : Option Text).getD [] = [] := by
    intro c
    split <;> rfl
  fun_induction closeGapsFrom gap t with
  | case1 gap => rw [List.append_nil]
  | case2 c rest gap space ih =>
      rw [List.mem_cons, not_or] at single
      have longer : '\n' ∉ (some (gap ++ [c])).getD [] := by
        rw [Option.getD_some, List.mem_append, List.mem_singleton, not_or]
        exact ⟨held, single.1⟩
      rw [ih longer single.2]
      simp only [Option.getD_some, List.append_assoc, List.singleton_append]
  | case3 c rest gap _ ih =>
      have stays : breaksLine gap = false := not_breaksLine held
      rw [opened] at ih
      rw [ih List.not_mem_nil (List.not_mem_of_not_mem_cons single), stays, Bool.and_false,
        if_neg Bool.false_ne_true]
      rfl
  | case4 c rest ih =>
      rw [opened] at ih
      rw [ih List.not_mem_nil (List.not_mem_of_not_mem_cons single)]
      rfl

/-- Without line feeds there are no lines to join. -/
theorem joinLinesFrom_of_single (held t : Text) (single : '\n' ∉ t) :
    joinLinesFrom (some held) t = held ++ t := by
  induction t generalizing held with
  | nil => rw [joinLinesFrom, Option.getD_some, List.append_nil]
  | cons c rest ih =>
      rw [List.mem_cons, not_or] at single
      have noReturn : ∀ more, c = '\r' → rest = '\n' :: more → False := by
        rintro more - rfl
        exact single.2 List.mem_cons_self
      rw [joinLinesFrom.eq_3 _ c rest noReturn, if_neg (mt beq_iff_eq.mp (Ne.symm single.1))]
      split
      · rw [Option.map_some, ih _ single.2, List.append_assoc, List.singleton_append]
      · rw [ih _ single.2, Option.getD_some, List.nil_append]

private theorem oneLine_of_single (trimmed : trim t = t) (single : '\n' ∉ t) : oneLine t = t := by
  rw [oneLine, trimmed, closeGaps, closeGapsFrom_of_single none t List.not_mem_nil single,
    joinLines]
  exact joinLinesFrom_of_single [] t single

/-- Markup on one line holds no line feed and exactly the characters of the markup that are no
whitespace, in order; it starts and ends with such characters unless it is empty; and putting it on
one line again changes nothing. -/
theorem oneLine_collapsed (t : Text) :
    '\n' ∉ oneLine t ∧ ink (oneLine t) = ink t ∧
      (∀ c ∈ (oneLine t).head?, isSpace c = false) ∧
      (∀ c ∈ (oneLine t).getLast?, isSpace c = false) ∧ oneLine (oneLine t) = oneLine t := by
  have single := lineFeed_notMem_oneLine t
  have trimmed := trim_oneLine t
  exact ⟨single, ink_oneLine t, head?_of_trimmed trimmed, getLast?_of_trimmed trimmed,
    oneLine_of_single trimmed single⟩

end Collapsed

end ArticleMarkdown.Markup
