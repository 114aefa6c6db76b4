import ArticleMarkdown.Markdown.Link
import ArticleMarkdown.Proofs.Text.Foreign
import ArticleMarkdown.Proofs.Text.Respaced
import ArticleMarkdown.Proofs.Text.Split
import ArticleMarkdown.Text.Basic
import Mathlib.Data.List.Sublists

/-!
# Texts made of other texts

When a document is converted, some of its texts end up one after another, with others between them
left out. What can be read in the result can then be read in a selection of the texts, run together.
To prove this piece by piece, one has to follow the parts of `p` at the edges of a piece too, which
may grow into `p` in what comes next (`Covered.append`).
-/

namespace ArticleMarkdown.Text

/-- A character that no rule leaves out of a text that it shows: no formatting, no line break, and
not of the glyph that links back from a note. -/
def isLasting (c : Char) : Bool :=
  !isInvisible c && !isLineBreak c && !Note.returnGlyph.contains c

/-- The text without the characters that a rule may leave out. -/
def bare (t : Text) : Text :=
  t.filter isLasting

/-- Each part of a text is bared by itself. -/
@[simp] theorem bare_append (s t : Text) : bare (s ++ t) = bare s ++ bare t :=
  List.filter_append s t

/-- What keeps all lasting characters keeps the bare text. -/
theorem bare_filter {q : Char → Bool} (keeps : ∀ c, isLasting c = true → q c = true) (t : Text) :
    bare (t.filter q) = bare t := by
  rw [bare, bare, List.filter_filter]
  refine List.filter_congr fun c _ => ?_
  cases lasting : isLasting c with
  | false => rfl
  | true => rw [keeps c lasting]; rfl

private theorem bare_cons_of_fleeting {c : Char} (fleeting : isLasting c = false) (t : Text) :
    bare (c :: t) = bare t := by
  refine List.filter_cons_of_neg ?_
  rw [fleeting]
  exact Bool.false_ne_true

/-- Characters that may be left out anyway are removed. -/
theorem bare_removeAll_go {glyph : Text} (filled : glyph ≠ [])
    (fleeting : ∀ c ∈ glyph, isLasting c = false) (skip : Nat) (t : Text)
    (skipped : ∀ c ∈ t.take skip, isLasting c = false) :
    bare (removeAll.go glyph skip t) = bare t := by
  fun_induction removeAll.go glyph skip t with
  | case1 => rfl
  | case2 skip c rest ih =>
      rw [List.take_succ_cons] at skipped
      obtain ⟨here, later⟩ := List.forall_mem_cons.mp skipped
      rw [ih later, bare_cons_of_fleeting here]
  | case3 c rest starts ih =>
      obtain ⟨behind, dropped⟩ := Option.isSome_iff_exists.mp starts
      obtain ⟨d, others, rfl⟩ := List.exists_cons_of_ne_nil filled
      obtain ⟨rfl, rfl⟩ := List.cons.inj (append_of_dropPrefix? dropped)
      obtain ⟨here, later⟩ := List.forall_mem_cons.mp fleeting
      rw [ih (by simpa using later)]
      exact (bare_cons_of_fleeting here _).symm
  | case4 c rest _ ih =>
      rw [← List.singleton_append, bare_append, ih nofun]
      exact (bare_append [c] rest).symm

/-- Some of the texts, in their order and run together. -/
def Selects (texts : List Text) (t : Text) : Prop :=
  ∃ chosen : List Text, chosen.Sublist texts ∧ bare chosen.flatten = t

/-- `p` cannot be read in any selection of the texts. -/
def Unspelled (p : Text) (texts : List Text) : Prop :=
  ∀ t, Selects texts t → ¬p <:+: t

private theorem unspelled_iff {p : Text} {texts : List Text} :
    Unspelled p texts ↔ ∀ chosen ∈ texts.sublists, ¬p <:+: bare chosen.flatten := by
  constructor
  · exact fun unspelled chosen member => unspelled _ ⟨chosen, List.mem_sublists.mp member, rfl⟩
  · rintro clear _ ⟨chosen, part, rfl⟩
    exact clear chosen (List.mem_sublists.mpr part)

instance (p : Text) (texts : List Text) : Decidable (Unspelled p texts) :=
  decidable_of_iff _ unspelled_iff.symm

/-- `part` stands in `t`: anywhere, but at the start if something is missing before it, and at the
end if something is missing after it. -/
def Fits (before part after t : Text) : Prop :=
  ∃ left right, t = left ++ part ++ right ∧ (before = [] ∨ left = []) ∧ (after = [] ∨ right = [])

/-- Every part of `p` that `t` holds so that it could be completed by what stands next to `t`, a
selection of the texts holds in the same way. -/
def Covered (p : Text) (texts : List Text) (t : Text) : Prop :=
  ∀ before part after, p = before ++ part ++ after → part ≠ [] → Fits before part after t →
    ∃ s, Selects texts s ∧ Fits before part after s

section

variable {p s t : Text} {texts others : List Text}

private theorem Selects.mono (selects : Selects texts t) (within : texts.Sublist others) :
    Selects others t := by
  obtain ⟨chosen, part, whole⟩ := selects
  exact ⟨chosen, part.trans within, whole⟩

/-- Selections may be joined. -/
theorem Selects.append (first : Selects texts s) (second : Selects others t) :
    Selects (texts ++ others) (s ++ t) := by
  obtain ⟨chosen, part, rfl⟩ := first
  obtain ⟨chosen', part', rfl⟩ := second
  exact ⟨chosen ++ chosen', part.append part', by rw [List.flatten_append, bare_append]⟩

/-- A text that is spelled by none of many texts is spelled by none of fewer. -/
theorem Unspelled.mono (unspelled : Unspelled p texts) (within : others.Sublist texts) :
    Unspelled p others :=
  fun t selects => unspelled t (selects.mono within)

namespace Covered

/-- An empty text is covered by anything. -/
theorem nil (p : Text) (texts : List Text) : Covered p texts [] := by
  rintro before part after - filled ⟨left, right, split, -⟩
  simp only [List.nil_eq, List.append_eq_nil_iff] at split
  exact absurd split.1.2 filled

/-- More texts cover as much. -/
theorem mono (covered : Covered p texts t) (within : texts.Sublist others) :
    Covered p others t := by
  intro before part after whole filled fits
  obtain ⟨s, selects, fits'⟩ := covered before part after whole filled fits
  exact ⟨s, selects.mono within, fits'⟩

/-- A covered text does not hold `p`, if no selection of the texts does. -/
theorem absent (covered : Covered p texts t) (unspelled : Unspelled p texts) : ¬p <:+: t := by
  rintro ⟨left, right, split⟩
  by_cases nothing : p = []
  · apply unspelled [] ⟨[], List.nil_sublist _, rfl⟩
    rw [nothing]
  · obtain ⟨s, selects, left', right', split', -⟩ :=
      covered [] p [] (List.append_nil p).symm nothing ⟨left, right, split.symm, .inl rfl, .inl rfl⟩
    exact unspelled s selects ⟨left', right', split'.symm⟩

/-- A severing text holds no part of `p` that could be completed. -/
theorem of_severs (severs : Severs p t) (texts : List Text) : Covered p texts t := by
  rintro before part after whole filled ⟨left, right, split, start, ending⟩
  have inside : part ⊆ p := by
    rw [whole]
    exact fun c member => List.mem_append_left _ (List.mem_append_right _ member)
  obtain ⟨first, starts, foreign⟩ := severs.first
  obtain ⟨last, ends, foreign'⟩ := severs.last
  have noStart : left ≠ [] := by
    rintro rfl
    cases part with
    | nil => exact filled rfl
    | cons c rest =>
        rw [split] at starts
        cases starts
        exact foreign (inside List.mem_cons_self)
  have noEnd : right ≠ [] := by
    rintro rfl
    obtain ⟨rest, c, rfl⟩ := (List.eq_nil_or_concat' part).resolve_left filled
    rw [split, List.append_nil, ← List.append_assoc, List.getLast?_concat] at ends
    cases ends
    exact foreign' (inside (by simp))
  obtain rfl := start.resolve_right noStart
  obtain rfl := ending.resolve_right noEnd
  rw [List.nil_append, List.append_nil] at whole
  exact absurd ⟨left, right, by rw [split, whole]⟩ severs.clear

/-- A joined text is covered by the texts of both parts. -/
theorem append (covered : Covered p texts s) (covered' : Covered p others t) :
    Covered p (texts ++ others) (s ++ t) := by
  rintro before part after whole filled ⟨left, right, split, start, ending⟩
  -- The part stands in `s`, or in `t`, or on both sides of the place where they meet.
  have inFirst : Fits before part after s →
      ∃ u, Selects (texts ++ others) u ∧ Fits before part after u := by
    intro fits
    obtain ⟨u, selects, fits'⟩ := covered before part after whole filled fits
    exact ⟨u, selects.mono (List.sublist_append_left _ _), fits'⟩
  have inSecond : Fits before part after t →
      ∃ u, Selects (texts ++ others) u ∧ Fits before part after u := by
    intro fits
    obtain ⟨u, selects, fits'⟩ := covered' before part after whole filled fits
    exact ⟨u, selects.mono (List.sublist_append_right _ _), fits'⟩
  rcases List.append_eq_append_iff.mp split with ⟨middle, early, late⟩ | ⟨middle, early, late⟩
  · rcases List.append_eq_append_iff.mp early with ⟨head, rfl, rfl⟩ | ⟨gap, rfl, rfl⟩
    · by_cases noHead : head = []
      · subst noHead
        exact inSecond ⟨[], right, late, .inr rfl, ending⟩
      by_cases noTail : middle = []
      · subst noTail
        rw [List.append_nil]
        rw [List.append_nil] at inFirst
        refine inFirst ⟨left, [], (List.append_nil _).symm, start, .inr rfl⟩
      obtain ⟨u, selects, left', right', rfl, start', ending'⟩ :=
        covered before head (middle ++ after) (by simp [whole]) noHead
          ⟨left, [], (List.append_nil _).symm, start, .inr rfl⟩
      obtain ⟨v, selects', left'', right'', rfl, start'', ending''⟩ :=
        covered' (before ++ head) middle after (by simp [whole]) noTail
          ⟨[], right, late, .inr rfl, ending⟩
      obtain rfl := ending'.resolve_left (by simp [noTail])
      obtain rfl := start''.resolve_left (by simp [noHead])
      exact ⟨_, selects.append selects', left', right'', by simp, start', ending''⟩
    · refine inSecond ⟨gap, right, late, start.imp_right fun nothing => ?_, ending⟩
      exact (List.append_eq_nil_iff.mp nothing).2
  · refine inFirst ⟨left, middle, early, start, ending.imp_right fun nothing => ?_⟩
    rw [late] at nothing
    exact (List.append_eq_nil_iff.mp nothing).1

/-- A text is covered where each part of `p` that it holds another covered text holds too. -/
theorem of_fits (covered : Covered p texts t)
    (fits : ∀ before part after, p = before ++ part ++ after → part ≠ [] →
      Fits before part after s → Fits before part after t) : Covered p texts s :=
  fun before part after whole filled inS =>
    covered before part after whole filled (fits before part after whole filled inS)

/-- A text covers itself, if nothing may be left out of `p`. -/
theorem self (lasting : ∀ c ∈ p, isLasting c = true) (t : Text) : Covered p [t] t := by
  rintro before part after whole - ⟨left, right, rfl, start, ending⟩
  have kept : bare part = part := by
    refine List.filter_eq_self.mpr fun c member => lasting c ?_
    rw [whole]
    exact List.mem_append_left _ (List.mem_append_right _ member)
  refine ⟨_, ⟨[left ++ part ++ right], .refl _, rfl⟩, bare left, bare right, ?_,
    start.imp_right fun nothing => ?_, ending.imp_right fun nothing => ?_⟩
  · rw [List.flatten_singleton, bare_append, bare_append, kept]
  · rw [nothing]
    rfl
  · rw [nothing]
    rfl

/-- Escapes that sever the text cover as little of it. -/
theorem escape (covered : Covered p texts t) {replace : Char → Text}
    (severing : Severing p replace) : Covered p texts (t.flatMap replace) := by
  refine covered.of_fits ?_
  rintro before part after whole filled ⟨left, right, split, start, ending⟩
  have inside : part ⊆ p := by
    rw [whole]
    exact fun c member => List.mem_append_left _ (List.mem_append_right _ member)
  rcases start with rfl | rfl
  · rcases ending with rfl | rfl
    · rw [List.nil_append, List.append_nil] at whole
      subst whole
      obtain ⟨left', right', found⟩ :=
        severing.infix_of_infix_flatMap (s := []) ⟨left, right, split.symm⟩
      exact ⟨left', right', found.symm, .inl rfl, .inl rfl⟩
    · rw [List.append_nil] at split
      obtain ⟨left', found⟩ := severing.suffix_of_suffix_flatMap inside ⟨left, split.symm⟩
      exact ⟨left', [], by rw [List.append_nil, found], .inl rfl, .inr rfl⟩
  · rw [List.nil_append] at split
    obtain ⟨right', found⟩ := severing.prefix_of_prefix_flatMap inside ⟨right, split.symm⟩
    refine ⟨[], right', found.symm, .inr rfl, ending.imp_right fun nothing => ?_⟩
    have short := length_le_flatMap severing.ne_nil t
    rw [split, nothing, ← found] at short
    simp only [List.append_nil, List.length_append] at short
    exact List.eq_nil_of_length_eq_zero (by omega)

/-- Whitespace of another width covers as little of a solid text. -/
theorem respaced (covered : Covered p texts t) (solid : p.Solid) (respaced : Respaced s t) :
    Covered p texts s := by
  refine covered.of_fits ?_
  rintro before part after whole filled ⟨left, right, rfl, start, ending⟩
  have tight : ∀ c ∈ part, isSpace c = false := by
    refine fun c member => solid.tight c ?_
    rw [whole]
    exact List.mem_append_left _ (List.mem_append_right _ member)
  rw [List.append_assoc] at respaced
  obtain ⟨left', right', rfl, ahead, behind⟩ := respaced.around tight filled
  refine ⟨left', right', (List.append_assoc _ _ _).symm, start.imp_right ?_, ending.imp_right ?_⟩
  · rintro rfl
    exact ahead.eq_nil
  · rintro rfl
    exact behind.eq_nil

end Covered

/-- A text of lasting characters is found in the bare text. -/
theorem infix_bare (lasting : ∀ c ∈ p, isLasting c = true) (held : p <:+: t) : p <:+: bare t := by
  have kept : bare p = p := List.filter_eq_self.mpr lasting
  rw [← kept]
  exact held.filter _

end
end ArticleMarkdown.Text
