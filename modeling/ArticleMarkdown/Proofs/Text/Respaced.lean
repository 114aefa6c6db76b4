import ArticleMarkdown.Proofs.Text.Solid

/-!
# Texts with other whitespace

Two texts are the same up to respacing if they differ in the whitespace that stands in some places,
but not in the places where whitespace stands. A text without whitespace then stands in both of them
or in none, and at the same edges.
-/

namespace ArticleMarkdown.Text

/-- The texts differ in runs of whitespace only, and none is missing. -/
inductive Respaced : Text → Text → Prop
  | nil : Respaced [] []
  | char (c : Char) {s t : Text} (rest : Respaced s t) : Respaced (c :: s) (c :: t)
  | space {w w' s t : Text} (blank : isBlank w = true) (blank' : isBlank w' = true)
      (filled : w ≠ []) (filled' : w' ≠ []) (rest : Respaced s t) : Respaced (w ++ s) (w' ++ t)

namespace Respaced

variable {s t : Text}

/-- A text has its own spacing. -/
theorem refl : ∀ t, Respaced t t
  | [] => .nil
  | c :: rest => .char c (refl rest)

/-- Each text is the other one with new spacing. -/
theorem symm (respaced : Respaced s t) : Respaced t s := by
  induction respaced with
  | nil => exact .nil
  | char c _ ih => exact .char c ih
  | space blank blank' filled filled' _ ih => exact .space blank' blank filled' filled ih

/-- New spacing keeps the ink. -/
theorem ink_eq (respaced : Respaced s t) : ink s = ink t := by
  induction respaced with
  | nil => rfl
  | char c _ ih => rw [ink_cons, ink_cons, ih]
  | space blank blank' _ _ _ ih =>
      rw [ink_append, ink_append, ink_eq_nil.mpr blank, ink_eq_nil.mpr blank', ih]

/-- Joined texts with new spacing. -/
theorem append {s' t' : Text} (first : Respaced s t) (second : Respaced s' t') :
    Respaced (s ++ s') (t ++ t') := by
  induction first with
  | nil => exact second
  | char c _ ih => exact .char c ih
  | space blank blank' filled filled' _ ih =>
      rw [List.append_assoc, List.append_assoc]
      exact .space blank blank' filled filled' ih

/-- Whitespace that is there in both texts, or in neither. -/
theorem of_blank {w w' : Text} (blank : isBlank w = true) (blank' : isBlank w' = true)
    (same : w = [] ↔ w' = []) : Respaced w w' := by
  by_cases filled : w = []
  · rw [filled, same.mp filled]
    exact .nil
  · have spaces := Respaced.space blank blank' filled (mt same.mpr filled) .nil
    rwa [List.append_nil, List.append_nil] at spaces

/-- Nothing stays nothing. -/
theorem eq_nil (respaced : Respaced [] t) : t = [] := by
  generalize nothing : ([] : Text) = s at respaced
  cases respaced with
  | nil => rfl
  | char c rest => cases nothing
  | space blank blank' filled filled' rest =>
      exact absurd (List.append_eq_nil_iff.mp nothing.symm).1 filled

section

variable {part : Text} (tight : ∀ c ∈ part, isSpace c = false)
include tight

/-- Characters that are no whitespace stay at the start. -/
theorem start {after : Text} (respaced : Respaced (part ++ after) t) :
    ∃ after', t = part ++ after' ∧ Respaced after after' := by
  induction part generalizing t with
  | nil => exact ⟨t, rfl, respaced⟩
  | cons c others ih =>
      obtain ⟨solid, inside⟩ := List.forall_mem_cons.mp tight
      generalize whole : c :: others ++ after = s at respaced
      cases respaced with
      | nil => cases whole
      | char d rest =>
          obtain ⟨rfl, rfl⟩ := List.cons.inj whole
          obtain ⟨after', rfl, behind⟩ := ih inside rest
          exact ⟨after', rfl, behind⟩
      | space blank blank' filled filled' rest =>
          obtain ⟨d, more, rfl⟩ := List.exists_cons_of_ne_nil filled
          obtain ⟨rfl, -⟩ := List.cons.inj whole
          rw [isBlank_iff.mp blank c List.mem_cons_self] at solid
          cases solid

/-- A text without whitespace stays where it is. -/
theorem around (filled : part ≠ []) {before after : Text}
    (respaced : Respaced (before ++ (part ++ after)) t) :
    ∃ before' after', t = before' ++ (part ++ after') ∧ Respaced before before' ∧
      Respaced after after' := by
  generalize whole : before ++ (part ++ after) = s at respaced
  induction respaced generalizing before with
  | nil =>
      obtain ⟨-, rest⟩ := List.append_eq_nil_iff.mp whole
      exact absurd (List.append_eq_nil_iff.mp rest).1 filled
  | @char c s t rest ih =>
      cases before with
      | nil =>
          have here := Respaced.char c rest
          rw [← whole, List.nil_append] at here
          obtain ⟨after', split, behind⟩ := here.start tight
          exact ⟨[], after', split, .nil, behind⟩
      | cons d others =>
          obtain ⟨rfl, later⟩ := List.cons.inj whole
          obtain ⟨before', after', rfl, ahead, behind⟩ := ih later
          exact ⟨d :: before', after', rfl, .char d ahead, behind⟩
  | @space w w' s t blank blank' filled₁ filled₂ rest ih =>
      -- The whitespace ends before the part, since the part holds none.
      rcases List.append_eq_append_iff.mp whole with ⟨middle, rfl, split⟩ | ⟨middle, rfl, split⟩
      · have none : middle = [] := by
          cases middle with
          | nil => rfl
          | cons c more =>
              obtain ⟨d, others, rfl⟩ := List.exists_cons_of_ne_nil filled
              obtain ⟨rfl, -⟩ := List.cons.inj split
              have solid := tight d List.mem_cons_self
              rw [isBlank_iff.mp blank d (by simp)] at solid
              cases solid
        subst none
        rw [List.nil_append] at split
        subst split
        obtain ⟨after', rfl, behind⟩ := rest.start tight
        rw [List.append_nil] at blank filled₁
        exact ⟨w', after', rfl,
          .of_blank blank blank' ⟨fun h => absurd h filled₁, fun h => absurd h filled₂⟩, behind⟩
      · obtain ⟨before', after', rfl, ahead, behind⟩ := ih split.symm
        exact ⟨w' ++ before', after', (List.append_assoc _ _ _).symm,
          .space blank blank' filled₁ filled₂ ahead, behind⟩

end

/-- What starts without whitespace still does. -/
theorem opens (respaced : Respaced s t) (first : ∀ c ∈ s.head?, isSpace c = false) :
    ∀ c ∈ t.head?, isSpace c = false := by
  cases s with
  | nil => rw [respaced.eq_nil]; exact nofun
  | cons c rest =>
      have tight : ∀ d ∈ [c], isSpace d = false := List.forall_mem_singleton.mpr (first c rfl)
      have parts : Respaced ([c] ++ rest) t := respaced
      obtain ⟨after, rfl, -⟩ := parts.start tight
      exact first

/-- What ends without whitespace still does. -/
theorem closes (respaced : Respaced s t) (last : ∀ c ∈ s.getLast?, isSpace c = false) :
    ∀ c ∈ t.getLast?, isSpace c = false := by
  rcases List.eq_nil_or_concat s with rfl | ⟨before, d, rfl⟩
  · rw [respaced.eq_nil]
    exact nofun
  · rw [List.concat_eq_append] at respaced last
    have parts : Respaced (before ++ ([d] ++ [])) t := respaced
    have solid : isSpace d = false := last d List.getLast?_concat
    have tight : ∀ c ∈ [d], isSpace c = false := List.forall_mem_singleton.mpr solid
    obtain ⟨before', after', rfl, -, behind⟩ :=
      parts.around tight (List.cons_ne_nil d [])
    rw [behind.eq_nil, List.append_nil]
    rintro c same
    rw [List.getLast?_concat] at same
    cases same
    exact solid

private theorem infix_of_infix {p : Text} (solid : p.Solid) (respaced : Respaced s t)
    (held : p <:+: s) :
    p <:+: t := by
  obtain ⟨before, after, rfl⟩ := held
  rw [List.append_assoc] at respaced
  obtain ⟨before', after', rfl, -, -⟩ := respaced.around solid.tight solid.filled
  exact ⟨before', after', List.append_assoc _ _ _⟩

/-- A solid text does not depend on the spacing around it. -/
theorem infix_iff {p : Text} (solid : p.Solid) (respaced : Respaced s t) : p <:+: s ↔ p <:+: t :=
  ⟨respaced.infix_of_infix solid, respaced.symm.infix_of_infix solid⟩

end Respaced

/-- Line breaks made spaces. -/
theorem respaced_map_lineBreak (t : Text) :
    Respaced (t.map fun c => if isLineBreak c then ' ' else c) t := by
  induction t with
  | nil => exact .nil
  | cons c rest ih =>
      rw [List.map_cons]
      split
      · next breaks =>
        have blank : isBlank [c] = true :=
          isBlank_iff.mpr (List.forall_mem_singleton.mpr (isSpace_of_isLineBreak breaks))
        exact .space (w := [' ']) rfl blank (List.cons_ne_nil _ _) (List.cons_ne_nil _ _) ih
      · exact .char c ih

end ArticleMarkdown.Text
