import ArticleMarkdown.Proofs.Text.Foreign
import ArticleMarkdown.Proofs.Text.Ink

/-!
# Solid texts

A solid text is not empty and holds no whitespace. If a text holds a solid one, whitespace of the
text can be taken away or put in the place of other whitespace, and the text still holds it.
-/

namespace ArticleMarkdown.Text

/-- A text that is not empty and holds no whitespace. -/
structure Solid (p : Text) : Prop where
  filled : p ≠ []
  tight : ∀ c ∈ p, isSpace c = false

namespace Solid

variable {p : Text} (solid : p.Solid)
include solid

/-- A solid text is not found in a blank one. -/
theorem not_infix_blank {t : Text} (blank : isBlank t = true) : ¬p <:+: t := by
  intro held
  obtain ⟨c, rest, rfl⟩ := List.exists_cons_of_ne_nil solid.filled
  have space := isBlank_iff.mp blank c (held.subset List.mem_cons_self)
  rw [solid.tight c List.mem_cons_self] at space
  cases space

/-- A solid text holds no whitespace. -/
theorem foreign {c : Char} (space : isSpace c = true) : c ∉ p := by
  intro member
  rw [solid.tight c member] at space
  cases space

/-- Whitespace splits what stands on both sides of it. -/
theorem infix_across {s t : Text} {c : Char} (space : isSpace c = true)
    (held : p <:+: s ++ c :: t) : p <:+: s ∨ p <:+: t :=
  infix_across_foreign (solid.foreign space) held

/-- A solid text lies in one piece between spaces. -/
theorem infix_join {mark : Char} (space : isSpace mark = true) {pieces : List Text}
    (held : p <:+: join [mark] pieces) : ∃ piece ∈ pieces, p <:+: piece :=
  (severs_singleton solid.filled (solid.foreign space)).infix_join held

/-- Blank text behind can be left out. -/
theorem infix_of_append_blank {s w : Text} (blank : isBlank w = true) (held : p <:+: s ++ w) :
    p <:+: s := by
  cases w with
  | nil => rwa [List.append_nil] at held
  | cons c rest =>
      rw [isBlank, List.all_cons, Bool.and_eq_true] at blank
      rcases solid.infix_across blank.1 held with left | right
      · exact left
      · exact absurd right (solid.not_infix_blank blank.2)

/-- Blank text in front can be left out. -/
theorem infix_of_blank_append {w t : Text} (blank : isBlank w = true) (held : p <:+: w ++ t) :
    p <:+: t := by
  induction w with
  | nil => exact held
  | cons c rest ih =>
      rw [isBlank, List.all_cons, Bool.and_eq_true] at blank
      rcases solid.infix_across (s := []) blank.1 held with nothing | later
      · exact absurd (List.infix_nil.mp nothing) solid.filled
      · exact ih blank.2 later

/-- Trimming loses no solid text. -/
theorem infix_of_frames {s t : Text} (framed : Frames s t) (held : p <:+: s) : p <:+: t := by
  obtain ⟨before, after, blank, blank', rfl⟩ := framed
  exact solid.infix_of_blank_append blank (solid.infix_of_append_blank blank' held)

/-- A solid text is found before trimming if it is found after it. -/
theorem infix_frames_iff {s t : Text} (framed : Frames s t) : p <:+: s ↔ p <:+: t := by
  refine ⟨solid.infix_of_frames framed, fun held => ?_⟩
  obtain ⟨before, after, -, -, rfl⟩ := framed
  exact held.trans (List.infix_append _ _ _)

end Solid
end ArticleMarkdown.Text
