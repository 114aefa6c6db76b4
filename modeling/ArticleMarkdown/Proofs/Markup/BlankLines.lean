import ArticleMarkdown.Document.Markup
import ArticleMarkdown.Markup.OneLine
import ArticleMarkdown.Proofs.Text.Foreign

/-!
# Blank lines in markup

A blank line ends raw markup in Markdown (`Markup.BreaksOff`). Encoding neither makes nor removes
one, and no blank line reaches across a tag, so markup has a blank line exactly if one of the texts
between its tags has.
-/

namespace ArticleMarkdown.Markup

open Text

variable {s t w : Text}

/-- Two line feeds with nothing but spaces and tabs between them stand in the text. -/
def BreaksOff (t : Text) : Prop :=
  ∃ gap, (∀ c ∈ gap, isBlankChar c = true) ∧ '\n' :: gap ++ ['\n'] <:+: t

/-- Markup that breaks off holds a line feed. -/
theorem BreaksOff.lineFeed (breaks : BreaksOff t) : '\n' ∈ t := by
  obtain ⟨gap, -, held⟩ := breaks
  exact held.subset List.mem_cons_self

private theorem not_breaksOff_nil : ¬BreaksOff [] :=
  fun breaks => List.not_mem_nil breaks.lineFeed

/-- A character of a blank line. -/
def isGapChar (c : Char) : Bool :=
  c == '\n' || isBlankChar c

/-- A text that no blank line reaches across. -/
def isWall (w : Text) : Bool :=
  w.head?.any (fun c => !isGapChar c) && w.getLast?.any (fun c => !isGapChar c) &&
    !w.contains '\n'

section Gap

variable {gap : Text} (blank : ∀ c ∈ gap, isBlankChar c = true)
include blank

private theorem notMem_gap {c : Char} (other : isGapChar c = false) :
    c ∉ '\n' :: gap ++ ['\n'] := by
  intro member
  have inside : isGapChar c = true := by
    rcases List.mem_append.mp member with front | last
    · rcases List.mem_cons.mp front with rfl | within
      · rfl
      · rw [isGapChar, blank c within, Bool.or_true]
    · rw [List.mem_singleton.mp last]
      rfl
  rw [other] at inside
  cases inside

private theorem severs_wall (wall : isWall w = true) : Severs ('\n' :: gap ++ ['\n']) w := by
  rw [isWall, Bool.and_eq_true, Bool.and_eq_true, Option.any_eq_true, Option.any_eq_true] at wall
  obtain ⟨⟨⟨c, first, other⟩, d, last, other'⟩, single⟩ := wall
  refine ⟨⟨c, first, notMem_gap blank (by simpa using other)⟩,
    ⟨d, last, notMem_gap blank (by simpa using other')⟩, fun held => ?_⟩
  have member : '\n' ∈ w := held.subset List.mem_cons_self
  simp [member] at single

end Gap

section Wall

variable (wall : isWall w = true)
include wall

/-- A wall parts the blank lines of two texts. -/
theorem breaksOff_across_iff : BreaksOff (s ++ (w ++ t)) ↔ BreaksOff s ∨ BreaksOff t := by
  constructor
  · rintro ⟨gap, blank, held⟩
    exact ((severs_wall blank wall).infix_across held).imp (⟨gap, blank, ·⟩) (⟨gap, blank, ·⟩)
  · rintro (⟨gap, blank, held⟩ | ⟨gap, blank, held⟩)
    · exact ⟨gap, blank, (severs_wall blank wall).infix_iff.mpr (.inl held)⟩
    · exact ⟨gap, blank, (severs_wall blank wall).infix_iff.mpr (.inr held)⟩

/-- A wall behind a text holds no blank line. -/
theorem breaksOff_before_iff : BreaksOff (s ++ w) ↔ BreaksOff s := by
  have across := breaksOff_across_iff wall (s := s) (t := [])
  rwa [List.append_nil, or_iff_left not_breaksOff_nil] at across

/-- A wall in front of a text holds no blank line. -/
theorem breaksOff_behind_iff : BreaksOff (w ++ t) ↔ BreaksOff t := by
  have across := breaksOff_across_iff wall (s := []) (t := t)
  rwa [List.nil_append, or_iff_right not_breaksOff_nil] at across

end Wall

/-- Replacing characters that no blank line holds by others of the kind changes no blank line. -/
theorem breaksOff_flatMap_iff {escape : Char → Text}
    (escapes : ∀ c, escape c = [c] ∨
      isGapChar c = false ∧ escape c ≠ [] ∧ (escape c).any isGapChar = false) :
    BreaksOff (t.flatMap escape) ↔ BreaksOff t := by
  constructor
  · rintro ⟨gap, blank, held⟩
    have severing : Severing ('\n' :: gap ++ ['\n']) escape := fun c =>
      (escapes c).imp_right fun ⟨_, filled, others⟩ =>
        severs_of_foreign (List.cons_ne_nil _ _) filled fun d member =>
          notMem_gap blank (Text.of_any_eq_false others d member)
    exact ⟨gap, blank, severing.infix_of_infix_flatMap (s := []) held⟩
  · rintro ⟨gap, blank, held⟩
    refine ⟨gap, blank, infix_flatMap (fun c member => ?_) held⟩
    exact (escapes c).resolve_right fun ⟨other, _⟩ => notMem_gap blank other member

/-- Escaping a text keeps its blank lines. -/
theorem breaksOff_encodeText_iff : BreaksOff (encodeText t) ↔ BreaksOff t := by
  refine breaksOff_flatMap_iff fun c => ?_
  split
  · next special => exact .inr ⟨beq_iff_eq.mp special ▸ rfl, List.cons_ne_nil _ _, rfl⟩
  split
  · next special => exact .inr ⟨beq_iff_eq.mp special ▸ rfl, List.cons_ne_nil _ _, rfl⟩
  split
  · next special => exact .inr ⟨beq_iff_eq.mp special ▸ rfl, List.cons_ne_nil _ _, rfl⟩
  · exact .inl rfl

/-- Escaping a value keeps its blank lines. -/
theorem breaksOff_encodeValue_iff : BreaksOff (encodeValue t) ↔ BreaksOff t := by
  refine breaksOff_flatMap_iff fun c => ?_
  split
  · next special => exact .inr ⟨beq_iff_eq.mp special ▸ rfl, List.cons_ne_nil _ _, rfl⟩
  split
  · next special => exact .inr ⟨beq_iff_eq.mp special ▸ rfl, List.cons_ne_nil _ _, rfl⟩
  split
  · next special => exact .inr ⟨beq_iff_eq.mp special ▸ rfl, List.cons_ne_nil _ _, rfl⟩
  split
  · next special => exact .inr ⟨beq_iff_eq.mp special ▸ rfl, List.cons_ne_nil _ _, rfl⟩
  · exact .inl rfl

end ArticleMarkdown.Markup
