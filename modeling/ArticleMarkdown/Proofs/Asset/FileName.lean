import ArticleMarkdown.Proofs.Asset.Numbering
import Mathlib.Data.List.Infix

/-!
# File names as path components

A file name is a single component of a path: it is not empty, holds no slash, and is none of the
names for a directory itself and the one above it. A path with a file name at its end tells its
directory and its name.
-/

namespace ArticleMarkdown

namespace Text

/-- What fits into a number of bytes is the start of a text. -/
theorem takeUtf8_prefix (limit : Nat) (t : Text) : takeUtf8 limit t <+: t := by
  fun_induction takeUtf8 limit t with
  | case1 => exact List.prefix_refl _
  | case2 limit c rest _ ih => exact (List.prefix_cons_inj c).mpr ih
  | case3 => exact List.nil_prefix

private theorem utf8Length_le (t : Text) : utf8Length t ≤ 4 * t.length := by
  induction t with
  | nil => exact Nat.le_refl _
  | cons c rest ih =>
      have size := c.utf8Size_le_four
      rw [utf8Length, List.length_cons]
      omega

/-- A text that is cut fills its limit up to less than one character. -/
theorem takeUtf8_cut (limit : Nat) (t : Text) :
    takeUtf8 limit t = t ∨ limit < utf8Length (takeUtf8 limit t) + 4 := by
  fun_induction takeUtf8 limit t with
  | case1 => exact .inl rfl
  | case2 limit c rest fits ih =>
      rcases ih with whole | full
      · exact .inl (by rw [whole])
      · refine .inr ?_
        rw [utf8Length]
        omega
  | case3 limit c rest large =>
      have size := c.utf8Size_le_four
      refine .inr ?_
      rw [utf8Length]
      omega

/-- What follows the last of some mark, and what stands before it. -/
theorem append_cons_inj {mark : Char} {before before' after after' : Text} (last : mark ∉ after)
    (last' : mark ∉ after') :
    before ++ mark :: after = before' ++ mark :: after' ↔ before = before' ∧ after = after' := by
  constructor
  · intro same
    rcases List.append_eq_append_iff.mp same with ⟨between, rfl, ends⟩ | ⟨between, rfl, ends⟩
    · cases between with
      | nil => exact ⟨(List.append_nil _).symm, (List.cons.inj ends).2⟩
      | cons first rest =>
          obtain ⟨rfl, rfl⟩ := List.cons.inj ends
          exact absurd (List.mem_append_right rest List.mem_cons_self) last
    · cases between with
      | nil => exact ⟨List.append_nil _, (List.cons.inj ends).2.symm⟩
      | cons first rest =>
          obtain ⟨rfl, rfl⟩ := List.cons.inj ends
          exact absurd (List.mem_append_right rest List.mem_cons_self) last'
  · rintro ⟨rfl, rfl⟩
    rfl

end Text

namespace FileName

private theorem shown_eq_iff {c other : Char} (mark : other ≠ '_')
    (solid : Text.isSpace other = false) :
    shown c = other ↔ c = other := by
  rw [shown]
  split
  · next space =>
    constructor
    · rintro rfl
      exact absurd rfl mark
    · rintro rfl
      rw [solid] at space
      cases space
  · exact Iff.rfl

/-- A file name is the default one, or the start of the cleaned name with underscores for its gaps.
-/
theorem ofText_cases (name : Text) : ofText name = "untitled".toList ∨
    Text.takeUtf8 maxLength (cleaned name) ≠ [] ∧
      ofText name = (Text.takeUtf8 maxLength (cleaned name)).map shown := by
  rw [ofText_eq]
  split
  · exact .inl rfl
  · next filled => exact .inr ⟨filled, rfl⟩

/-- A file name is never empty. -/
theorem ofText_ne_nil (name : Text) : ofText name ≠ [] := by
  rcases ofText_cases name with nothing | ⟨filled, shows⟩
  · rw [nothing]
    decide
  · rw [shows]
    exact fun empty => filled (List.map_eq_nil_iff.mp empty)

/-- Cleaning only takes characters away. -/
theorem of_mem_cleaned {c : Char} {name : Text} (member : c ∈ cleaned name) :
    c ∈ Text.trim name ∧ isKept c = true := by
  rw [cleaned, dropDots] at member
  split at member
  · cases member
  · exact List.mem_filter.mp member

private theorem isKept_shown {c : Char} (kept : isKept c = true) : isKept (shown c) = true := by
  rw [shown]
  split
  · decide
  · exact kept

private theorem isSpace_shown (c : Char) : Text.isSpace (shown c) = false := by
  rw [shown]
  split
  · rfl
  · next solid => exact Bool.eq_false_iff.mpr solid

/-- A file name is made of characters that names keep and that are no whitespace. -/
theorem of_mem_ofText {c : Char} {name : Text} (member : c ∈ ofText name) :
    isKept c = true ∧ Text.isSpace c = false := by
  rcases ofText_cases name with nothing | ⟨-, shows⟩
  · rw [nothing] at member
    have untitled : "untitled".toList.all Text.isAsciiAlphanumeric = true := by decide
    have properties := alphanumeric_properties (List.all_eq_true.mp untitled c member)
    exact ⟨properties.2.1, properties.1⟩
  · rw [shows] at member
    obtain ⟨original, inside, rfl⟩ := List.mem_map.mp member
    have kept := of_mem_cleaned ((Text.takeUtf8_prefix _ _).subset inside)
    exact ⟨isKept_shown kept.2, isSpace_shown original⟩

/-- A name holds no character that cleaning drops. -/
theorem notMem_ofText {c : Char} (dropped : isKept c = false) (name : Text) : c ∉ ofText name := by
  intro member
  rw [(of_mem_ofText member).1] at dropped
  cases dropped

/-- A file name holds no slash. -/
theorem slash_notMem_ofText (name : Text) : '/' ∉ ofText name :=
  notMem_ofText (by decide) name

/-- One or two dots are no file name. A cut name is longer. -/
theorem ofText_ne_dots (name : Text) {count : Nat} (few : count ≤ 2) :
    ofText name ≠ List.replicate count '.' := by
  intro same
  rcases ofText_cases name with nothing | ⟨filled, shows⟩
  · have first : 'u' ∈ List.replicate count '.' := by
      rw [← same, nothing]
      decide
    exact absurd (List.eq_of_mem_replicate first) (by decide)
  · rw [shows] at same
    have dotted : ∀ c ∈ Text.takeUtf8 maxLength (cleaned name), c = '.' := by
      intro c member
      have isDot : shown c = '.' :=
        List.eq_of_mem_replicate (same ▸ List.mem_map_of_mem member)
      exact (shown_eq_iff (by decide) (by decide)).mp isDot
    have length := congrArg List.length same
    rw [List.length_map, List.length_replicate] at length
    rcases Text.takeUtf8_cut maxLength (cleaned name) with whole | full
    · rw [whole, cleaned, dropDots] at dotted filled
      split at filled
      · exact filled rfl
      · next mixed =>
        rw [if_neg mixed] at dotted
        exact mixed (List.all_eq_true.mpr fun c member => beq_iff_eq.mpr (dotted c member))
    · have small := Text.utf8Length_le (Text.takeUtf8 maxLength (cleaned name))
      rw [maxLength] at full small length
      omega

end FileName
end ArticleMarkdown
