import ArticleMarkdown.Proofs.Asset.Inside
import ArticleMarkdown.Proofs.Text.Lines

/-!
# Safe file names

Whatever name is proposed, the file name made from it is one part of a path, has a length that
folders take, and shows all its characters (`FileName.isSafe_ofText`). A proposed name stays as it
is exactly if it is clean: safe, without reserved and control characters, and not made of dots only
(`FileName.ofText_eq_self_iff`).

Names of dots only are looked for before a name is cut, so a cut can leave dots only. It leaves too
many of them to name a folder, but such a name does not stay when it is proposed again
(`FileName.ofText_ofText_iff`).
-/

namespace ArticleMarkdown

namespace Text

private theorem length_utf8 (t : Text) : (utf8 t).length = utf8Length t := by
  induction t with
  | nil => rfl
  | cons c rest ih =>
      rw [utf8Length, ← ih, ← String.length_utf8EncodeChar c]
      exact List.length_append

private theorem utf8Length_takeUtf8_le (limit : Nat) (t : Text) :
    utf8Length (takeUtf8 limit t) ≤ limit := by
  fun_induction takeUtf8 limit t with
  | case1 => exact Nat.zero_le _
  | case2 limit c rest fits ih =>
      rw [utf8Length]
      omega
  | case3 => exact Nat.zero_le _

private theorem utf8Length_map_le {f : Char → Char} (smaller : ∀ c, (f c).utf8Size ≤ c.utf8Size)
    (t : Text) : utf8Length (t.map f) ≤ utf8Length t := by
  induction t with
  | nil => exact Nat.le_refl _
  | cons c rest ih => exact Nat.add_le_add (smaller c) ih

end Text

namespace FileName

/-- A name that is one part of a path, has a length that folders take, and shows all its
characters. -/
structure IsSafe (name : Text) : Prop extends Path.IsFileName name where
  short : (Text.utf8 name).length ≤ 255
  zeroless : '\x00' ∉ name
  solid : ∀ c ∈ name, Text.isSpace c = false
  visible : ∀ c ∈ name, Text.isInvisible c = false

private theorem isKept_iff {c : Char} :
    isKept c = true ↔ Text.isInvisible c = false ∧ isReserved c = false ∧ isControl c = false := by
  simp [isKept]

/-! ## What a file name is made of -/

/-- The underscore is no larger than the whitespace that it stands for. -/
theorem utf8Size_shown_le (c : Char) : (shown c).utf8Size ≤ c.utf8Size := by
  rw [shown]
  split
  · exact c.utf8Size_pos
  · exact Nat.le_refl _

private theorem utf8Length_ofText_le (name : Text) : Text.utf8Length (ofText name) ≤ maxLength := by
  rcases ofText_cases name with nothing | ⟨-, shows⟩
  · rw [nothing]
    decide
  · rw [shows]
    exact (Text.utf8Length_map_le utf8Size_shown_le _).trans (Text.utf8Length_takeUtf8_le _ _)

private theorem isSafe_ofText (name : Text) : IsSafe (ofText name) where
  toIsFileName := isFileName name
  short := by
    rw [Text.length_utf8]
    exact utf8Length_ofText_le name
  zeroless := notMem_ofText (by decide) name
  solid _ member := (of_mem_ofText member).2
  visible _ member := (isKept_iff.mp (of_mem_ofText member).1).1

/-! ## The names that stay -/

/-- A name that needs no cleaning. -/
structure IsClean (name : Text) : Prop extends IsSafe name where
  unreserved : ∀ c ∈ name, isReserved c = false
  printable : ∀ c ∈ name, isControl c = false
  mixed : ∃ c ∈ name, c ≠ '.'

/-- Dots only are no name. -/
theorem ofText_of_dots {name : Text} (dots : ∀ c ∈ name, c = '.') :
    ofText name = "untitled".toList := by
  have dropped : cleaned name = [] := by
    rw [cleaned, dropDots, if_pos]
    refine List.all_eq_true.mpr fun c member => beq_iff_eq.mpr (dots c ?_)
    exact (Text.infix_trim name).subset (List.mem_of_mem_filter member)
  rw [ofText_eq, dropped, Text.takeUtf8, if_pos rfl]

private theorem IsClean.cleaned_eq {name : Text} (clean : IsClean name) : cleaned name = name := by
  have trimmed : Text.trim name = name :=
    Text.trim_of_edges (fun c first => clean.solid c (List.mem_of_mem_head? first))
      fun c last => clean.solid c (List.mem_of_mem_getLast? last)
  have kept : name.filter isKept = name := List.filter_eq_self.mpr fun c member =>
    isKept_iff.mpr ⟨clean.visible c member, clean.unreserved c member, clean.printable c member⟩
  obtain ⟨c, member, other⟩ := clean.mixed
  rw [cleaned, trimmed, kept, dropDots, if_neg]
  intro dots
  exact other (beq_iff_eq.mp (List.all_eq_true.mp dots c member))

/-- A safe file name is clean unless it is made of dots only. -/
theorem isClean_ofText_iff (name : Text) :
    IsClean (ofText name) ↔ ∃ c ∈ ofText name, c ≠ '.' := by
  constructor
  · exact IsClean.mixed
  · intro mixed
    have kept := fun c (member : c ∈ ofText name) => isKept_iff.mp (of_mem_ofText member).1
    exact ⟨isSafe_ofText name, fun c member => (kept c member).2.1,
      fun c member => (kept c member).2.2, mixed⟩

/-- Exactly the clean names are taken as they are. -/
theorem ofText_eq_self_iff (name : Text) : ofText name = name ↔ IsClean name := by
  constructor
  · intro same
    have mixed : ∃ c ∈ name, c ≠ '.' := by
      by_contra uniform
      have dots : ∀ c ∈ name, c = '.' := fun c member =>
        by_contra fun other => uniform ⟨c, member, other⟩
      have untitled : name = "untitled".toList := same.symm.trans (ofText_of_dots dots)
      exact absurd (dots 'u' (untitled ▸ by decide)) (by decide)
    have clean := isClean_ofText_iff name
    rw [same] at clean
    exact clean.mpr mixed
  · intro clean
    have fits : Fits name := by
      rw [Fits, clean.cleaned_eq, ← Text.length_utf8]
      exact clean.short
    have filled : cleaned name ≠ [] := by
      rw [clean.cleaned_eq]
      exact clean.filled
    rw [ofText_of_fits fits filled, clean.cleaned_eq, map_shown_eq_self clean.solid]

/-- A file name stays when it is proposed again, unless the cut has left dots only. -/
theorem ofText_ofText_iff (name : Text) :
    ofText (ofText name) = ofText name ↔ ∃ c ∈ ofText name, c ≠ '.' :=
  (ofText_eq_self_iff (ofText name)).trans (isClean_ofText_iff name)

-- The letter keeps the dots from being dropped, and the cut takes it away.
example : ofText (List.replicate 255 '.' ++ ['a']) = List.replicate 255 '.' := by decide +kernel

/-- Whatever is proposed, the file name is safe, and a proposal that needs no cleaning is its own
file name. -/
theorem ofText_safe (name : Text) :
    IsSafe (ofText name) ∧ (ofText name = name ↔ IsClean name) :=
  ⟨isSafe_ofText name, ofText_eq_self_iff name⟩

end FileName
end ArticleMarkdown
