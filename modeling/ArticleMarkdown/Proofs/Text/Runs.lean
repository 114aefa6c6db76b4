import ArticleMarkdown.Proofs.Text.Lines
import ArticleMarkdown.Proofs.Text.Solid

/-!
# Runs of a mark

A text edged with a mark holds a run of it at each end, apart from whitespace, and between them
something that neither starts nor ends with the mark (`Text.Edged`). Texts edged with a mark join
no runs when they are put one after another (`Text.Edged.run_append_iff`), and a mark that is put
around such a text lengthens the runs at its ends and makes no others (`Text.Edged.run_wrap_iff`).
-/

namespace ArticleMarkdown.Text

variable {mark : Char} {n front back : Nat} {p s t : Text}

/-- What holds of the first character of both parts holds of that of the whole. -/
theorem forall_head?_append {q : Char → Prop} (first : ∀ c ∈ s.head?, q c)
    (second : ∀ c ∈ t.head?, q c) : ∀ c ∈ (s ++ t).head?, q c := by
  cases s with
  | nil => exact second
  | cons d rest => exact first

/-- What holds of the last character of both parts holds of that of the whole. -/
theorem forall_getLast?_append {q : Char → Prop} (first : ∀ c ∈ s.getLast?, q c)
    (second : ∀ c ∈ t.getLast?, q c) : ∀ c ∈ (s ++ t).getLast?, q c := by
  rcases List.eq_nil_or_concat' t with rfl | ⟨before, d, rfl⟩
  · rwa [List.append_nil]
  · rwa [← List.append_assoc, List.getLast?_concat, ← List.getLast?_concat]

/-- An occurrence lies on one side of a seam that has a foreign character next to it. -/
theorem infix_append_iff_of_foreign
    (seam : (∀ c ∈ s.getLast?, c ∉ p) ∨ ∀ c ∈ t.head?, c ∉ p) :
    p <:+: s ++ t ↔ p <:+: s ∨ p <:+: t := by
  refine ⟨fun held => ?_, fun held => ?_⟩
  · rcases seam with foreign | foreign
    · rcases List.eq_nil_or_concat' s with rfl | ⟨before, c, rfl⟩
      · exact .inr held
      · rw [List.append_assoc] at held
        have outside := foreign c List.getLast?_concat
        exact (infix_across_foreign outside held).imp_left List.infix_append_of_infix_left
    · cases t with
      | nil =>
          rw [List.append_nil] at held
          exact .inl held
      | cons c rest => exact (infix_across_foreign (foreign c rfl) held).imp_right List.infix_cons
  · rcases held with left | right
    · exact List.infix_append_of_infix_left left
    · exact List.infix_append_of_infix_right right

private theorem replicate_infix_replicate {m : Nat} :
    List.replicate n mark <:+: List.replicate m mark ↔ n ≤ m := by
  refine ⟨fun held => by simpa using held.length_le, fun within => ?_⟩
  rw [← Nat.add_sub_cancel' within, List.replicate_add]
  exact List.infix_append_of_infix_left (List.infix_refl _)

/-- A text of one mark holds each shorter run of it. -/
theorem run_infix_of_forall (marks : ∀ c ∈ t, c = mark) (within : n ≤ t.length) :
    List.replicate n mark <:+: t := by
  rw [List.eq_replicate_of_mem marks, replicate_infix_replicate]
  exact within

/-- The greatest of some counts is one of them, and at least each of them. -/
theorem le_foldl_max_iff {start : Nat} {counts : List Nat} :
    n ≤ counts.foldl max start ↔ n ≤ start ∨ ∃ count ∈ counts, n ≤ count := by
  induction counts generalizing start with
  | nil => simp
  | cons count counts ih =>
      have either : n ≤ max start count ↔ n ≤ start ∨ n ≤ count := by omega
      rw [List.foldl_cons, ih, either, List.exists_mem_cons_iff, or_assoc]

/-- A run of a mark holds nothing else. -/
theorem notMem_run {c : Char} (other : c ≠ mark) : c ∉ List.replicate n mark :=
  fun member => other (List.eq_of_mem_replicate member)

/-- A run of a visible mark is solid. -/
theorem solid_run (ink : isSpace mark = false) (some : n ≠ 0) :
    Solid (List.replicate n mark) where
  filled nothing := some (by simpa using nothing)
  tight c member := List.eq_of_mem_replicate member ▸ ink

/-- A text that starts and ends with characters that are neither whitespace nor the mark. -/
structure Sealed (mark : Char) (t : Text) : Prop where
  filled : t ≠ []
  first : ∀ c ∈ t.head?, isSpace c = false ∧ c ≠ mark
  last : ∀ c ∈ t.getLast?, isSpace c = false ∧ c ≠ mark

/-- A text with runs of a mark at its ends, apart from whitespace, that cannot be lengthened by
what stands before or after the text. -/
structure Edged (mark : Char) (t : Text) (front back : Nat) : Prop where
  framed : ∃ core, Sealed mark core ∧
    Frames t (List.replicate front mark ++ core ++ List.replicate back mark)
  first : ∀ c ∈ t.head?, c ≠ mark
  last : ∀ c ∈ t.getLast?, c ≠ mark

namespace Sealed

variable {core : Text} (sealed : Sealed mark core)
include sealed

/-- A run lies at one of the ends or in between. -/
theorem run_iff :
    List.replicate n mark <:+:
        List.replicate front mark ++ core ++ List.replicate back mark ↔
      (n ≤ front ∨ List.replicate n mark <:+: core) ∨ n ≤ back := by
  have ends : ∀ c ∈ (List.replicate front mark ++ core).getLast?, c ∉ List.replicate n mark := by
    intro c last
    rw [List.getLast?_append_of_ne_nil _ sealed.filled] at last
    exact notMem_run (sealed.last c last).2
  rw [infix_append_iff_of_foreign (.inl ends),
    infix_append_iff_of_foreign (.inr fun c first => notMem_run (sealed.first c first).2),
    replicate_infix_replicate, replicate_infix_replicate]

/-- Trimming stops at the runs. -/
theorem trim_eq (ink : isSpace mark = false)
    (framed : Frames t (List.replicate front mark ++ core ++ List.replicate back mark)) :
    trim t = List.replicate front mark ++ core ++ List.replicate back mark := by
  obtain ⟨before, after, blank, blank', rfl⟩ := framed
  have marks : ∀ (k : Nat), ∀ c ∈ List.replicate k mark, isSpace c = false :=
    fun k c member => List.eq_of_mem_replicate member ▸ ink
  rw [List.append_assoc before, trim_blank_append blank, trim_append_blank blank']
  apply trim_of_edges
  · refine forall_head?_append (forall_head?_append ?_ fun c first => (sealed.first c first).1) ?_
    · exact fun c first => marks front c (List.mem_of_mem_head? first)
    · exact fun c first => marks back c (List.mem_of_mem_head? first)
  · refine forall_getLast?_append
      (forall_getLast?_append ?_ fun c last => (sealed.last c last).1) ?_
    · exact fun c last => marks front c (List.mem_of_getLast? last)
    · exact fun c last => marks back c (List.mem_of_getLast? last)

end Sealed

namespace Edged

variable {front' back' : Nat} {w : Text}

/-- A text with edges shows something. -/
theorem not_blank (edged : Edged mark t front back) : isBlank t = false := by
  obtain ⟨core, sealed, before, after, -, -, rfl⟩ := edged.framed
  obtain ⟨c, rest, rfl⟩ := List.exists_cons_of_ne_nil sealed.filled
  refine Bool.eq_false_iff.mpr fun blank => ?_
  have space := isBlank_iff.mp blank c (by simp)
  rw [(sealed.first c rfl).1] at space
  cases space

/-- A text that shows something, and no mark. -/
theorem of_unmarked (shown : isBlank t = false) (unmarked : mark ∉ t) : Edged mark t 0 0 where
  framed := by
    have inside : trim t ⊆ t := (infix_trim t).subset
    refine ⟨trim t, ⟨fun nothing => ?_, fun c first => ?_, fun c last => ?_⟩, ?_⟩
    · have bare := ink_trim t
      rw [nothing] at bare
      rw [ink_eq_nil.mp bare.symm] at shown
      cases shown
    · refine ⟨head?_trimStart (head?_trimEnd first), ?_⟩
      rintro rfl
      exact unmarked (inside (List.mem_of_mem_head? first))
    · refine ⟨getLast?_trim last, ?_⟩
      rintro rfl
      exact unmarked (inside (List.mem_of_getLast? last))
    · simpa using frames_trim t
  first := by
    rintro c first rfl
    exact unmarked (List.mem_of_mem_head? first)
  last := by
    rintro c last rfl
    exact unmarked (List.mem_of_getLast? last)

/-- A run is found at an edge that is long enough. -/
theorem run_of_le (edged : Edged mark t front back) (within : n ≤ front ∨ n ≤ back) :
    List.replicate n mark <:+: t := by
  obtain ⟨core, sealed, before, after, -, -, rfl⟩ := edged.framed
  have held := sealed.run_iff.mpr (within.imp_left .inl)
  exact held.trans (List.infix_append _ _ _)

/-- A run is found in one of two texts unless both edges between them meet. -/
theorem run_append_iff (edged : Edged mark s front back) (t : Text) :
    List.replicate n mark <:+: s ++ t ↔
      List.replicate n mark <:+: s ∨ List.replicate n mark <:+: t :=
  infix_append_iff_of_foreign (.inl fun c last => notMem_run (edged.last c last))

/-- Of two texts one after another, the first one keeps its run at the start and the second one its
run at the end. -/
theorem append (edged : Edged mark s front back) (edged' : Edged mark t front' back') :
    Edged mark (s ++ t) front back' where
  framed := by
    obtain ⟨core, sealed, before, after, blank, -, rfl⟩ := edged.framed
    obtain ⟨core', sealed', before', after', -, blank', rfl⟩ := edged'.framed
    refine ⟨core ++ (List.replicate back mark ++ after ++ before' ++ List.replicate front' mark) ++
      core', ⟨List.append_ne_nil_of_right_ne_nil _ sealed'.filled, fun c first => ?_,
        fun c last => ?_⟩, before, after', blank, blank', ?_⟩
    · rw [List.append_assoc, List.head?_append_of_ne_nil _ sealed.filled] at first
      exact sealed.first c first
    · rw [List.getLast?_append_of_ne_nil _ sealed'.filled] at last
      exact sealed'.last c last
    · simp only [List.append_assoc]
  first := forall_head?_append edged.first edged'.first
  last := forall_getLast?_append edged.last edged'.last

section Ink

variable (ink : isSpace mark = false)
include ink

private theorem ne_mark_of_blank (blank : isBlank w = true) : ∀ c ∈ w, c ≠ mark := by
  rintro c member rfl
  have space := isBlank_iff.mp blank c member
  rw [ink] at space
  cases space

/-- Blank text behind keeps the edges. -/
theorem append_blank (edged : Edged mark s front back) (blank : isBlank w = true) :
    Edged mark (s ++ w) front back where
  framed := by
    obtain ⟨core, sealed, before, after, blank', blank'', rfl⟩ := edged.framed
    exact ⟨core, sealed, before, after ++ w, blank', by rw [isBlank_append, blank'', blank]; rfl,
      List.append_assoc _ _ _⟩
  first := forall_head?_append edged.first fun c first =>
    ne_mark_of_blank ink blank c (List.mem_of_mem_head? first)
  last := forall_getLast?_append edged.last fun c last =>
    ne_mark_of_blank ink blank c (List.mem_of_getLast? last)

/-- Blank text in front keeps the edges. -/
theorem blank_append (edged : Edged mark t front back) (blank : isBlank w = true) :
    Edged mark (w ++ t) front back where
  framed := by
    obtain ⟨core, sealed, before, after, blank', blank'', rfl⟩ := edged.framed
    exact ⟨core, sealed, w ++ before, after, by rw [isBlank_append, blank, blank']; rfl, blank'',
      by simp only [List.append_assoc]⟩
  first := forall_head?_append
    (fun c first => ne_mark_of_blank ink blank c (List.mem_of_mem_head? first)) edged.first
  last := forall_getLast?_append
    (fun c last => ne_mark_of_blank ink blank c (List.mem_of_getLast? last)) edged.last

/-- Marks around trimmed text stand next to its runs. -/
theorem frames_wrap {core : Text} (sealed : Sealed mark core)
    (framed : Frames t (List.replicate front mark ++ core ++ List.replicate back mark)) (k : Nat) :
    Frames (' ' :: (List.replicate k mark ++ trim t ++ List.replicate k mark ++ [' ']))
      (List.replicate (k + front) mark ++ core ++ List.replicate (k + back) mark) := by
  refine ⟨[' '], [' '], rfl, rfl, ?_⟩
  rw [sealed.trim_eq ink framed, Nat.add_comm k back, List.replicate_add, List.replicate_add]
  simp only [List.append_assoc, List.cons_append, List.nil_append]

private theorem ne_mark_of_spaced : (∀ c ∈ (' ' :: (t ++ [' '])).head?, c ≠ mark) ∧
    ∀ c ∈ (' ' :: (t ++ [' '])).getLast?, c ≠ mark := by
  have space : ' ' ≠ mark := ne_mark_of_blank ink (w := [' ']) rfl ' ' List.mem_cons_self
  rw [← List.cons_append, List.getLast?_concat]
  refine ⟨fun c first => ?_, fun c last => ?_⟩
  · cases first
    exact space
  · cases last
    exact space

/-- The trimmed text between marks, with a space on both sides. -/
theorem wrap (edged : Edged mark t front back) (k : Nat) :
    Edged mark (' ' :: (List.replicate k mark ++ trim t ++ List.replicate k mark ++ [' ']))
      (k + front) (k + back) where
  framed := by
    obtain ⟨core, sealed, framed⟩ := edged.framed
    exact ⟨core, sealed, frames_wrap ink sealed framed k⟩
  first := (ne_mark_of_spaced ink).1
  last := (ne_mark_of_spaced ink).2

/-- Marks around the trimmed text lengthen the runs at its ends and make no others. -/
theorem run_wrap_iff (edged : Edged mark t front back) (k : Nat) (some : n ≠ 0) :
    List.replicate n mark <:+:
        ' ' :: (List.replicate k mark ++ trim t ++ List.replicate k mark ++ [' ']) ↔
      (n ≤ k + front ∨ n ≤ k + back) ∨ List.replicate n mark <:+: t := by
  obtain ⟨core, sealed, framed⟩ := edged.framed
  have solid := solid_run ink some
  rw [solid.infix_frames_iff (frames_wrap ink sealed framed k), solid.infix_frames_iff framed,
    sealed.run_iff, sealed.run_iff]
  have grows : n ≤ front → n ≤ k + front := fun within => within.trans (Nat.le_add_left _ _)
  have grows' : n ≤ back → n ≤ k + back := fun within => within.trans (Nat.le_add_left _ _)
  grind

section Other

variable {opening closing : Text} (unmarked : mark ∉ opening) (unmarked' : mark ∉ closing)
include unmarked unmarked'

/-- Other marks around the trimmed text leave its runs where they are. -/
theorem run_wrap_other_iff (some : n ≠ 0) (t : Text) :
    List.replicate n mark <:+: ' ' :: (opening ++ trim t ++ closing ++ [' ']) ↔
      List.replicate n mark <:+: t := by
  have solid := solid_run ink some
  have framed : Frames (' ' :: (opening ++ trim t ++ closing ++ [' ']))
      (opening ++ trim t ++ closing) := ⟨[' '], [' '], rfl, rfl, by simp⟩
  have none : ∀ {u : Text}, mark ∉ u → ¬List.replicate n mark <:+: u := by
    intro u absent held
    exact absent (held.subset (List.mem_replicate.mpr ⟨some, rfl⟩))
  have foreign : ∀ {u : Text}, mark ∉ u → ∀ c ∈ u, c ∉ List.replicate n mark := by
    rintro u absent c member
    refine notMem_run ?_
    rintro rfl
    exact absent member
  rw [solid.infix_frames_iff framed, solid.infix_frames_iff (frames_trim t),
    infix_append_iff_of_foreign (.inr fun c first =>
      foreign unmarked' c (List.mem_of_mem_head? first)),
    infix_append_iff_of_foreign (.inl fun c last => foreign unmarked c (List.mem_of_getLast? last)),
    or_iff_left (none unmarked'), or_iff_right (none unmarked)]

/-- Other marks around a text leave it no edge of this one. -/
theorem wrap_other (filled : opening ≠ [])
    (opens : ∀ c ∈ opening.head?, isSpace c = false) (filled' : closing ≠ [])
    (closes : ∀ c ∈ closing.getLast?, isSpace c = false) (t : Text) :
    Edged mark (' ' :: (opening ++ trim t ++ closing ++ [' '])) 0 0 where
  framed := by
    refine ⟨opening ++ trim t ++ closing, ⟨List.append_ne_nil_of_right_ne_nil _ filled',
      fun c first => ?_, fun c last => ?_⟩, [' '], [' '], rfl, rfl, by simp⟩
    · rw [List.append_assoc, List.head?_append_of_ne_nil _ filled] at first
      refine ⟨opens c first, ?_⟩
      rintro rfl
      exact unmarked (List.mem_of_mem_head? first)
    · rw [List.getLast?_append_of_ne_nil _ filled'] at last
      refine ⟨closes c last, ?_⟩
      rintro rfl
      exact unmarked' (List.mem_of_getLast? last)
  first := (ne_mark_of_spaced ink).1
  last := (ne_mark_of_spaced ink).2

end Other
end Ink
end Edged
end ArticleMarkdown.Text
