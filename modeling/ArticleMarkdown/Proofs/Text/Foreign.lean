import ArticleMarkdown.Proofs.Text.Split
import Mathlib.Data.List.Infix

/-!
# Characters foreign to a text

A character that a text `p` does not hold splits what stands around it: an occurrence of `p` lies on
one side of it. So does a text that starts and ends with such characters and does not hold `p`
(`Severs`); and replacing characters by such texts makes no occurrence (`Severing`).
-/

namespace ArticleMarkdown.Text

variable {p s t w : Text} {c : Char}

/-- What holds of no character of a text fails for each of them. -/
theorem of_any_eq_false {q : Char → Bool} (none : t.any q = false) : ∀ c ∈ t, q c = false :=
  fun c member => Bool.eq_false_iff.mpr (List.any_eq_false.mp none c member)

private theorem eq_nil_of_prefix_foreign {l : Text} (foreign : c ∉ p) (inside : l ⊆ p)
    (starts : l <+: c :: t) : l = [] := by
  cases l with
  | nil => rfl
  | cons first rest =>
      obtain ⟨rfl, -⟩ := List.cons_prefix_cons.mp starts
      exact absurd (inside List.mem_cons_self) foreign

/-- A text without a character lies on one side of it. -/
theorem infix_across_foreign (foreign : c ∉ p) (held : p <:+: s ++ c :: t) :
    p <:+: s ∨ p <:+: t := by
  rcases List.infix_append_iff.mp held with left | right | ⟨first, second, rfl, ends, starts⟩
  · exact .inl left
  · rcases List.infix_cons_iff.mp right with starts | later
    · rw [eq_nil_of_prefix_foreign foreign (List.Subset.refl _) starts]
      exact .inl List.nil_infix
    · exact .inr later
  · rw [eq_nil_of_prefix_foreign foreign (List.subset_append_right _ _) starts, List.append_nil]
    exact .inl ends.isInfix

/-- No occurrence starts in a text without the first character. -/
theorem infix_of_append_of_head? (first : p.head? = some c) (absent : c ∉ s)
    (held : p <:+: s ++ t) : p <:+: t := by
  induction s with
  | nil => exact held
  | cons d rest ih =>
      rw [List.mem_cons, not_or] at absent
      rcases List.infix_cons_iff.mp held with starts | later
      · cases p with
        | nil => cases first
        | cons e others =>
            cases first
            exact absurd (List.cons_prefix_cons.mp starts).1 absent.1
      · exact ih absent.2 later

/-- No occurrence ends in a text without the last character. -/
theorem infix_of_append_of_getLast? (last : p.getLast? = some c) (absent : c ∉ t)
    (held : p <:+: s ++ t) : p <:+: s := by
  rw [← List.reverse_infix, List.reverse_append] at held
  rw [← List.reverse_infix]
  refine infix_of_append_of_head? ?_ (mt List.mem_reverse.mp absent) held
  rw [List.head?_reverse, last]

/-- A text with a character is not found where the character is missing. -/
theorem not_infix_of_notMem (member : c ∈ p) (absent : c ∉ t) : ¬p <:+: t :=
  fun held => absent (held.subset member)

/-- A text that severs what stands before it from what stands after it. -/
structure Severs (p w : Text) : Prop where
  first : ∃ c ∈ w.head?, c ∉ p
  last : ∃ c ∈ w.getLast?, c ∉ p
  clear : ¬p <:+: w

instance (p w : Text) : Decidable (Severs p w) :=
  have any : ∀ o : Option Char, (o.any fun c => !p.contains c) = true ↔ ∃ c ∈ o, c ∉ p := by
    intro o
    simp [Option.any_eq_true]
  decidable_of_iff ((w.head?.any fun c => !p.contains c) = true ∧
      (w.getLast?.any fun c => !p.contains c) = true ∧ ¬p <:+: w)
    ⟨fun ⟨first, last, clear⟩ => ⟨(any _).mp first, (any _).mp last, clear⟩,
      fun severs => ⟨(any _).mpr severs.first, (any _).mpr severs.last, severs.clear⟩⟩

/-- A text of characters that `p` does not hold severs. -/
theorem severs_of_foreign (filled : p ≠ []) (filled' : w ≠ []) (foreign : ∀ c ∈ w, c ∉ p) :
    Severs p w where
  first := ⟨w.head filled', List.head?_eq_some_head filled', foreign _ (List.head_mem filled')⟩
  last := ⟨w.getLast filled', List.getLast?_eq_some_getLast filled',
    foreign _ (List.getLast_mem filled')⟩
  clear held := by
    obtain ⟨d, rest, rfl⟩ := List.exists_cons_of_ne_nil filled
    exact foreign d (held.subset List.mem_cons_self) List.mem_cons_self

/-- A character that a text lacks severs it. -/
theorem severs_singleton (filled : p ≠ []) (foreign : c ∉ p) : Severs p [c] :=
  severs_of_foreign filled (List.cons_ne_nil c []) (List.forall_mem_singleton.mpr foreign)

namespace Severs

variable (severs : Severs p w)
include severs

/-- A text that is severed lies on one side. -/
theorem infix_across (held : p <:+: s ++ (w ++ t)) : p <:+: s ∨ p <:+: t := by
  obtain ⟨c, starts, foreign⟩ := severs.first
  obtain ⟨d, ends, foreign'⟩ := severs.last
  obtain ⟨rest, rfl⟩ := List.head?_eq_some_iff.mp starts
  rcases infix_across_foreign foreign held with before | later
  · exact .inl before
  rcases List.eq_nil_or_concat' rest with rfl | ⟨middle, e, rfl⟩
  · exact .inr later
  · rw [← List.cons_append, List.getLast?_concat, Option.mem_some] at ends
    subst ends
    have later : p <:+: middle ++ e :: t := by
      rw [List.append_cons]
      exact later
    refine (infix_across_foreign foreign' later).imp_left fun within => ?_
    exact absurd (List.infix_cons (List.infix_append_of_infix_left within)) severs.clear

/-- A text that is severed is found on one side or the other. -/
theorem infix_iff : p <:+: s ++ (w ++ t) ↔ p <:+: s ∨ p <:+: t := by
  refine ⟨severs.infix_across, fun held => ?_⟩
  rcases held with before | later
  · exact List.infix_append_of_infix_left before
  · exact List.infix_append_of_infix_right (List.infix_append_of_infix_right later)

/-- What severs a text can be left out at the end. -/
theorem infix_before_iff : p <:+: s ++ w ↔ p <:+: s := by
  have whole := severs.infix_iff (s := s) (t := [])
  rw [List.append_nil] at whole
  refine whole.trans (or_iff_left_of_imp fun nothing => ?_)
  rw [List.infix_nil.mp nothing]
  exact List.nil_infix

/-- What severs a text can be left out at the start. -/
theorem infix_behind_iff : p <:+: w ++ t ↔ p <:+: t := by
  have whole := severs.infix_iff (s := []) (t := t)
  rw [List.nil_append] at whole
  refine whole.trans (or_iff_right_of_imp fun nothing => ?_)
  rw [List.infix_nil.mp nothing]
  exact List.nil_infix

/-- Between two severing texts, anything that does not hold `p` severs too. -/
theorem enclose {u : Text} (severs' : Severs p u) (clear : ¬p <:+: t) :
    Severs p (w ++ (t ++ u)) where
  first := by
    obtain ⟨c, starts, foreign⟩ := severs.first
    obtain ⟨rest, rfl⟩ := List.head?_eq_some_iff.mp starts
    exact ⟨c, rfl, foreign⟩
  last := by
    obtain ⟨c, ends, foreign⟩ := severs'.last
    obtain ⟨rest, rfl⟩ := List.getLast?_eq_some_iff.mp ends
    exact ⟨c, by rw [← List.append_assoc, ← List.append_assoc, List.getLast?_concat]; rfl, foreign⟩
  clear held := clear (severs'.infix_before_iff.mp (severs.infix_behind_iff.mp held))

/-- Two parts that sever a text sever it together. -/
theorem append {u : Text} (severs' : Severs p u) : Severs p (w ++ u) := by
  refine severs.enclose severs' (t := []) fun nothing => ?_
  rw [List.infix_nil.mp nothing] at severs
  exact severs.clear List.nil_infix

private theorem filled : p ≠ [] := by
  rintro rfl
  exact severs.clear List.nil_infix

/-- A text that is severed by the separator lies in one piece. -/
theorem infix_join {pieces : List Text} (held : p <:+: join w pieces) :
    ∃ piece ∈ pieces, p <:+: piece := by
  fun_induction join w pieces with
  | case1 => exact absurd (List.infix_nil.mp held) severs.filled
  | case2 piece => exact ⟨piece, List.mem_singleton_self piece, held⟩
  | case3 piece pieces _ ih =>
      rw [List.append_assoc] at held
      rcases severs.infix_across held with here | later
      · exact ⟨piece, List.mem_cons_self, here⟩
      · obtain ⟨other, member, there⟩ := ih later
        exact ⟨other, List.mem_cons_of_mem _ member, there⟩

end Severs

/-- What stands for itself in a text is in the text whose other characters are replaced. -/
theorem infix_flatMap {p t : Text} {replace : Char → Text} (stays : ∀ c ∈ p, replace c = [c])
    (held : p <:+: t) : p <:+: t.flatMap replace := by
  obtain ⟨before, after, rfl⟩ := held
  have kept : p.flatMap replace = p := by
    rw [List.flatMap_congr stays, List.flatMap_singleton']
  rw [List.flatMap_append, List.flatMap_append, kept]
  exact List.infix_append _ _ _

/-- An escape that puts something in the place of each character makes no text shorter. -/
theorem length_le_flatMap {escape : Char → Text} (filled : ∀ c, escape c ≠ []) (t : Text) :
    t.length ≤ (t.flatMap escape).length := by
  induction t with
  | nil => exact Nat.le_refl _
  | cons c rest ih =>
      have some := List.length_pos_iff.mpr (filled c)
      rw [List.flatMap_cons, List.length_append, List.length_cons]
      omega

/-- An escape leaves a character as it is, or puts a text in its place that severs. -/
def Severing (p : Text) (escape : Char → Text) : Prop :=
  ∀ c, escape c = [c] ∨ Severs p (escape c)

namespace Severing

variable {escape : Char → Text} (severing : Severing p escape)
include severing

/-- An escape writes something for each character. -/
theorem ne_nil (c : Char) : escape c ≠ [] := by
  rcases severing c with stays | severs
  · rw [stays]
    exact List.cons_ne_nil _ _
  · intro nothing
    rw [nothing] at severs
    obtain ⟨d, none, -⟩ := severs.first
    cases none

/-- A part at the start of an escaped text stands at the start of the text. -/
theorem prefix_of_prefix_flatMap {part : Text} (inside : part ⊆ p)
    (starts : part <+: t.flatMap escape) : part <+: t := by
  induction t generalizing part with
  | nil => exact starts
  | cons c rest ih =>
      rw [List.flatMap_cons] at starts
      rcases severing c with stays | severs
      · cases part with
        | nil => exact List.nil_prefix
        | cons d others =>
            rw [stays] at starts
            obtain ⟨rfl, later⟩ := List.cons_prefix_cons.mp starts
            refine List.cons_prefix_cons.mpr ⟨rfl, ih ?_ later⟩
            exact fun e member => inside (List.mem_cons_of_mem _ member)
      · obtain ⟨d, first, foreign⟩ := severs.first
        obtain ⟨more, replaced⟩ := List.head?_eq_some_iff.mp first
        rw [replaced, List.cons_append] at starts
        rw [eq_nil_of_prefix_foreign foreign inside starts]
        exact List.nil_prefix

/-- A part at the end of an escaped text stands at the end of the text. -/
theorem suffix_of_suffix_flatMap {part : Text} (inside : part ⊆ p)
    (ends : part <:+ t.flatMap escape) : part <:+ t := by
  induction t using List.reverseRecOn generalizing part with
  | nil => exact ends
  | append_singleton rest c ih =>
      rw [List.flatMap_append, List.flatMap_singleton, ← List.reverse_prefix,
        List.reverse_append] at ends
      rw [← List.reverse_prefix, List.reverse_concat]
      rcases severing c with stays | severs
      · rw [stays, List.reverse_singleton, List.singleton_append] at ends
        rcases List.prefix_cons_iff.mp ends with nothing | ⟨others, split, later⟩
        · rw [nothing]
          exact List.nil_prefix
        · rw [split]
          refine List.cons_prefix_cons.mpr ⟨rfl, ?_⟩
          rw [← List.reverse_reverse others, List.reverse_prefix] at later ⊢
          refine ih (fun e member => inside ?_) later
          rw [← List.mem_reverse, split]
          exact List.mem_cons_of_mem _ (List.mem_reverse.mp member)
      · obtain ⟨d, last, foreign⟩ := severs.last
        obtain ⟨more, replaced⟩ := List.getLast?_eq_some_iff.mp last
        rw [replaced, List.reverse_concat, List.cons_append] at ends
        have nothing := eq_nil_of_prefix_foreign foreign
          (fun e member => inside (List.mem_reverse.mp member)) ends
        rw [nothing]
        exact List.nil_prefix

/-- Escaping makes no occurrence. -/
theorem infix_of_infix_flatMap (held : p <:+: s ++ t.flatMap escape) : p <:+: s ++ t := by
  induction t generalizing s with
  | nil => exact held
  | cons c rest ih =>
      rw [List.flatMap_cons] at held
      rcases severing c with stays | severs
      · rw [stays, ← List.append_assoc] at held
        rw [List.append_cons]
        exact ih held
      · rcases severs.infix_across held with before | later
        · exact List.infix_append_of_infix_left before
        · exact List.infix_append_of_infix_right (List.infix_cons (ih (s := []) later))

/-- Escaping brings nothing in that was not there. -/
theorem absent (clear : ¬p <:+: t) : ¬p <:+: t.flatMap escape :=
  fun held => clear (severing.infix_of_infix_flatMap (s := []) held)

end Severing
end ArticleMarkdown.Text
