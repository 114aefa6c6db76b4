import ArticleMarkdown.Text.Basic
import Mathlib.Data.List.Basic

/-!
# Pieces of texts

A text is its pieces joined with the mark that it is split on.
-/

namespace ArticleMarkdown.Text

attribute [local simp] splitBy

/-- Splitting gives one piece at least. -/
theorem splitBy_ne_nil (p : Char → Bool) (t : Text) : splitBy p t ≠ [] := by
  fun_induction splitBy p t with
  | case1 => exact List.cons_ne_nil _ _
  | case2 => exact List.cons_ne_nil _ _
  | case3 => exact List.cons_ne_nil _ _
  | case4 => exact List.cons_ne_nil _ _

/-- The pieces have a first one. -/
theorem splitOn_eq_cons (mark : Char) (t : Text) :
    ∃ first others, splitOn mark t = first :: others :=
  List.exists_cons_of_ne_nil (splitBy_ne_nil _ t)

/-- Splitting at a mark that is given. -/
theorem splitOn_append_cons (mark : Char) (s t : Text) :
    splitOn mark (s ++ mark :: t) = splitOn mark s ++ splitOn mark t := by
  induction s with
  | nil => simp [splitOn]
  | cons c rest ih =>
      simp only [splitOn] at ih
      simp only [splitOn, List.cons_append, splitBy]
      split
      · rw [ih, List.cons_append]
      · cases pieces : splitBy (· == mark) rest with
        | nil => exact absurd pieces (splitBy_ne_nil _ _)
        | cons piece others => rw [ih, pieces, List.cons_append, List.cons_append]

/-- A text without the mark is one piece. -/
theorem splitOn_of_notMem {mark : Char} {t : Text} (absent : mark ∉ t) : splitOn mark t = [t] := by
  induction t with
  | nil => rfl
  | cons c rest ih =>
      rw [List.mem_cons, not_or] at absent
      have other : (c == mark) = false := beq_false_of_ne fun same => absent.1 same.symm
      have below := ih absent.2
      simp only [splitOn] at below
      simp only [splitOn, splitBy, other, below, Bool.false_eq_true, if_false]

/-- The pieces together are the text without the separators. -/
theorem flatten_splitBy (p : Char → Bool) (t : Text) :
    (splitBy p t).flatten = t.filter fun c => !p c := by
  fun_induction splitBy p t with
  | case1 => rfl
  | case2 c rest split ih => simp [ih, split]
  | case3 c rest split nothing ih =>
      rw [nothing] at ih
      simp [split, ← ih]
  | case4 c rest split piece pieces found ih =>
      rw [found] at ih
      simp [split, ← ih]

/-- A piece holds no separator. -/
theorem eq_false_of_mem_splitBy {p : Char → Bool} {t piece : Text} (member : piece ∈ splitBy p t) :
    ∀ c ∈ piece, p c = false := by
  intro c inside
  have kept : c ∈ (splitBy p t).flatten := List.mem_flatten.mpr ⟨piece, member, inside⟩
  rw [flatten_splitBy] at kept
  simpa using (List.mem_filter.mp kept).2

/-- A piece does not hold the mark. -/
theorem mark_notMem_of_mem_splitOn {mark : Char} {t piece : Text}
    (member : piece ∈ splitOn mark t) :
    mark ∉ piece :=
  fun inside => by simpa using eq_false_of_mem_splitBy member mark inside

/-- The first piece stands at the start. -/
theorem prefix_of_splitBy {p : Char → Bool} {t first : Text} {others : List Text}
    (pieces : splitBy p t = first :: others) : first <+: t := by
  fun_induction splitBy p t generalizing first others with
  | case1 =>
      cases pieces
      exact List.nil_prefix
  | case2 c rest _ ih =>
      cases pieces
      exact List.nil_prefix
  | case3 c rest _ none => exact absurd none (splitBy_ne_nil p rest)
  | case4 c rest _ piece _ split ih =>
      cases pieces
      exact List.cons_prefix_cons.mpr ⟨rfl, ih split⟩

/-- A piece is a part of the text. -/
theorem infix_of_mem_splitBy {p : Char → Bool} {t piece : Text} (member : piece ∈ splitBy p t) :
    piece <:+: t := by
  fun_induction splitBy p t with
  | case1 =>
      cases List.mem_singleton.mp member
      exact List.nil_infix
  | case2 c rest _ ih =>
      rcases List.mem_cons.mp member with rfl | later
      · exact List.nil_infix
      · exact List.infix_cons (ih later)
  | case3 c rest _ none => exact absurd none (splitBy_ne_nil p rest)
  | case4 c rest _ first others split ih =>
      rcases List.mem_cons.mp member with rfl | later
      · exact (List.cons_prefix_cons.mpr ⟨rfl, prefix_of_splitBy split⟩).isInfix
      · rw [split] at ih
        exact List.infix_cons (ih (List.mem_cons_of_mem _ later))

section Unsplit

variable {p : Char → Bool} {s t : Text} (unsplit : ∀ c ∈ s, p c = false)
include unsplit

private theorem prefix_first_of_splitBy {first : Text} {others : List Text} (starts : s <+: t)
    (pieces : splitBy p t = first :: others) : s <+: first := by
  fun_induction splitBy p t generalizing s first others with
  | case1 => exact List.prefix_nil.mp starts ▸ List.nil_prefix
  | case2 c rest split ih =>
      cases s with
      | nil => exact List.nil_prefix
      | cons d s =>
          obtain ⟨rfl, -⟩ := List.cons_prefix_cons.mp starts
          exact absurd split (Bool.eq_false_iff.mp (unsplit d List.mem_cons_self))
  | case3 c rest _ none => exact absurd none (splitBy_ne_nil p rest)
  | case4 c rest _ piece _ split ih =>
      cases pieces
      cases s with
      | nil => exact List.nil_prefix
      | cons d s =>
          obtain ⟨rfl, later⟩ := List.cons_prefix_cons.mp starts
          exact List.cons_prefix_cons.mpr
            ⟨rfl, ih (fun e member => unsplit e (List.mem_cons_of_mem _ member)) later split⟩

/-- What holds no character that splits lies in one piece. -/
theorem exists_infix_of_splitBy (held : s <:+: t) : ∃ piece ∈ splitBy p t, s <:+: piece := by
  fun_induction splitBy p t with
  | case1 => exact ⟨[], List.mem_cons_self, held⟩
  | case2 c rest split ih =>
      rcases List.infix_cons_iff.mp held with starts | later
      · cases s with
        | nil => exact ⟨[], List.mem_cons_self, List.nil_infix⟩
        | cons d s =>
            obtain ⟨rfl, -⟩ := List.cons_prefix_cons.mp starts
            exact absurd split (Bool.eq_false_iff.mp (unsplit d List.mem_cons_self))
      · obtain ⟨piece, member, within⟩ := ih later
        exact ⟨piece, List.mem_cons_of_mem _ member, within⟩
  | case3 c rest _ none => exact absurd none (splitBy_ne_nil p rest)
  | case4 c rest whole first others split ih =>
      rcases List.infix_cons_iff.mp held with starts | later
      · have pieces : splitBy p (c :: rest) = (c :: first) :: others := by
          rw [splitBy, if_neg whole, split]
        exact ⟨c :: first, List.mem_cons_self,
          (prefix_first_of_splitBy unsplit starts pieces).isInfix⟩
      · obtain ⟨piece, member, within⟩ := ih later
        rw [split] at member
        rcases List.mem_cons.mp member with rfl | behind
        · exact ⟨c :: piece, List.mem_cons_self, List.infix_cons within⟩
        · exact ⟨piece, List.mem_cons_of_mem _ behind, within⟩

end Unsplit

/-- The first separator parts a text whose start has none. -/
theorem splitFirst?_append {separator : Char} {s t : Text} (absent : separator ∉ s) :
    splitFirst? separator (s ++ separator :: t) = some (s, t) := by
  induction s with
  | nil => rw [List.nil_append, splitFirst?, if_pos (beq_self_eq_true separator)]
  | cons c s ih =>
      rw [List.mem_cons, not_or] at absent
      have other : ¬(c == separator) = true := by simpa using Ne.symm absent.1
      rw [List.cons_append, splitFirst?, if_neg other, ih absent.2, Option.map_some]

/-- A text without the separator has no parts. -/
theorem splitFirst?_of_notMem {separator : Char} {t : Text} (absent : separator ∉ t) :
    splitFirst? separator t = none := by
  induction t with
  | nil => rfl
  | cons c t ih =>
      rw [List.mem_cons, not_or] at absent
      have other : ¬(c == separator) = true := by simpa using Ne.symm absent.1
      rw [splitFirst?, if_neg other, ih absent.2, Option.map_none]

/-- The last separator parts a text whose end has none. -/
theorem splitLast?_append {separator : Char} {t : Text} (absent : separator ∉ t) (s : Text) :
    splitLast? separator (s ++ separator :: t) = some (s, t) := by
  have reversed : (s ++ separator :: t).reverse = t.reverse ++ separator :: s.reverse := by simp
  rw [splitLast?, reversed, splitFirst?_append (mt List.mem_reverse.mp absent), Option.map_some]
  simp only [List.reverse_reverse]

/-- A text without the separator has no last part. -/
theorem splitLast?_of_notMem {separator : Char} {t : Text} (absent : separator ∉ t) :
    splitLast? separator t = none := by
  rw [splitLast?, splitFirst?_of_notMem (mt List.mem_reverse.mp absent), Option.map_none]

/-- What is dropped and what is left make up the text. -/
theorem append_of_dropPrefix? {start t rest : Text} (dropped : dropPrefix? start t = some rest) :
    t = start ++ rest := by
  fun_induction dropPrefix? start t with
  | case1 t =>
      cases dropped
      rfl
  | case2 => cases dropped
  | case3 a start c t same ih => rw [ih dropped, beq_iff_eq.mp same, List.cons_append]
  | case4 => cases dropped

/-- A start is dropped off a text that has it. -/
theorem dropPrefix?_append (start rest : Text) : dropPrefix? start (start ++ rest) = some rest := by
  induction start with
  | nil => rfl
  | cons c start ih => rw [List.cons_append, dropPrefix?, if_pos (beq_self_eq_true c), ih]

/-- Dropping a start succeeds for the texts that have it. -/
theorem dropPrefix?_eq_some_iff {start t rest : Text} :
    dropPrefix? start t = some rest ↔ t = start ++ rest := by
  refine ⟨append_of_dropPrefix?, ?_⟩
  rintro rfl
  exact dropPrefix?_append start rest

/-- To start with a text is to have it as a prefix. -/
theorem startsWith_iff {start t : Text} : startsWith start t = true ↔ start <+: t := by
  rw [startsWith, Option.isSome_iff_exists]
  exact exists_congr fun rest => dropPrefix?_eq_some_iff.trans eq_comm

/-- A piece in front of others is followed by the separator. -/
theorem join_cons_of_ne_nil (separator piece : Text) {pieces : List Text} (filled : pieces ≠ []) :
    join separator (piece :: pieces) = piece ++ separator ++ join separator pieces := by
  cases pieces with
  | nil => exact absurd rfl filled
  | cons next others => rfl

/-- Splitting and joining at one mark gives the text back. -/
theorem join_splitOn (mark : Char) (t : Text) : join [mark] (splitOn mark t) = t := by
  induction t with
  | nil => rfl
  | cons c rest ih =>
      have filled := splitBy_ne_nil (· == mark) rest
      simp only [splitOn] at ih
      simp only [splitOn, splitBy]
      split
      · next same =>
        rw [join_cons_of_ne_nil _ _ filled, ih, beq_iff_eq.mp same]
        rfl
      · cases pieces : splitBy (· == mark) rest with
        | nil => exact absurd pieces filled
        | cons piece others =>
            rw [pieces] at ih
            rw [← ih]
            cases others <;> rfl

/-- The pieces are found in the joined text, one after another. -/
theorem flatten_sublist_join (separator : Text) (pieces : List Text) :
    pieces.flatten.Sublist (join separator pieces) := by
  fun_induction join separator pieces with
  | case1 => exact List.Sublist.refl _
  | case2 piece => simp
  | case3 piece pieces _ ih =>
      exact (List.sublist_append_left piece separator).append ih

/-- The joined text starts with the first piece. -/
theorem prefix_join (separator piece : Text) (others : List Text) :
    piece <+: join separator (piece :: others) := by
  cases others with
  | nil => exact List.prefix_refl _
  | cons other rest =>
      rw [join_cons_of_ne_nil _ _ (List.cons_ne_nil _ _), List.append_assoc]
      exact List.prefix_append _ _

/-- Each piece is a part of the joined text. -/
theorem infix_join {piece : Text} {pieces : List Text} (member : piece ∈ pieces)
    (separator : Text) : piece <:+: join separator pieces := by
  fun_induction join separator pieces with
  | case1 => cases member
  | case2 only =>
      cases List.mem_singleton.mp member
      exact List.infix_refl _
  | case3 first others _ ih =>
      rcases List.mem_cons.mp member with rfl | later
      · exact (List.prefix_append _ _).isInfix.trans (List.prefix_append _ _).isInfix
      · exact List.infix_append_of_infix_right (ih later)

/-- The last of some pieces and the first of others may stand together. -/
theorem join_append_join (separator : Text) (before : List Text) (last first : Text)
    (after : List Text) :
    join separator (before ++ [last]) ++ join separator (first :: after) =
      join separator (before ++ (last ++ first) :: after) := by
  induction before with
  | nil => cases after <;> simp [join]
  | cons piece rest ih =>
      have filled : ∀ (middle : Text) (others : List Text), rest ++ middle :: others ≠ [] :=
        fun middle others => List.append_ne_nil_of_right_ne_nil rest (List.cons_ne_nil _ _)
      rw [List.cons_append, List.cons_append, join_cons_of_ne_nil _ _ (filled _ []),
        join_cons_of_ne_nil _ _ (filled _ after), List.append_assoc, ih]

/-- A character of the joined text is one of the separator or of a piece. -/
theorem mem_join {separator : Text} {pieces : List Text} {c : Char}
    (member : c ∈ join separator pieces) : c ∈ separator ∨ ∃ piece ∈ pieces, c ∈ piece := by
  fun_induction join separator pieces with
  | case1 => cases member
  | case2 piece => exact .inr ⟨piece, List.mem_cons_self, member⟩
  | case3 piece others _ ih =>
      rcases List.mem_append.mp member with first | later
      · rcases List.mem_append.mp first with own | between
        · exact .inr ⟨piece, List.mem_cons_self, own⟩
        · exact .inl between
      · rcases ih later with between | ⟨other, within, inside⟩
        · exact .inl between
        · exact .inr ⟨other, List.mem_cons_of_mem piece within, inside⟩

private theorem splitBy_of_unsplit {p : Char → Bool} {t : Text} (unsplit : ∀ c ∈ t, p c = false) :
    splitBy p t = [t] := by
  induction t with
  | nil => rfl
  | cons c rest ih =>
      have own : ¬p c = true := Bool.eq_false_iff.mp (unsplit c List.mem_cons_self)
      rw [splitBy, if_neg own, ih fun d member => unsplit d (List.mem_cons_of_mem c member)]

/-- Splitting behind a part without separators. -/
theorem splitBy_append_cons {p : Char → Bool} {mark : Char} (splits : p mark = true) {s : Text}
    (unsplit : ∀ c ∈ s, p c = false) (t : Text) :
    splitBy p (s ++ mark :: t) = s :: splitBy p t := by
  induction s with
  | nil => rw [List.nil_append, splitBy, if_pos splits]
  | cons c s ih =>
      have own : ¬p c = true := Bool.eq_false_iff.mp (unsplit c List.mem_cons_self)
      rw [List.cons_append, splitBy, if_neg own,
        ih fun d member => unsplit d (List.mem_cons_of_mem c member)]

/-- Pieces without separators are found again when the joined text is split. -/
theorem splitBy_join {p : Char → Bool} {mark : Char} (splits : p mark = true) {pieces : List Text}
    (filled : pieces ≠ []) (unsplit : ∀ piece ∈ pieces, ∀ c ∈ piece, p c = false) :
    splitBy p (join [mark] pieces) = pieces := by
  fun_induction join [mark] pieces with
  | case1 => exact absurd rfl filled
  | case2 piece => exact splitBy_of_unsplit (unsplit piece List.mem_cons_self)
  | case3 piece others more ih =>
      rw [List.append_assoc, List.singleton_append,
        splitBy_append_cons splits (unsplit piece List.mem_cons_self),
        ih more fun other member => unsplit other (List.mem_cons_of_mem piece member)]

end ArticleMarkdown.Text
