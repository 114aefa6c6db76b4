import ArticleMarkdown.Markdown.Convert
import ArticleMarkdown.Proofs.Text.Respaced
import ArticleMarkdown.Proofs.Text.Runs

/-!
# Reading inline code

A reader of Markdown ends a code span at the next run of as many backticks as the span starts with,
and takes one space off each end of it if there are two and not all of it is spaces. A fence longer
than every run inside is found again; what is written of inline code is read back as it was exactly
when it holds a backtick or does not both start and end with a space (`Code.inline_read_back_iff`).
-/

namespace ArticleMarkdown

namespace Code

open Text

variable {n run : Nat} {t inner rest : Text}

/-- The longest run is a run of the text, and no run is longer. -/
theorem le_longestRun_iff : n ≤ longestRun t ↔ List.replicate n '`' <:+: t := by
  rw [longestRun, le_foldl_max_iff, Nat.le_zero]
  constructor
  · rintro (rfl | ⟨count, member, within⟩)
    · exact List.nil_infix
    · obtain ⟨piece, found, rfl⟩ := List.mem_map.mp member
      have backticks : ∀ c ∈ piece, c = '`' := fun c inside => by
        simpa using eq_false_of_mem_splitBy found c inside
      exact (run_infix_of_forall backticks within).trans (infix_of_mem_splitBy found)
  · intro held
    have unsplit : ∀ c ∈ List.replicate n '`', (c != '`') = false :=
      List.forall_mem_replicate.mpr (.inr rfl)
    obtain ⟨piece, member, within⟩ := exists_infix_of_splitBy unsplit held
    refine .inr ⟨piece.length, List.mem_map_of_mem member, ?_⟩
    simpa using within.length_le

private theorem longestRun_eq_zero_iff : longestRun t = 0 ↔ '`' ∉ t := by
  rw [← Nat.lt_one_iff, ← Nat.not_le, le_longestRun_iff, List.replicate_one,
    List.singleton_infix_iff]

/-- A run is taken off the start of a text. -/
theorem takeWhile_run (n : Nat) (ended : rest.head? ≠ some '`') :
    (List.replicate n '`' ++ rest).takeWhile (· == '`') = List.replicate n '`' ∧
      (List.replicate n '`' ++ rest).dropWhile (· == '`') = rest := by
  have backticks : ∀ c ∈ List.replicate n '`', (c == '`') = true :=
    List.forall_mem_replicate.mpr (.inr rfl)
  rw [List.takeWhile_append_of_pos backticks, List.dropWhile_append_of_pos backticks]
  cases rest with
  | nil => exact ⟨List.append_nil _, rfl⟩
  | cons c rest =>
      have other : ¬(c == '`') = true := fun same => ended (congrArg some (beq_iff_eq.mp same))
      have stops : (c :: rest).takeWhile (· == '`') = [] := List.takeWhile_cons_of_neg other
      rw [stops, List.append_nil]
      exact ⟨rfl, List.dropWhile_cons_of_neg other⟩

/-- The code up to the next run of exactly `n` backticks, and what stands behind that run; `run`
backticks stand directly before the text. -/
def readClosing? (n run : Nat) : Text → Option (Text × Text)
  | [] => if run = n then some ([], []) else none
  | c :: rest =>
    if c = '`' then readClosing? n (run + 1) rest
    else if run = n then some ([], c :: rest)
    else (readClosing? n 0 rest).map fun (inner, behind) =>
      (List.replicate run '`' ++ c :: inner, behind)

/-- The text without the spaces at its ends, one at each, if both are there and not all of it is
spaces. -/
def stripSpaces (t : Text) : Text :=
  if t.head? = some ' ' ∧ t.getLast? = some ' ' ∧ t.all (· == ' ') = false then t.tail.dropLast
  else t

/-- The code span at the start of a text, and what follows it. -/
def readSpan? (t : Text) : Option (Text × Text) :=
  let n := (t.takeWhile (· == '`')).length
  if n = 0 then none
  else (readClosing? n 0 (t.dropWhile (· == '`'))).map fun (inner, behind) =>
    (stripSpaces inner, behind)

private theorem readClosing?_run (n run k : Nat) (rest : Text) :
    readClosing? n run (List.replicate k '`' ++ rest) = readClosing? n (run + k) rest := by
  induction k generalizing run with
  | zero => rfl
  | succ k ih =>
      rw [List.replicate_succ, List.cons_append, readClosing?, if_pos rfl, ih, Nat.add_assoc,
        Nat.add_comm 1 k]

private theorem readClosing?_closed (n : Nat) (ends : rest.head? ≠ some '`') :
    readClosing? n n rest = some ([], rest) := by
  cases rest with
  | nil => rw [readClosing?, if_pos rfl]
  | cons c rest =>
      have other : c ≠ '`' := fun same => ends (congrArg some same)
      rw [readClosing?, if_neg other, if_pos rfl]

/-- Reading goes on through code without a run of that length, if the run before the code ends in
it. -/
theorem readClosing?_append (absent : ¬List.replicate n '`' <:+: List.replicate run '`' ++ inner)
    (ends : (List.replicate run '`' ++ inner).getLast? ≠ some '`') (rest : Text) :
    readClosing? n run (inner ++ rest) = (readClosing? n 0 rest).map
      fun (later, behind) => (List.replicate run '`' ++ inner ++ later, behind) := by
  induction inner generalizing run with
  | nil =>
      obtain rfl : run = 0 := by
        by_contra some
        rw [List.append_nil, List.getLast?_replicate, if_neg some] at ends
        exact ends rfl
      simp
  | cons c inner ih =>
      rw [List.cons_append, readClosing?]
      by_cases backtick : c = '`'
      · subst backtick
        have longer : List.replicate run '`' ++ '`' :: inner =
            List.replicate (run + 1) '`' ++ inner := by
          rw [List.replicate_succ', List.append_assoc, List.singleton_append]
        rw [longer] at absent ends
        rw [if_pos rfl, ih absent ends, longer]
      · have shorter : run ≠ n := by
          rintro rfl
          exact absent (List.prefix_append _ _).isInfix
        have absent' : ¬List.replicate n '`' <:+: List.replicate 0 '`' ++ inner := fun held =>
          absent (List.infix_append_of_infix_right (List.infix_cons held))
        have ends' : (List.replicate 0 '`' ++ inner).getLast? ≠ some '`' := by
          rintro last
          refine ends ?_
          rw [List.append_cons, List.getLast?_append_of_ne_nil]
          · exact last
          · rintro rfl
            cases last
        rw [if_neg backtick, if_neg shorter, ih absent' ends', Option.map_map]
        refine Option.map_congr fun found _ => ?_
        simp

/-- A span between fences of `n` backticks is read if its code has no run of that length and neither
starts nor ends with a backtick. -/
theorem readSpan?_between (fence : n ≠ 0) (filled : inner ≠ [])
    (absent : ¬List.replicate n '`' <:+: inner) (starts : inner.head? ≠ some '`')
    (ends : inner.getLast? ≠ some '`') (ended : rest.head? ≠ some '`') :
    readSpan? (List.replicate n '`' ++ inner ++ List.replicate n '`' ++ rest) =
      some (stripSpaces inner, rest) := by
  have opening : (inner ++ (List.replicate n '`' ++ rest)).head? ≠ some '`' := by
    rwa [List.head?_append_of_ne_nil _ filled]
  have closed : readClosing? n 0 (inner ++ (List.replicate n '`' ++ rest)) =
    some (inner, rest) := by
    have onward := @readClosing?_append n 0 inner absent ends (List.replicate n '`' ++ rest)
    rw [onward, readClosing?_run, Nat.zero_add, readClosing?_closed n ended]
    simp
  obtain ⟨run, behind⟩ := takeWhile_run n opening
  rw [List.append_assoc, List.append_assoc, readSpan?, run, behind, List.length_replicate,
    if_neg fence, closed]
  rfl

private theorem not_all_space (shown : isBlank t = false) : t.all (· == ' ') = false := by
  rw [← Bool.not_eq_true] at shown ⊢
  refine fun spaces => shown (List.all_eq_true.mpr fun c member => ?_)
  rw [beq_iff_eq.mp (List.all_eq_true.mp spaces c member)]
  rfl

private theorem stripSpaces_spaced (shown : isBlank t = false) :
    stripSpaces (' ' :: (t ++ [' '])) = t := by
  have inked : (' ' :: (t ++ [' '])).all (· == ' ') = false := by
    simp [not_all_space shown]
  have last : (' ' :: (t ++ [' '])).getLast? = some ' ' := by
    rw [← List.cons_append, List.getLast?_concat]
  rw [stripSpaces, if_pos ⟨rfl, last, inked⟩, List.tail_cons, List.dropLast_concat]

private theorem stripSpaces_eq_iff (shown : isBlank t = false) :
    stripSpaces t = t ↔ ¬(t.head? = some ' ' ∧ t.getLast? = some ' ') := by
  rw [stripSpaces]
  split
  · next stripped =>
    refine iff_of_false (fun same => ?_) (not_not_intro ⟨stripped.1, stripped.2.1⟩)
    obtain ⟨later, rfl⟩ := List.head?_eq_some_iff.mp stripped.1
    have shorter := congrArg List.length same
    simp at shorter
  · next kept => exact iff_of_true rfl fun ends => kept ⟨ends.1, ends.2, not_all_space shown⟩

/-- The text with spaces for its line breaks. -/
def unbroken (t : Text) : Text :=
  t.map fun c => if isLineBreak c then ' ' else c

private theorem isBlank_unbroken (t : Text) : isBlank (unbroken t) = isBlank t := by
  rw [isBlank, unbroken, List.all_map]
  refine congrArg (List.all t) (funext fun c => ?_)
  rw [Function.comp_apply]
  split
  · next breaks =>
    rcases Bool.or_eq_true_iff.mp breaks with same | same <;>
      rw [beq_iff_eq.mp same] <;> rfl
  · rfl

/-- A text with backticks is padded with the spaces that a reader takes off. -/
theorem readSpan?_span_of_mem (shown : isBlank t = false) (ticked : '`' ∈ t)
    (ended : rest.head? ≠ some '`') : readSpan? (span t ++ rest) = some (t, rest) := by
  have runs : longestRun t ≠ 0 := mt longestRun_eq_zero_iff.mp (not_not_intro ticked)
  have written : span t = List.replicate (longestRun t + 1) '`' ++ (' ' :: (t ++ [' '])) ++
      List.replicate (longestRun t + 1) '`' := by
    simp [span, runs, repeated]
  have absent : ¬List.replicate (longestRun t + 1) '`' <:+: ' ' :: (t ++ [' ']) := by
    have space : ' ' ∉ List.replicate (longestRun t + 1) '`' := notMem_run (by decide)
    have filled : List.replicate (longestRun t + 1) '`' ≠ [] := List.cons_ne_nil _ _
    have severs := severs_singleton filled space
    rw [← List.singleton_append, severs.infix_behind_iff, severs.infix_before_iff,
      ← le_longestRun_iff]
    exact Nat.not_succ_le_self _
  have starts : (' ' :: (t ++ [' '])).head? ≠ some '`' := by simp
  have ends : (' ' :: (t ++ [' '])).getLast? ≠ some '`' := by
    rw [← List.cons_append, List.getLast?_concat]
    decide
  rw [written, readSpan?_between (Nat.succ_ne_zero _) (List.cons_ne_nil _ _) absent starts ends
    ended, stripSpaces_spaced shown]

/-- A text without backticks is not padded. -/
theorem readSpan?_span_of_notMem (shown : isBlank t = false) (plain : '`' ∉ t)
    (ended : rest.head? ≠ some '`') :
    readSpan? (span t ++ rest) = some (stripSpaces t, rest) := by
  have written : span t = List.replicate 1 '`' ++ t ++ List.replicate 1 '`' := by
    simp [span, longestRun_eq_zero_iff.mpr plain]
  have filled : t ≠ [] := by
    rintro rfl
    cases shown
  have absent : ¬List.replicate 1 '`' <:+: t := by
    rwa [List.replicate_one, List.singleton_infix_iff]
  rw [written]
  exact readSpan?_between Nat.one_ne_zero filled absent (mt List.mem_of_mem_head? plain)
    (mt List.mem_of_getLast? plain) ended

/-- What is written of a text is read back as the text, unless a space is taken off each end. -/
theorem readSpan?_span_iff (shown : isBlank t = false) (ended : rest.head? ≠ some '`') :
    readSpan? (span t ++ rest) = some (t, rest) ↔
      '`' ∈ t ∨ ¬(t.head? = some ' ' ∧ t.getLast? = some ' ') := by
  by_cases ticked : '`' ∈ t
  · exact iff_of_true (readSpan?_span_of_mem shown ticked ended) (.inl ticked)
  · rw [readSpan?_span_of_notMem shown ticked ended, or_iff_right ticked,
      ← stripSpaces_eq_iff shown, Option.some_inj, Prod.mk.injEq, and_iff_left rfl]

/-- Inline code that shows something is read back, with spaces for its line breaks, exactly when it
holds a backtick or does not both start and end with a space. -/
theorem inline_read_back_iff (s : Settings) (centered : Bool) (space : ElementSpace)
    (attributes : List Attribute) {children : List Node}
    (shown : isBlank (Node.textContents children) = false) (ended : rest.head? ≠ some '`')
    (paths : List Text) :
    let t := unbroken (Node.textContents children)
    (draftNode s centered (.element space "code" attributes children)).fill paths =
        Fragment.inlineText (span t) ∧
      (readSpan? (span t ++ rest) = some (t, rest) ↔
        '`' ∈ t ∨ ¬(t.head? = some ' ' ∧ t.getLast? = some ' ')) := by
  intro t
  have shown' : isBlank t = false := (isBlank_unbroken _).trans shown
  refine ⟨?_, readSpan?_span_iff shown' ended⟩
  have rule : Rule.ofName "code" = .inlineCode := rfl
  have written : inline children = Fragment.inlineText (span t) :=
    if_neg (Bool.eq_false_iff.mp shown')
  rw [draftNode, rule]
  exact written

/-- Inline code with spaces at its ends, and backticks between them. -/
def quotedCode : List Node :=
  [.text " `a``\nb ".toList]

/-- Code that starts with a backtick and holds two of them is read back. -/
theorem inline_read_back_iff_quotedCode :
    isBlank (Node.textContents quotedCode) = false ∧ ", c".toList.head? ≠ some '`' ∧
      (draftNode {} false (.element .html "code" [] quotedCode)).fill [] =
        Fragment.inlineText (span " `a`` b ".toList) ∧
      readSpan? (span " `a`` b ".toList ++ ", c".toList) =
        some (" `a`` b ".toList, ", c".toList) := by
  have shown : isBlank (Node.textContents quotedCode) = false := by decide
  have ended : ", c".toList.head? ≠ some '`' := by decide
  obtain ⟨written, read⟩ := inline_read_back_iff {} false .html [] shown ended []
  exact ⟨shown, ended, written, read.mpr (.inl (by decide))⟩

/-- Inline code with spaces at its ends, and no backticks. -/
def spacedCode : List Node :=
  [.text " a ".toList]

/-- Code between spaces is written without padding, and is read back without its spaces. -/
theorem inline_spacedCode_loses_spaces :
    isBlank (Node.textContents spacedCode) = false ∧
      (draftNode {} false (.element .html "code" [] spacedCode)).fill [] =
        Fragment.inlineText "` a `".toList ∧
      readSpan? "` a `".toList = some ("a".toList, []) ∧
      unbroken (Node.textContents spacedCode) ≠ "a".toList := by
  decide

end Code
end ArticleMarkdown
