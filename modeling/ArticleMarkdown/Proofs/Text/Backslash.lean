import ArticleMarkdown.Text.Basic
import Mathlib.Data.List.Induction

/-!
# Backslash escapes

A backslash escapes the punctuation character behind it, unless it is escaped itself: behind a run
of backslashes the next character is escaped if the run is odd (`Text.isArmedAfter_iff`). A text
that ends at an unescaped mark is read back in full exactly when no unescaped mark stands in it and
no backslash waits at its end (`Text.readTo?_eq_iff`).
-/

namespace ArticleMarkdown.Text

/-- ASCII punctuation, which a backslash can escape. -/
def isPunctuation (c : Char) : Bool :=
  let n := c.toNat
  (0x21 ≤ n && n ≤ 0x2F) || (0x3A ≤ n && n ≤ 0x40) || (0x5B ≤ n && n ≤ 0x60) ||
    (0x7B ≤ n && n ≤ 0x7E)

/-- The text with its escapes replaced by what they stand for. -/
def unescape : Text → Text
  | [] => []
  | '\\' :: c :: rest =>
    if isPunctuation c then c :: unescape rest else '\\' :: unescape (c :: rest)
  | c :: rest => c :: unescape rest

/-- The number of backslashes at the end. -/
def finalBackslashes (t : Text) : Nat :=
  (t.reverse.takeWhile (· == '\\')).length

/-- Whether a backslash that is not escaped waits behind a text; `armed` tells whether one waits
before it. -/
def isArmedAfter (armed : Bool) (t : Text) : Bool :=
  t.foldl (fun armed c => c == '\\' && !armed) armed

/-- The text up to the first `mark` that is not escaped, and what follows the mark. Characters in
`refused` may only stand escaped before it. -/
def readTo? (mark : Char) (refused : Char → Bool) (armed : Bool) : Text → Option (Text × Text)
  | [] => none
  | c :: rest =>
    if armed && isPunctuation c then
      (readTo? mark refused false rest).map fun (before, after) => (c :: before, after)
    else if c == mark then some ([], rest)
    else if refused c then none
    else (readTo? mark refused (c == '\\') rest).map fun (before, after) => (c :: before, after)

/-- Whether reading for a mark goes on through the whole text. -/
def isReadOver (mark : Char) (refused : Char → Bool) (armed : Bool) : Text → Bool
  | [] => true
  | c :: rest =>
    (armed && isPunctuation c || c != mark && !refused c) &&
      isReadOver mark refused (c == '\\' && !armed) rest

/-- Nothing is escaped by an empty text. -/
@[simp] theorem isArmedAfter_nil (armed : Bool) : isArmedAfter armed [] = armed := rfl

/-- A backslash arms the next character unless it is escaped itself. -/
@[simp] theorem isArmedAfter_cons (armed : Bool) (c : Char) (t : Text) :
    isArmedAfter armed (c :: t) = isArmedAfter (c == '\\' && !armed) t := rfl

/-- A backslash waits behind an odd number of them. -/
theorem isArmedAfter_iff (t : Text) : isArmedAfter false t = true ↔ finalBackslashes t % 2 = 1 := by
  induction t using List.reverseRecOn with
  | nil => decide
  | append_singleton t c ih =>
      rw [isArmedAfter, List.foldl_append, List.foldl_cons, List.foldl_nil, ← isArmedAfter,
        finalBackslashes, List.reverse_append, List.reverse_singleton, List.singleton_append,
        List.takeWhile_cons]
      by_cases backslash : c = '\\'
      · rw [if_pos (beq_iff_eq.mpr backslash), List.length_cons, ← finalBackslashes,
          beq_iff_eq.mpr backslash, Bool.true_and, Bool.not_eq_true', ← Bool.not_eq_true, ih]
        omega
      · have other : (c == '\\') = false := beq_false_of_ne backslash
        simp [other]

/-- A character is taken as it is behind an even number of backslashes. -/
theorem not_isArmedAfter_iff (t : Text) :
    isArmedAfter false t = false ↔ finalBackslashes t % 2 = 0 := by
  rw [← Bool.not_eq_true, isArmedAfter_iff]
  omega

/-- What a character that is not escaped arms. -/
theorem armed_of_unescaped {armed : Bool} {c : Char}
    (unescaped : (armed && isPunctuation c) = false) : (c == '\\') = (c == '\\' && !armed) := by
  cases armed with
  | false => rw [Bool.not_false, Bool.and_true]
  | true =>
      rw [Bool.true_and] at unescaped
      by_cases backslash : c = '\\'
      · subst backslash
        exact absurd unescaped (by decide)
      · rw [beq_false_of_ne backslash, Bool.false_and]

section Reading

variable {mark : Char} {refused : Char → Bool} {armed : Bool} {t : Text}

/-- Reading goes on behind a text that it does not stop in. -/
theorem readTo?_of_isReadOver (passed : isReadOver mark refused armed t = true) (rest : Text) :
    readTo? mark refused armed (t ++ rest) =
      (readTo? mark refused (isArmedAfter armed t) rest).map fun (before, after) =>
        (t ++ before, after) := by
  induction t generalizing armed with
  | nil => simp
  | cons c t ih =>
      rw [isReadOver, Bool.and_eq_true] at passed
      obtain ⟨here, later⟩ := passed
      rw [List.cons_append, readTo?, isArmedAfter_cons]
      by_cases escaped : (armed && isPunctuation c) = true
      · have armed' : (c == '\\' && !armed) = false := by
          rw [Bool.and_eq_true] at escaped
          rw [escaped.1, Bool.not_true, Bool.and_false]
        rw [armed'] at later ⊢
        rw [if_pos escaped, ih later, Option.map_map]
        rfl
      · rw [Bool.not_eq_true] at escaped
        rw [escaped, Bool.false_or, Bool.and_eq_true, bne_iff_ne, Bool.not_eq_true'] at here
        have other : ¬(c == mark) = true := mt beq_iff_eq.mp here.1
        rw [if_neg (Bool.not_eq_true _ ▸ escaped), if_neg other,
          if_neg (Bool.not_eq_true _ ▸ here.2)]
        conv_lhs => rw [armed_of_unescaped escaped]
        rw [ih later, Option.map_map]
        rfl

/-- Where reading stops within a text, it returns less than the text. -/
theorem length_lt_of_readTo? (stops : isReadOver mark refused armed t = false) {rest : Text}
    {found : Text × Text} (read : readTo? mark refused armed (t ++ rest) = some found) :
    found.1.length < t.length := by
  induction t generalizing armed found with
  | nil => cases stops
  | cons c t ih =>
      rw [List.cons_append, readTo?] at read
      rw [isReadOver, Bool.and_eq_false_iff] at stops
      have further : ∀ armed' : Bool, (c == '\\' && !armed) = armed' →
          ¬(armed && isPunctuation c || c != mark && !refused c) = false →
          (readTo? mark refused armed' (t ++ rest)).map (fun (before, after) =>
            (c :: before, after)) = some found → found.1.length < (c :: t).length := by
        rintro armed' rfl goesOn read
        obtain ⟨later, read', rfl⟩ := Option.map_eq_some_iff.mp read
        exact Nat.succ_lt_succ (ih (stops.resolve_left goesOn) read')
      split at read
      · next escaped =>
        refine further false ?_ ?_ read
        · rw [Bool.and_eq_true] at escaped
          rw [escaped.1, Bool.not_true, Bool.and_false]
        · rw [escaped, Bool.true_or]
          exact Bool.noConfusion
      · next unescaped =>
        rw [Bool.not_eq_true] at unescaped
        split at read
        · cases read
          exact Nat.succ_pos _
        · next other =>
          split at read
          · cases read
          · next allowed =>
            refine further (c == '\\') (armed_of_unescaped unescaped).symm ?_ read
            rw [beq_iff_eq] at other
            rw [Bool.not_eq_true] at allowed
            rw [bne_iff_ne.mpr other, allowed, Bool.or_comm]
            exact Bool.noConfusion

/-- What is read, the mark and what follows it are the text that was read. -/
theorem append_of_readTo? {before after : Text}
    (read : readTo? mark refused armed t = some (before, after)) : t = before ++ mark :: after := by
  fun_induction readTo? mark refused armed t generalizing before with
  | case1 => cases read
  | case2 armed c rest _ ih | case5 armed c rest _ _ _ ih =>
      obtain ⟨⟨later, behind⟩, found, same⟩ := Option.map_eq_some_iff.mp read
      cases same
      exact congrArg (c :: ·) (ih found)
  | case3 armed c rest _ here =>
      cases read
      exact congrArg (· :: after) (beq_iff_eq.mp here)
  | case4 => cases read

/-- A text before a mark is read back exactly when reading stops neither within it nor later. -/
theorem readTo?_eq_iff (punctuation : isPunctuation mark = true) (rest : Text) :
    readTo? mark refused armed (t ++ mark :: rest) = some (t, rest) ↔
      isReadOver mark refused armed t = true ∧ isArmedAfter armed t = false := by
  cases passed : isReadOver mark refused armed t with
  | false =>
      refine iff_of_false (fun read => ?_) (fun both => Bool.noConfusion both.1)
      exact absurd (length_lt_of_readTo? passed read) (Nat.lt_irrefl _)
  | true =>
      rw [readTo?_of_isReadOver passed, readTo?]
      cases waits : isArmedAfter armed t with
      | false => simp
      | true =>
          refine iff_of_false (fun read => ?_) (fun both => Bool.noConfusion both.2)
          rw [if_pos (by rw [punctuation]; rfl), Option.map_map] at read
          obtain ⟨later, -, same⟩ := Option.map_eq_some_iff.mp read
          have shorter := congrArg (fun found : Text × Text => found.1.length) same
          simp at shorter

end Reading

/-- Nothing is escaped in a text without backslashes. -/
theorem unescape_of_notMem {t : Text} (plain : '\\' ∉ t) : unescape t = t := by
  fun_induction unescape t with
  | case1 => rfl
  | case2 c rest _ _ | case3 c rest _ _ => exact absurd List.mem_cons_self plain
  | case4 c rest _ ih => rw [ih (fun member => plain (List.mem_cons_of_mem _ member))]

end ArticleMarkdown.Text
