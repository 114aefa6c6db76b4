import ArticleMarkdown.Text.Numeral
import ArticleMarkdown.Text.Basic
import ArticleMarkdown.Text.Bytes
import Mathlib.Data.List.Basic

/-!
# Decimal numerals

The numeral of a number starts with a digit and holds digits only, and reading it gives the number
back, with any zeros in front (`Text.count?_numeral`). Counting on and on adds the steps
(`Text.countAfter_countAfter`).
-/

namespace ArticleMarkdown.Text

/-- No steps on from a count. -/
theorem countAfter_zero {n : Nat} (bounded : n ≤ largestCount) : countAfter n 0 = n :=
  Nat.mod_eq_of_lt (Nat.lt_succ_of_le bounded)

/-- Steps may be counted at once. -/
theorem countAfter_countAfter (n steps more : Nat) :
    countAfter (countAfter n steps) more = countAfter n (steps + more) := by
  rw [countAfter, countAfter, Nat.mod_add_mod, Nat.add_assoc, countAfter]

/-- Counting on never leaves the range of counts. -/
theorem countAfter_le (n steps : Nat) : countAfter n steps ≤ largestCount :=
  Nat.le_of_lt_succ (Nat.mod_lt _ (Nat.succ_pos _))

/-- Steps that stay within the counts are added. -/
theorem countAfter_of_le {n steps : Nat} (bounded : n + steps ≤ largestCount) :
    countAfter n steps = n + steps :=
  Nat.mod_eq_of_lt (Nat.lt_succ_of_le bounded)

/-- A count that is read is in the range of counts. -/
theorem count?_le {t : Text} {n : Nat} (read : count? t = some n) : n ≤ largestCount := by
  unfold count? at read
  obtain ⟨-, counted⟩ := Option.ite_none_left_eq_some.mp read
  obtain ⟨within, same⟩ := Option.ite_none_right_eq_some.mp counted
  exact Option.some.inj same ▸ within

/-- A numeral is made of digits. -/
theorem isDigit_of_mem_ofNat {n : Nat} {c : Char} (member : c ∈ ofNat n) : c.isDigit :=
  Nat.isDigit_of_mem_toDigits (by omega) (by omega) member

/-- A decimal numeral starts with a digit. -/
theorem ofNat_eq_cons (n : Nat) : ∃ digit rest, ofNat n = digit :: rest ∧ digit.isDigit := by
  cases written : ofNat n with
  | nil => exact absurd written Nat.toDigits_ne_nil
  | cons digit rest =>
      exact ⟨digit, rest, rfl, isDigit_of_mem_ofNat (written ▸ List.mem_cons_self)⟩

/-- A digit is no whitespace. -/
theorem isSpace_of_isDigit {c : Char} (digit : c.isDigit) : isSpace c = false := by
  simp only [Char.isDigit, Bool.and_eq_true, decide_eq_true_eq, ge_iff_le,
    UInt32.le_iff_toNat_le] at digit
  have range : 48 ≤ c.toNat ∧ c.toNat ≤ 57 := digit
  simp only [isSpace, Bool.or_eq_false_iff, Bool.and_eq_false_iff, beq_eq_false_iff_ne,
    decide_eq_false_iff_not]
  omega

/-- A number is told by its numeral. -/
theorem ofNat_injective {m n : Nat} (same : ofNat m = ofNat n) : m = n := by
  have read := congrArg (fun digits => Nat.ofDigitChars 10 digits 0) same
  simpa only [ofNat, Nat.ofDigitChars_ten_toDigits] using read

/-- Two names of the ASCII digits. -/
theorem isAsciiDigit_iff {c : Char} : isAsciiDigit c = true ↔ c.isDigit = true := by
  have le : ∀ a b : Char, a ≤ b ↔ a.val ≤ b.val := fun _ _ => Iff.rfl
  simp [isAsciiDigit, Char.isDigit, le]

/-- Digits are read as a number, if it is not too large; a plus sign may stand in front. -/
theorem count?_of_digits {sign digits : Text} (signed : sign = [] ∨ sign = ['+'])
    (filled : digits ≠ []) (numeric : digits.all isAsciiDigit = true) :
    count? (sign ++ digits) = if Nat.ofDigitChars 10 digits 0 ≤ largestCount then
      some (Nat.ofDigitChars 10 digits 0) else none := by
  have read : digits.foldl (fun n d => n * 10 + (d.toNat - 48)) 0 =
      Nat.ofDigitChars 10 digits 0 := by
    rw [Nat.ofDigitChars_eq_foldl]
    simp only [Nat.mul_comm 10]
    rfl
  have legible : ¬ (digits.isEmpty || !digits.all isAsciiDigit) = true := by
    simp [filled, numeric]
  rcases signed with rfl | rfl
  · rw [List.nil_append]
    unfold count?
    split
    · rw [List.all_cons, Bool.and_eq_true] at numeric
      exact absurd numeric.1 (by decide)
    · rw [if_neg legible, read]
  · rw [← read]
    exact if_neg legible

/-- A numeral, with zeros in front of it. -/
theorem count?_numeral {sign : Text} (signed : sign = [] ∨ sign = ['+']) (zeros : Nat) {n : Nat}
    (bounded : n ≤ largestCount) :
    count? (sign ++ (repeated zeros '0' ++ ofNat n)) = some n := by
  have numeric : (repeated zeros '0' ++ ofNat n).all isAsciiDigit = true := by
    rw [List.all_eq_true]
    intro c member
    rcases List.mem_append.mp member with zero | digit
    · cases List.eq_of_mem_replicate zero
      rfl
    · exact isAsciiDigit_iff.mpr (isDigit_of_mem_ofNat digit)
  have value : Nat.ofDigitChars 10 (repeated zeros '0' ++ ofNat n) 0 = n := by
    rw [Nat.ofDigitChars_append, repeated, Nat.ofDigitChars_replicate_zero, Nat.mul_zero, ofNat,
      Nat.ofDigitChars_ten_toDigits]
  have filled : repeated zeros '0' ++ ofNat n ≠ [] :=
    List.append_ne_nil_of_right_ne_nil _ Nat.toDigits_ne_nil
  rw [count?_of_digits signed filled numeric, value, if_pos bounded]

end ArticleMarkdown.Text
