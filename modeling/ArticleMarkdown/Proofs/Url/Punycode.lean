import ArticleMarkdown.Proofs.Text.Split
import ArticleMarkdown.Url.Domain.Punycode
import Mathlib.Data.List.Sort
import Mathlib.Tactic.Ring

/-!
# Labels that are read back

The writer counts insertions that it skips, the reader turns the count into a character and a place.
While the writer passes a label, the reader of what is written so far holds the characters of the
label that are placed, in their order, and lags behind by the count of the writer (`Follows`). So
reading a written label gives the label back (`decode?_encode`).
-/

namespace ArticleMarkdown

open Text

namespace Url.Punycode

variable {label before rest : List Nat} {code least : Nat} {w : Writer} {r first : Reader}

/-! ## Numbers -/

private theorem threshold_le (place bias : Nat) : threshold place bias ≤ 26 := by
  unfold threshold
  split
  · omega
  · split <;> omega

private theorem digitValue?_digit {value : Nat} (small : value < base) :
    digitValue? (digit value) = some value := by
  have every : ∀ v ∈ List.range 36, digitValue? (digit v) = some v := by decide
  exact every value (List.mem_range.mpr small)

/-- The characters that numbers are written with. -/
def digits : List Char :=
  (List.range base).map digit

private theorem digit_mem_digits {value : Nat} (small : value < base) : digit value ∈ digits :=
  List.mem_map_of_mem (List.mem_range.mpr small)

private theorem mem_digits_of_mem_writeNumber (bias place n : Nat) :
    ∀ c ∈ writeNumber bias place n, c ∈ digits := by
  fun_induction writeNumber bias place n with
  | case1 place n t last =>
      have bound : t ≤ 26 := threshold_le place bias
      exact List.forall_mem_singleton.mpr (digit_mem_digits (by rw [base]; omega))
  | case2 place n t further ih =>
      have bound : t ≤ 26 := threshold_le place bias
      refine List.forall_mem_cons.mpr ⟨digit_mem_digits ?_, ih⟩
      have small := Nat.mod_lt (n - t) (show 0 < base - t by rw [base]; omega)
      omega

/-- Reading a number moves the reader forward by its weight. -/
theorem run?_writeNumber (n : Nat) (r : Reader) (rest : Text) :
    r.run? (writeNumber r.bias r.place n ++ rest) =
      (Reader.insert? { r with position := r.position + n * r.weight }).bind (·.run? rest) := by
  induction n using Nat.strong_induction_on generalizing r with
  | _ n ih =>
      have positive := threshold_pos r.place r.bias
      have bound := threshold_le r.place r.bias
      rw [writeNumber]
      set t := threshold r.place r.bias with threshold
      by_cases last : n < t
      · rw [if_pos last, List.singleton_append, Reader.run?,
          digitValue?_digit (by rw [base]; omega), Option.bind_some]
        simp only [← threshold, if_pos last]
      · have wide : 0 < base - t := by rw [base]; omega
        have small := Nat.mod_lt (n - t) wide
        have fewer : (n - t) / (base - t) < n := by
          have := Nat.div_le_self (n - t) (base - t)
          omega
        have total : t + (n - t) % (base - t) + (base - t) * ((n - t) / (base - t)) = n := by
          have := Nat.mod_add_div (n - t) (base - t)
          omega
        rw [if_neg last, List.cons_append, Reader.run?, digitValue?_digit (by omega),
          Option.bind_some]
        simp only [← threshold, if_neg (show ¬t + (n - t) % (base - t) < t by omega)]
        rw [ih _ fewer
          { r with
            position := r.position + (t + (n - t) % (base - t)) * r.weight
            place := r.place + base
            weight := r.weight * (base - t) }]
        have moved : r.position + (t + (n - t) % (base - t)) * r.weight +
            (n - t) / (base - t) * (r.weight * (base - t)) = r.position + n * r.weight := by
          conv_rhs => rw [← total]
          ring
        simp only [moved]
        -- Where a character is placed does not depend on the place and the weight of the last
        -- digit.
        rfl

/-! ## The writer and the reader -/

/-- The reader of what a writer has written, between two numbers. It lags behind the writer, which
is at `index` among the placed characters while those equal to `code` are placed. -/
structure Follows (first : Reader) (code index : Nat) (w : Writer) (r : Reader) : Prop where
  same : ∀ rest, first.run? (w.written ++ rest) = r.run? rest
  placed : w.placed = r.label.length
  bias : w.bias = r.bias
  isFirst : w.isFirst = (r.start == 0)
  start : r.start = r.position
  place : r.place = base
  weight : r.weight = 1
  lag : code * (r.label.length + 1) + index = r.code * (r.label.length + 1) + r.position + w.delta

/-- Placing the next character. -/
theorem Follows.insert {index : Nat} (follows : Follows first code index w r)
    (valid : code.isValidChar) (inside : index ≤ r.label.length) :
    ∃ r', Follows first code (index + 1)
      { delta := 0
        bias := adapt w.delta (w.placed + 1) w.isFirst
        placed := w.placed + 1
        isFirst := false
        written := w.written ++ writeNumber w.bias base w.delta } r' ∧
      r'.label = r.label.take index ++ code :: r.label.drop index := by
  obtain ⟨same, placed, bias, isFirst, start, place, weight, lag⟩ := follows
  have total : r.position + w.delta + (r.label.length + 1) * r.code =
      index + (r.label.length + 1) * code := by
    rw [Nat.mul_comm _ code, Nat.mul_comm _ r.code]
    omega
  have behind : r.code ≤ code := by
    by_contra ahead
    have := Nat.mul_le_mul_left (r.label.length + 1) (show code + 1 ≤ r.code by omega)
    rw [Nat.mul_add] at this
    omega
  obtain ⟨gap, rfl⟩ := Nat.exists_eq_add_of_le behind
  have moved : r.position + w.delta = index + (r.label.length + 1) * gap := by
    rw [Nat.mul_add] at total
    omega
  have quotient : (r.position + w.delta) / (r.label.length + 1) = gap := by
    rw [moved, Nat.add_mul_div_left _ _ (Nat.succ_pos _), Nat.div_eq_of_lt (by omega), Nat.zero_add]
  have remainder : (r.position + w.delta) % (r.label.length + 1) = index := by
    rw [moved, Nat.add_mul_mod_self_left, Nat.mod_eq_of_lt (by omega)]
  have inserted : Reader.insert? { r with position := r.position + w.delta * r.weight } =
      some
        { label := r.label.take index ++ (r.code + gap) :: r.label.drop index
          code := r.code + gap
          position := index + 1
          start := index + 1
          bias := adapt w.delta (w.placed + 1) w.isFirst } := by
    rw [weight, Nat.mul_one, Reader.insert?]
    simp only [quotient, remainder, start, isFirst, placed, Nat.add_sub_cancel_left,
      show (r.code + gap).isValidChar from valid, decide_true, Bool.not_true, Bool.false_eq_true,
      if_false]
  have longer : (r.label.take index ++ (r.code + gap) :: r.label.drop index).length =
      r.label.length + 1 := by
    simp only [List.length_append, List.length_cons, List.length_take, List.length_drop]
    omega
  refine ⟨
    { label := r.label.take index ++ (r.code + gap) :: r.label.drop index
      code := r.code + gap
      position := index + 1
      start := index + 1
      bias := adapt w.delta (w.placed + 1) w.isFirst },
    ⟨fun rest => ?_, ?_, rfl, rfl, rfl, rfl, rfl, rfl⟩, rfl⟩
  · have number : writeNumber w.bias base w.delta = writeNumber r.bias r.place w.delta := by
      rw [bias, place]
    rw [List.append_assoc, same, number, run?_writeNumber, inserted, Option.bind_some]
  · rw [longer, placed]

private theorem Follows.skip {index : Nat} (follows : Follows first code index w r) :
    Follows first code (index + 1) { w with delta := w.delta + 1 } r :=
  { follows with
    lag := by
      have := follows.lag
      simp only
      omega }

/-- The characters that are placed after a part of a label is passed. -/
def placedCodes (code : Nat) (before rest : List Nat) : List Nat :=
  before.filter (· ≤ code) ++ rest.filter (· < code)

/-- Passing a part of a label places its characters equal to `code`. -/
theorem Follows.pass (valid : code.isValidChar) (rest before : List Nat)
    (follows : Follows first code (before.filter (· ≤ code)).length w r)
    (known : r.label = placedCodes code before rest) :
    ∃ r', Follows first code ((before ++ rest).filter (· ≤ code)).length
      (rest.foldl (Writer.pass code) w) r' ∧ r'.label = (before ++ rest).filter (· ≤ code) := by
  induction rest generalizing before w r with
  | nil =>
      rw [placedCodes, List.filter_nil, List.append_nil] at known
      rw [List.append_nil]
      exact ⟨r, follows, known⟩
  | cons other rest ih =>
      rw [List.foldl_cons]
      have passed : before ++ other :: rest = (before ++ [other]) ++ rest := by simp
      rw [passed]
      rcases Nat.lt_trichotomy other code with smaller | rfl | greater
      · have longer : (before ++ [other]).filter (· ≤ code) =
          before.filter (· ≤ code) ++ [other] := by
          simp [smaller.le]
        refine ih (before ++ [other]) (w := Writer.pass code w other) (r := r) ?_ ?_
        · rw [Writer.pass, if_pos smaller, longer, List.length_append]
          exact follows.skip
        · rw [known, placedCodes, placedCodes, longer]
          simp [smaller]
      · have longer : (before ++ [other]).filter (· ≤ other) =
          before.filter (· ≤ other) ++ [other] := by
          simp
        have known' : r.label = before.filter (· ≤ other) ++ rest.filter (· < other) := by
          rw [known, placedCodes]
          simp
        have inside : (before.filter (· ≤ other)).length ≤ r.label.length := by
          rw [known', List.length_append]
          omega
        obtain ⟨r', follows', label'⟩ := follows.insert valid inside
        refine ih (before ++ [other]) (w := Writer.pass other w other) (r := r') ?_ ?_
        · rw [Writer.pass, if_neg (Nat.lt_irrefl other), if_pos rfl, longer, List.length_append]
          exact follows'
        · rw [label', known', List.take_left, List.drop_left, placedCodes, longer]
          simp
      · have same : (before ++ [other]).filter (· ≤ code) = before.filter (· ≤ code) := by
          simp [greater]
        refine ih (before ++ [other]) (w := Writer.pass code w other) (r := r) ?_ ?_
        · rw [Writer.pass, if_neg (by omega), if_neg (by omega), same]
          exact follows
        · rw [known, placedCodes, placedCodes, same]
          simp [greater.le]

/-- After a pass, the characters equal to the next code are those to be placed. -/
theorem Follows.next (follows : Follows first code r.label.length w r) :
    Follows first (code + 1) 0 { w with delta := w.delta + 1 } r :=
  { follows with
    lag := by
      have := follows.lag
      rw [Nat.add_mul]
      simp only
      omega }

/-- Codes without characters are skipped at once. -/
theorem Follows.raise (follows : Follows first least 0 w r) (above : least ≤ code) :
    Follows first code 0 { w with delta := w.delta + (code - least) * (w.placed + 1) } r :=
  { follows with
    lag := by
      have lag := follows.lag
      obtain ⟨gap, rfl⟩ := Nat.exists_eq_add_of_le above
      simp only [Nat.add_sub_cancel_left, follows.placed, Nat.add_mul]
      omega }

/-- The whole label is read when the characters `codes` are all that were not yet placed. -/
theorem Follows.run (valid : ∀ c ∈ label, c.isValidChar) {codes : List Nat}
    (rising : codes.Pairwise (· < ·)) (members : ∀ c, c ∈ codes ↔ c ∈ label ∧ least ≤ c)
    (follows : Follows first least 0 w r) (known : r.label = label.filter (· < least)) :
    first.run? (writeFrom label least w codes) = some label := by
  induction codes generalizing least w r with
  | nil =>
      have whole : r.label = label := by
        refine known.trans (List.filter_eq_self.mpr fun c member => ?_)
        have small : ¬least ≤ c := fun large => List.not_mem_nil ((members c).mpr ⟨member, large⟩)
        exact decide_eq_true (Nat.lt_of_not_le small)
      have read := follows.same []
      rw [List.append_nil] at read
      rw [writeFrom, read, Reader.run?, if_pos follows.weight, whole]
  | cons code codes ih =>
      obtain ⟨smallest, rising⟩ := List.pairwise_cons.mp rising
      obtain ⟨member, above⟩ := (members code).mp List.mem_cons_self
      have gap : label.filter (· < least) = label.filter (· < code) := by
        refine List.filter_congr fun c within =>
          decide_eq_decide.mpr ⟨fun small => by omega, fun less => ?_⟩
        by_contra large
        rcases List.mem_cons.mp ((members c).mpr ⟨within, by omega⟩) with rfl | later
        · omega
        · have := smallest c later
          omega
      obtain ⟨r', follows', label'⟩ := (follows.raise above).pass (valid code member) label []
        (known.trans gap)
      rw [List.nil_append] at follows' label'
      rw [← label'] at follows'
      refine ih rising (fun c => ?_) follows'.next ?_
      · constructor
        · intro later
          exact ⟨((members c).mp (List.mem_cons_of_mem _ later)).1, smallest c later⟩
        · rintro ⟨within, larger⟩
          rcases List.mem_cons.mp ((members c).mpr ⟨within, by omega⟩) with rfl | later
          · omega
          · exact later
      · rw [label']
        exact List.filter_congr fun c _ => decide_eq_decide.mpr Nat.lt_succ_iff.symm

/-! ## The characters of a label by rising code points -/

private theorem eraseReps_loop {a : Nat} {l : List Nat} (sorted : (a :: l).Pairwise (· ≤ ·))
    (acc : List Nat) :
    ∃ kept, List.eraseRepsBy.loop (· == ·) a l acc = acc.reverse ++ kept ∧
      kept.Pairwise (· < ·) ∧ ∀ c, c ∈ kept ↔ c ∈ a :: l := by
  induction l generalizing a acc with
  | nil =>
      exact ⟨[a], List.reverse_cons, List.pairwise_singleton _ _, fun c => Iff.rfl⟩
  | cons b l ih =>
      obtain ⟨least, sorted'⟩ := List.pairwise_cons.mp sorted
      rw [List.eraseRepsBy.loop]
      by_cases same : a = b
      · subst same
        obtain ⟨kept, looped, rising, members⟩ := ih sorted' acc
        refine ⟨kept, ?_, rising, fun c => (members c).trans (by simp)⟩
        rw [beq_self_eq_true]
        exact looped
      · obtain ⟨kept, looped, rising, members⟩ := ih sorted' (a :: acc)
        have below := least b List.mem_cons_self
        refine ⟨a :: kept, ?_, List.pairwise_cons.mpr ⟨fun c member => ?_, rising⟩, fun c => ?_⟩
        · rw [beq_eq_false_iff_ne.mpr same]
          simpa using looped
        · rcases List.mem_cons.mp ((members c).mp member) with rfl | later
          · omega
          · have := (List.pairwise_cons.mp sorted').1 c later
            omega
        · rw [List.mem_cons, List.mem_cons, members]

/-- Without repetitions, a sorted list rises. -/
theorem eraseReps_rising {l : List Nat} (sorted : l.Pairwise (· ≤ ·)) :
    l.eraseReps.Pairwise (· < ·) ∧ ∀ c, c ∈ l.eraseReps ↔ c ∈ l := by
  cases l with
  | nil => exact ⟨.nil, fun c => Iff.rfl⟩
  | cons a l =>
      obtain ⟨kept, looped, rising⟩ := eraseReps_loop sorted []
      have same : (a :: l).eraseReps = kept := looped
      exact same ▸ rising

/-! ## Labels -/

private theorem mem_digits_of_mem_writeFrom (label : List Nat) (least : Nat) {w : Writer}
    (codes : List Nat)
    (written : ∀ c ∈ w.written, c ∈ digits) : ∀ c ∈ writeFrom label least w codes, c ∈ digits := by
  have pass (code : Nat) (rest : List Nat) {w : Writer} (written : ∀ c ∈ w.written, c ∈ digits) :
      ∀ c ∈ (rest.foldl (Writer.pass code) w).written, c ∈ digits := by
    induction rest generalizing w with
    | nil => exact written
    | cons other rest ih =>
        refine ih ?_
        unfold Writer.pass
        split
        · exact written
        · split
          · exact List.forall_mem_append.mpr ⟨written, mem_digits_of_mem_writeNumber _ _ _⟩
          · exact written
  induction codes generalizing least w with
  | nil => exact written
  | cons code codes ih => exact ih (code + 1) (pass code label written)

/-- What holds of the ASCII characters of a label, of the dash and of the digits holds of its ASCII
text. -/
theorem forall_mem_encode {p : Char → Prop}
    (ascii : ∀ code ∈ label, code < firstCode → p (Char.ofNat code))
    (dash : p '-') (digit : ∀ c ∈ digits, p c) : ∀ c ∈ encode label, p c := by
  refine List.forall_mem_append.mpr ⟨List.forall_mem_append.mpr ⟨?_, ?_⟩, ?_⟩
  · refine List.forall_mem_map.mpr fun code member => ?_
    obtain ⟨within, small⟩ := List.mem_filter.mp member
    exact ascii code within (of_decide_eq_true small)
  · split
    · exact List.forall_mem_nil _
    · exact List.forall_mem_singleton.mpr dash
  · exact fun c member =>
      digit c (mem_digits_of_mem_writeFrom label _ _ (List.forall_mem_nil _) c member)

/-- The code points of a text of code points. -/
theorem map_toNat_ofNat {codes : List Nat} (valid : ∀ c ∈ codes, c.isValidChar) :
    (codes.map Char.ofNat).map Char.toNat = codes := by
  rw [List.map_map]
  refine (List.map_congr_left fun c member => ?_).trans (List.map_id _)
  rw [Function.comp_apply, Char.ofNat, dif_pos (valid c member)]
  rfl

/-- A label is read back from its ASCII text. -/
theorem decode?_encode (valid : ∀ c ∈ label, c.isValidChar) :
    decode? (encode label) = some label := by
  set ascii := label.filter (· < firstCode)
  set others := ((label.filter (firstCode ≤ ·)).mergeSort).eraseReps with othersEq
  set numbers := writeFrom label firstCode { placed := ascii.length } others
  have sorted : ((label.filter (firstCode ≤ ·)).mergeSort).Pairwise (· ≤ ·) :=
    (List.sortedLE_mergeSort (l := label.filter (firstCode ≤ ·))).pairwise
  obtain ⟨rising, members⟩ := eraseReps_rising sorted
  have members' : ∀ c, c ∈ others ↔ c ∈ label ∧ firstCode ≤ c := fun c => by
    rw [othersEq, members, List.mem_mergeSort, List.mem_filter, decide_eq_true_eq]
  have follows :
      Follows { label := ascii } firstCode 0 { placed := ascii.length } { label := ascii } :=
    ⟨fun rest => rfl, rfl, rfl, rfl, rfl, rfl, rfl, rfl⟩
  have read : Reader.run? { label := ascii } numbers = some label :=
    follows.run valid rising members' rfl
  have plain : '-' ∉ numbers := fun member =>
    absurd (mem_digits_of_mem_writeFrom label _ others (List.forall_mem_nil _) '-' member)
      (by decide)
  have encoded : encode label =
      (ascii.map Char.ofNat ++ if ascii.isEmpty then [] else ['-']) ++ numbers :=
    rfl
  rw [encoded]
  cases empty : ascii with
  | nil =>
      rw [empty] at read
      rw [decode?]
      simp only [List.map_nil, List.isEmpty_nil, if_true, List.nil_append,
        splitLast?_of_notMem plain]
      exact read
  | cons c cs =>
      have back : (ascii.map Char.ofNat).map Char.toNat = ascii :=
        map_toNat_ofNat fun c member => valid c (List.mem_filter.mp member).1
      rw [empty] at read back
      rw [List.isEmpty_cons, if_neg Bool.false_ne_true, List.append_assoc, List.singleton_append,
        decode?,
        splitLast?_append plain]
      simp only [List.map_cons, List.isEmpty_cons] at back ⊢
      rw [if_neg Bool.false_ne_true, back]
      exact read

end Url.Punycode
end ArticleMarkdown
