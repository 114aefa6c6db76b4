import ArticleMarkdown.Proofs.Text.Numeral
import ArticleMarkdown.Proofs.Url.Path
import ArticleMarkdown.Url.Host
import Mathlib.Algebra.Group.Nat.Defs

/-!
# Numeric hosts that are read again

An internet address of either version is written in one form, and that form is read as the same
address (`Host.ipv4?_writeIpv4`, `Host.ipv6?_writeIpv6`).
-/

namespace ArticleMarkdown

open Text

namespace Url

/-- What holds of each character of ASCII can be checked one by one. -/
theorem forall_ascii {p : Char → Prop} (each : ∀ n < 0x80, p (Char.ofNat n)) {c : Char}
    (ascii : c.toNat < 0x80) : p c := by
  have own := each c.toNat ascii
  rwa [Char.ofNat_toNat] at own

/-- No character beyond ASCII comes before one of ASCII. -/
theorem not_le_of_beyond {c : Char} (beyond : ¬c.toNat < 0x80) (d : Char)
    (ascii : d.toNat < 0x80) : ¬c ≤ d := by
  rw [Char.le_def, UInt32.le_iff_toNat_le]
  exact fun least => beyond (Nat.lt_of_le_of_lt least ascii)

/-- Hexadecimal digits are in ASCII. -/
theorem ascii_of_hexDigitValue? {c : Char} (digit : (hexDigitValue? c).isSome) :
    c.toNat < 0x80 := by
  by_contra beyond
  rw [hexDigitValue?, isAsciiDigit] at digit
  simp [not_le_of_beyond beyond] at digit

/-- Everything is read, piece by piece. -/
theorem mapM_eq_some_iff {α β : Type} {f : α → Option β} {pieces : List α} {read : List β} :
    pieces.mapM f = some read ↔ pieces.map f = read.map some := by
  induction pieces generalizing read with
  | nil => cases read <;> simp
  | cons piece rest ih =>
      rw [List.mapM_cons, List.map_cons]
      cases own : f piece with
      | none => cases read <;> simp
      | some value =>
          cases later : rest.mapM f with
          | none =>
              have never : ∀ values : List β, rest.map f ≠ values.map some :=
                fun values same =>
                  absurd (ih.mpr same) (later ▸ Option.some_ne_none values ∘ Eq.symm)
              cases read <;> simp [never]
          | some values =>
              have same := ih.mp later
              cases read with
              | nil => simp
              | cons first others =>
                  simp only [Option.pure_def, Option.bind_eq_bind, Option.bind_some, same,
                    List.map_cons,
                    Option.some.injEq, List.cons.injEq]
                  rw [(List.map_injective_iff.mpr (fun _ _ => Option.some.inj)).eq_iff]

namespace Host

/-! ## Numbers -/

private theorem digitsValue_concat (base : Nat) (digits : List Nat) (d : Nat) :
    digitsValue base (digits ++ [d]) = digitsValue base digits * base + d := by
  rw [digitsValue, List.foldl_append]
  rfl

private theorem digitsValue_lt {base : Nat} {digits : List Nat} (small : ∀ d ∈ digits, d < base) :
    digitsValue base digits < base ^ digits.length := by
  induction digits using List.reverseRecOn with
  | nil => exact Nat.one_pos
  | append_singleton digits d ih =>
      have before := ih fun e member => small e (List.mem_append_left _ member)
      have last := small d List.mem_concat_self
      rw [digitsValue_concat, List.length_append, List.length_singleton, Nat.pow_succ]
      calc
        digitsValue base digits * base + d < digitsValue base digits * base + base := by omega
        _ = (digitsValue base digits + 1) * base := (Nat.succ_mul _ _).symm
        _ ≤ base ^ digits.length * base := Nat.mul_le_mul_right base before

/-- The digits of a number are read one after another. -/
theorem mapM_toDigits {base : Nat} (least : 1 < base) (most : base ≤ 16) (n : Nat) :
    ∃ values, (Nat.toDigits base n).mapM hexDigitValue? = some values ∧
      digitsValue base values = n := by
  have digit : ∀ d < 16, hexDigitValue? (Nat.digitChar d) = some d := by decide
  induction n using Nat.strongRecOn with
  | ind n ih =>
      rcases Nat.lt_or_ge n base with small | large
      · refine ⟨[n], ?_, by simp [digitsValue]⟩
        rw [Nat.toDigits_of_lt_base small, List.mapM_cons, List.mapM_nil,
          digit n (by omega)]
        rfl
      · obtain ⟨values, read, value⟩ := ih (n / base) (Nat.div_lt_self (by omega) least)
        have last : n % base < base := Nat.mod_lt n (by omega)
        refine ⟨values ++ [n % base], ?_, ?_⟩
        · rw [Nat.toDigits_of_base_le least large, List.mapM_append, read, List.mapM_cons,
            List.mapM_nil, digit (n % base) (by omega)]
          rfl
        · rw [digitsValue_concat, value, Nat.mul_comm]
          exact Nat.div_add_mod n base

/-! ## Version 4 -/

private theorem number?_ofNat : ∀ n < 256, number? (ofNat n) = some n := by
  decide +kernel

/-- The numbers of a version 4 address. -/
def bytes (value : Nat) : List Nat :=
  [3, 2, 1, 0].map fun i => value / Nat.pow 256 i % 256

/-- A number of four bytes is written byte by byte. -/
theorem writeIpv4_eq (value : Nat) : writeIpv4 value = join ['.'] ((bytes value).map ofNat) :=
  rfl

private theorem bytes_lt (value : Nat) : ∀ n ∈ bytes value, n < 256 :=
  List.forall_mem_map.mpr fun _ _ => Nat.mod_lt _ (by omega)

private theorem labels_writeIpv4 (value : Nat) :
    labels (writeIpv4 value) = (bytes value).map ofNat := by
  have parts : splitOn '.' (writeIpv4 value) = (bytes value).map ofNat := by
    refine splitBy_join (p := (· == '.')) (beq_self_eq_true '.') (List.cons_ne_nil _ _) ?_
    refine List.forall_mem_map.mpr fun n _ c member => beq_false_of_ne ?_
    rintro rfl
    exact absurd (isDigit_of_mem_ofNat member) (by decide)
  have last : ((bytes value).map ofNat).getLast? ≠ some [] :=
    fun same => Nat.toDigits_ne_nil (Option.some.inj same)
  rw [labels, parts, if_neg last]

/-- What is written of a number ends in a number. -/
theorem endsInNumber_writeIpv4 (value : Nat) : endsInNumber (writeIpv4 value) = true := by
  have digits : (ofNat (value / Nat.pow 256 0 % 256)).all isAsciiDigit = true :=
    List.all_eq_true.mpr fun c member => isAsciiDigit_iff.mpr (isDigit_of_mem_ofNat member)
  have filled : (ofNat (value / Nat.pow 256 0 % 256)).isEmpty = false :=
    List.isEmpty_eq_false_iff.mpr Nat.toDigits_ne_nil
  rw [endsInNumber, labels_writeIpv4]
  show ((!(ofNat (value / Nat.pow 256 0 % 256)).isEmpty && (ofNat (value / Nat.pow 256 0 % 256)).all
    isAsciiDigit) || _) = true
  rw [digits, filled]
  rfl

/-- A number that was read has four bytes at most. -/
theorem ipv4?_lt {domain : Text} {value : Nat} (read : ipv4? domain = some value) :
    value < 256 ^ 4 := by
  simp only [ipv4?] at read
  split at read
  · cases read
  · next few =>
    obtain ⟨numbers, found, read⟩ := Option.bind_eq_some_iff.mp read
    split at read
    · cases read
    · next last ends =>
      split at read
      · next bounded =>
        cases read
        rw [Bool.and_eq_true, List.all_eq_true, decide_eq_true_eq] at bounded
        obtain ⟨small, rest⟩ := bounded
        have length := congrArg List.length (mapM_eq_some_iff.mp found)
        have front := digitsValue_lt fun n member =>
          Nat.lt_succ_of_le (of_decide_eq_true (small n member))
        rw [List.length_map, List.length_map] at length
        have most : numbers.dropLast.length ≤ 4 := by
          rw [List.length_dropLast]
          omega
        calc
          last + digitsValue 256 numbers.dropLast * 256 ^ (4 - numbers.dropLast.length)
              < (digitsValue 256 numbers.dropLast + 1) * 256 ^ (4 - numbers.dropLast.length) := by
            rw [Nat.succ_mul, Nat.add_comm]
            exact Nat.add_lt_add_left rest _
          _ ≤ 256 ^ numbers.dropLast.length * 256 ^ (4 - numbers.dropLast.length) :=
            Nat.mul_le_mul_right _ front
          _ = 256 ^ 4 := by rw [← Nat.pow_add, Nat.add_sub_cancel' most]
      · cases read

/-- A version 4 address is read as it was written. -/
theorem ipv4?_writeIpv4 {value : Nat} (bounded : value < 256 ^ 4) :
    ipv4? (writeIpv4 value) = some value := by
  have numbers : ((bytes value).map ofNat).mapM number? = some (bytes value) := by
    rw [mapM_eq_some_iff, List.map_map]
    exact List.map_congr_left fun n member => number?_ofNat n (bytes_lt value n member)
  have small : ([value / Nat.pow 256 3 % 256, value / Nat.pow 256 2 % 256,
      value / Nat.pow 256 1 % 256].all (· ≤ 255)) = true :=
    List.all_eq_true.mpr fun n member => decide_eq_true (Nat.le_of_lt_succ
      (bytes_lt value n (List.mem_append_left [value / Nat.pow 256 0 % 256] member)))
  have last : value / Nat.pow 256 0 % 256 < Nat.pow 256 1 := Nat.mod_lt _ (by omega)
  rw [ipv4?, labels_writeIpv4]
  simp only [numbers, Option.bind_some]
  simp only [bytes, List.map_cons, List.map_nil, List.getLast?_cons_cons, List.getLast?_singleton,
    List.dropLast_cons_cons, List.dropLast_singleton, small, List.length_cons, List.length_nil]
  rw [if_neg (by decide)]
  refine (if_pos (decide_eq_true last)).trans (congrArg some ?_)
  simp only [digitsValue, List.foldl_cons, List.foldl_nil, Nat.pow_eq] at bounded ⊢
  omega

/-! ## Version 6 -/

private theorem lt_of_hexDigitValue? {c : Char} {value : Nat}
    (digit : hexDigitValue? c = some value) :
    value < 16 := by
  unfold hexDigitValue? isAsciiDigit at digit
  simp only [Char.le_def, UInt32.le_iff_toNat_le, Bool.and_eq_true, decide_eq_true_eq] at digit
  have code : c.val.toNat = c.toNat := rfl
  rw [code] at digit
  split at digit
  · next range =>
    cases digit
    exact Nat.sub_lt_left_of_lt_add range.1 (Nat.lt_succ_of_le (range.2.trans (by decide)))
  · split at digit
    · next range =>
      cases digit
      exact Nat.sub_lt_left_of_lt_add ((by decide : 87 ≤ 'a'.val.toNat).trans range.1)
        (Nat.lt_succ_of_le (range.2.trans (by decide)))
    · split at digit
      · next range =>
        cases digit
        exact Nat.sub_lt_left_of_lt_add ((by decide : 55 ≤ 'A'.val.toNat).trans range.1)
          (Nat.lt_succ_of_le (range.2.trans (by decide)))
      · cases digit

private theorem piece?_writePiece {n : Nat} (small : n < 16 ^ 4) :
    piece? (writePiece n) = some n := by
  obtain ⟨values, read, value⟩ := mapM_toDigits (by omega : 1 < 16) (by omega) n
  have filled : (writePiece n).isEmpty = false := List.isEmpty_eq_false_iff.mpr Nat.toDigits_ne_nil
  have short : (writePiece n).length ≤ 4 :=
    (Nat.length_toDigits_le_iff (by omega) (by omega)).mpr small
  rw [piece?, filled, Bool.false_or, if_neg (by simpa using short), writePiece, read,
    Option.map_some,
    value]

private theorem piece?_lt {t : Text} {n : Nat} (read : piece? t = some n) : n < 16 ^ 4 := by
  unfold piece? at read
  split at read
  · cases read
  · next short =>
    obtain ⟨values, found, rfl⟩ := Option.map_eq_some_iff.mp read
    have same := mapM_eq_some_iff.mp found
    have length := congrArg List.length same
    have digits : ∀ v ∈ values, v < 16 := by
      intro v member
      obtain ⟨c, -, digit⟩ := List.mem_map.mp (same ▸ List.mem_map_of_mem member)
      exact lt_of_hexDigitValue? digit
    simp only [Bool.or_eq_true, decide_eq_true_eq, not_or, List.length_map] at short length
    exact (digitsValue_lt digits).trans_le (Nat.pow_le_pow_right (by omega) (by omega))

private theorem decimalByte?_le {t : Text} {n : Nat} (read : decimalByte? t = some n) :
    n ≤ 255 := by
  unfold decimalByte? at read
  split at read
  · cases read
  · obtain ⟨digits, -, read⟩ := Option.bind_eq_some_iff.mp read
    simp only [] at read
    split at read
    · next bounded =>
      cases read
      exact bounded
    · cases read

private theorem pieces?_lt {dotted : Bool} {parts : List Text} {pieces : List Nat}
    (read : pieces? dotted parts = some pieces) : ∀ n ∈ pieces, n < 16 ^ 4 := by
  fun_induction pieces? dotted parts generalizing pieces with
  | case1 =>
      cases read
      exact List.forall_mem_nil _
  | case2 last n own =>
      cases read
      exact List.forall_mem_singleton.mpr (piece?_lt own)
  | case3 last own isDotted a b c d bytes =>
      cases read
      have bounded : ∀ n ∈ [a, b, c, d], n ≤ 255 := by
        intro n member
        obtain ⟨part, -, found⟩ := List.mem_map.mp
          ((mapM_eq_some_iff.mp bytes).symm ▸ List.mem_map_of_mem member)
        exact decimalByte?_le found
      simp only [List.forall_mem_cons] at bounded ⊢
      exact ⟨by omega, by omega, List.forall_mem_nil _⟩
  | case4 => cases read
  | case5 => cases read
  | case6 t rest more ih =>
      obtain ⟨n, own, read⟩ := Option.bind_eq_some_iff.mp read
      obtain ⟨later, found, rfl⟩ := Option.map_eq_some_iff.mp read
      exact List.forall_mem_cons.mpr ⟨piece?_lt own, ih found⟩

/-- Eight pieces of two bytes each are read. -/
theorem ipv6?_bounded {t : Text} {pieces : List Nat} (read : ipv6? t = some pieces) :
    pieces.length = 8 ∧ ∀ n ∈ pieces, n < 16 ^ 4 := by
  unfold ipv6? at read
  split at read
  · obtain ⟨ps, found, read⟩ := Option.bind_eq_some_iff.mp read
    split at read
    · next eight =>
      cases read
      exact ⟨eight, pieces?_lt found⟩
    · cases read
  · next before after _ =>
    obtain ⟨front, foundFront, read⟩ := Option.bind_eq_some_iff.mp read
    obtain ⟨back, foundBack, read⟩ := Option.bind_eq_some_iff.mp read
    split at read
    · next few =>
      cases read
      refine ⟨by simp only [List.length_append, List.length_replicate]; omega, ?_⟩
      refine List.forall_mem_append.mpr ⟨List.forall_mem_append.mpr ⟨pieces?_lt foundFront, ?_⟩,
        pieces?_lt foundBack⟩
      intro n zero
      rw [List.eq_of_mem_replicate zero]
      decide
    · cases read

/-- A hexadecimal digit, as pieces of a version 6 address hold them. -/
theorem isSome_of_mem_toDigits {base n : Nat} (least : 1 < base) (most : base ≤ 16) :
    ∀ c ∈ Nat.toDigits base n, (hexDigitValue? c).isSome := by
  intro c member
  obtain ⟨values, read, -⟩ := mapM_toDigits least most n
  obtain ⟨v, -, found⟩ := List.mem_map.mp (mapM_eq_some_iff.mp read ▸ List.mem_map_of_mem member)
  exact Option.isSome_iff_exists.mpr ⟨v, found.symm⟩

/-- The pieces between colons, none of them empty. -/
def Filled (parts : List Text) : Prop :=
  ∀ part ∈ parts, part ≠ [] ∧ ':' ∉ part

private theorem filled_writePiece (pieces : List Nat) : Filled (pieces.map writePiece) := by
  refine List.forall_mem_map.mpr fun n _ => ⟨Nat.toDigits_ne_nil, fun colon => ?_⟩
  exact absurd (isSome_of_mem_toDigits (by omega) (by omega) ':' colon) (by decide)

private theorem splitGap?_append {piece : Text} (absent : ':' ∉ piece) (t : Text) :
    splitGap? (piece ++ t) = (splitGap? t).map fun (before, after) => (piece ++ before, after) := by
  induction piece with
  | nil => simp
  | cons c rest ih =>
      rw [List.mem_cons, not_or] at absent
      rw [List.cons_append, splitGap?, ih absent.2, Option.map_map]
      · rfl
      · rintro _ rfl
        exact absurd rfl absent.1

private theorem join_eq_cons {parts : List Text} (filled : Filled parts) (some : parts ≠ []) :
    ∃ c rest, join [':'] parts = c :: rest ∧ c ≠ ':' := by
  obtain ⟨part, others, rfl⟩ := List.exists_cons_of_ne_nil some
  obtain ⟨proper, absent⟩ := filled part List.mem_cons_self
  obtain ⟨c, rest, rfl⟩ := List.exists_cons_of_ne_nil proper
  obtain ⟨behind, joined⟩ := prefix_join [':'] (c :: rest) others
  exact ⟨c, rest ++ behind, joined.symm, fun same => absent (same ▸ List.mem_cons_self)⟩

private theorem splitGap?_join {parts : List Text} (filled : Filled parts) (t : Text) :
    splitGap? (join [':'] parts ++ t) =
      (splitGap? t).map fun (before, after) => (join [':'] parts ++ before, after) := by
  fun_induction join [':'] parts with
  | case1 => simp
  | case2 piece => exact splitGap?_append (filled piece List.mem_cons_self).2 t
  | case3 piece others more ih =>
      have later : Filled others := fun part member =>
        filled part (List.mem_cons_of_mem piece member)
      obtain ⟨c, rest, joined, solid⟩ := join_eq_cons later more
      have behind := ih later
      have colon : splitGap? (':' :: (c :: rest ++ t)) =
          (splitGap? (c :: rest ++ t)).map fun (before, after) => (':' :: before, after) := by
        rw [splitGap?]
        rintro _ - same
        exact solid (List.cons.inj same).1
      rw [joined] at behind ⊢
      rw [List.append_assoc, List.append_assoc,
        splitGap?_append (filled piece List.mem_cons_self).2,
        List.singleton_append, colon, behind, Option.map_map, Option.map_map]
      simp [Function.comp_def]

private theorem colonParts_join {parts : List Text} (filled : Filled parts) :
    colonParts (join [':'] parts) = parts := by
  by_cases none : parts = []
  · rw [none]
    rfl
  · obtain ⟨c, rest, joined, -⟩ := join_eq_cons filled none
    have split : splitOn ':' (join [':'] parts) = parts :=
      splitBy_join (p := (· == ':')) (beq_self_eq_true ':') none
        fun part member c inside => beq_false_of_ne fun same =>
          (filled part member).2 (same ▸ inside)
    rw [colonParts, split, joined]
    rfl

private theorem pieces?_writePiece (dotted : Bool) {pieces : List Nat}
    (small : ∀ n ∈ pieces, n < 16 ^ 4) :
    pieces? dotted (pieces.map writePiece) = some pieces := by
  induction pieces with
  | nil => rfl
  | cons n rest ih =>
      have own := piece?_writePiece (small n List.mem_cons_self)
      have later := ih fun m member => small m (List.mem_cons_of_mem n member)
      cases rest with
      | nil => rw [List.map_cons, List.map_nil, pieces?, own]
      | cons next others =>
          rw [List.map_cons, pieces?, own, later]
          · rfl
          · exact List.cons_ne_nil _ _

private theorem longestZeroRun?_spec {pieces : List Nat} {start length : Nat}
    (found : longestZeroRun? pieces = some (start, length)) :
    2 ≤ length ∧ zeroRun (pieces.drop start) = length := by
  simp only [longestZeroRun?] at found
  split at found
  · next long =>
    have held := List.foldlRecOn (motive := fun best : Nat × Nat =>
      2 ≤ best.2 → zeroRun (pieces.drop best.1) = best.2) (List.range pieces.length)
      (fun best i => if zeroRun (pieces.drop i) > best.2 then (i, zeroRun (pieces.drop i))
        else best)
      (b := (0, 1)) (fun two => absurd two (by decide)) fun best known i _ => by
        split
        · exact fun _ => rfl
        · exact known
    have own := held long
    rw [Option.some.inj found] at long own
    exact ⟨long, own⟩
  · cases found

private theorem take_zeroRun (pieces : List Nat) :
    pieces.take (zeroRun pieces) = List.replicate (zeroRun pieces) 0 := by
  have taken : pieces.take (zeroRun pieces) = pieces.takeWhile (· == 0) :=
    (List.prefix_iff_eq_take.mp (List.takeWhile_prefix _)).symm
  rw [taken]
  refine List.eq_replicate_iff.mpr ⟨rfl, fun n member => ?_⟩
  exact beq_iff_eq.mp (List.all_eq_true.mp List.all_takeWhile n member)

/-- A version 6 address is read as it was written. -/
theorem ipv6?_writeIpv6 {pieces : List Nat} (eight : pieces.length = 8)
    (small : ∀ n ∈ pieces, n < 16 ^ 4) : ipv6? (writeIpv6 pieces) = some pieces := by
  have filled (ps : List Nat) := filled_writePiece ps
  cases run : longestZeroRun? pieces with
  | none =>
      have whole := splitGap?_join (filled pieces) []
      rw [List.append_nil] at whole
      simp only [ipv6?, writeIpv6, run, whole, splitGap?, Option.map_none,
        colonParts_join (filled pieces),
        pieces?_writePiece true small, Option.bind_some, if_pos eight]
  | some found =>
      obtain ⟨start, length⟩ := found
      obtain ⟨long, zeros⟩ := longestZeroRun?_spec run
      have front : ∀ n ∈ pieces.take start, n < 16 ^ 4 := fun n member =>
        small n (List.mem_of_mem_take member)
      have back : ∀ n ∈ pieces.drop (start + length), n < 16 ^ 4 :=
        fun n member => small n (List.mem_of_mem_drop member)
      have gap := take_zeroRun (pieces.drop start)
      rw [zeros] at gap
      have fits : start + length ≤ 8 := by
        have inside := congrArg List.length gap
        rw [List.length_take, List.length_drop, List.length_replicate, eight] at inside
        omega
      have missing : 8 - (pieces.take start).length - (pieces.drop (start + length)).length =
        length := by
        rw [List.length_take, List.length_drop, eight]
        omega
      have room : (pieces.take start).length + (pieces.drop (start + length)).length ≤ 7 := by
        rw [List.length_take, List.length_drop, eight]
        omega
      have whole : pieces.take start ++ List.replicate length 0 ++ pieces.drop (start + length) =
        pieces := by
        rw [← gap, List.append_assoc, ← List.drop_drop, List.take_append_drop,
          List.take_append_drop]
      simp only [ipv6?, writeIpv6, run, List.append_assoc, List.cons_append, List.nil_append,
        splitGap?_join (filled _), splitGap?, Option.map_some, List.append_nil,
        colonParts_join (filled _),
        pieces?_writePiece _ front, pieces?_writePiece _ back, Option.bind_some, if_pos room,
        missing]
      rw [← List.append_assoc, whole]

end Host
end Url
end ArticleMarkdown
