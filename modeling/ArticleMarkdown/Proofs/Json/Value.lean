import ArticleMarkdown.Json.Basic
import ArticleMarkdown.Proofs.Text.Numeral
import ArticleMarkdown.Proofs.Text.Split

/-!
# Values in JSON, written and skipped

Each character is read back from what it is written as (`string_writeChar`), so a string is read
back whatever follows it (`string_written`), and it is skipped as far (`skipString_written`). A JSON
value of any kind, in compact form, is skipped as a whole where it stands in a list or an object
(`skip_write`).
-/

namespace ArticleMarkdown

namespace Text

private theorem ofNat_ne_nil (n : Nat) : ofNat n ≠ [] :=
  Nat.toDigits_ne_nil

/-- The numeral of a positive number starts with another digit than zero. -/
theorem head?_ofNat {n : Nat} (positive : n ≠ 0) : (ofNat n).head? ≠ some '0' := by
  induction n using Nat.strongRecOn with
  | ind n ih =>
    by_cases small : n < 10
    · rw [ofNat, Nat.toDigits_of_lt_base small, List.head?_cons]
      simpa using positive
    · have large : 10 ≤ n := Nat.not_lt.mp small
      have tens : n / 10 ≠ 0 := by omega
      have written : ofNat n = ofNat (n / 10) ++ [Nat.digitChar (n % 10)] :=
        Nat.toDigits_of_base_le (by decide) large
      rw [written, List.head?_append_of_ne_nil _ (ofNat_ne_nil _)]
      exact ih (n / 10) (by omega) tens

private theorem ofNat_numeric (n : Nat) : ∀ c ∈ ofNat n, isAsciiDigit c = true :=
  fun _ member => isAsciiDigit_iff.mpr (isDigit_of_mem_ofNat member)

end Text

namespace Json

/-! ## Strings -/

section Strings

variable {c : Char}

/-- A control character is written with its code. -/
theorem unit?_hexByte (control : c.toNat < 0x20) :
    ∃ a b, Text.hexByte (UInt8.ofNat c.toNat) = [a, b] ∧ unit? '0' '0' a b = some c.toNat := by
  have codes : ∀ n < 0x20, unit? '0' '0' (Nat.digitChar (n / 16)) (Nat.digitChar (n % 16)) =
      some n := by
    decide
  have byte : (UInt8.ofNat c.toNat).toNat = c.toNat := by
    rw [UInt8.toNat_ofNat']
    omega
  refine ⟨_, _, rfl, ?_⟩
  rw [byte]
  exact codes c.toNat control

/-- A character is written as it is, with a letter, or with its code. -/
theorem writeChar_cases (c : Char) :
    (0x20 ≤ c.toNat ∧ c ≠ '\\' ∧ c ≠ '"' ∧ writeChar c = [c]) ∨
      (∃ letter, letter ≠ 'u' ∧ writeChar c = ['\\', letter] ∧ escaped? letter = some c) ∨
      ∃ a b, c.toNat < 0x20 ∧ writeChar c = ['\\', 'u', '0', '0', a, b] ∧
        unit? '0' '0' a b = some c.toNat := by
  unfold writeChar
  split
  · exact .inr (.inl ⟨'"', by decide, rfl, rfl⟩)
  · exact .inr (.inl ⟨'\\', by decide, rfl, rfl⟩)
  · exact .inr (.inl ⟨'b', by decide, rfl, rfl⟩)
  · exact .inr (.inl ⟨'t', by decide, rfl, rfl⟩)
  · exact .inr (.inl ⟨'n', by decide, rfl, rfl⟩)
  · exact .inr (.inl ⟨'f', by decide, rfl, rfl⟩)
  · exact .inr (.inl ⟨'r', by decide, rfl, rfl⟩)
  · next quote backslash _ _ _ _ _ =>
    split
    · next control =>
      obtain ⟨a, b, written, code⟩ := unit?_hexByte control
      exact .inr (.inr ⟨a, b, control, by rw [written]; rfl, code⟩)
    · next shown => exact .inl ⟨Nat.not_lt.mp shown, backslash, quote, rfl⟩

private theorem string_writeChar (c : Char) (t : Text) :
    string (writeChar c ++ t) = prepend c (string t) := by
  rcases writeChar_cases c with ⟨shown, backslash, quote, written⟩ |
    ⟨letter, short, written, meant⟩ | ⟨a, b, control, written, code⟩
  · rw [written, List.singleton_append, string]
    · exact if_neg (Nat.not_lt.mpr shown)
    all_goals simp [backslash, quote]
  · rw [written, List.cons_append, List.singleton_append]
    simp [string, short, meant]
  · have plain : c.toNat < 0xD800 := by omega
    rw [written]
    simp [string, code, plain]

private theorem skipString_writeChar (c : Char) (t : Text) :
    skipString (writeChar c ++ t) = skipString t := by
  rcases writeChar_cases c with ⟨shown, backslash, quote, written⟩ |
    ⟨letter, short, written, meant⟩ | ⟨a, b, control, written, code⟩
  · rw [written, List.singleton_append, skipString]
    · exact if_neg (Nat.not_lt.mpr shown)
    all_goals simp [backslash, quote]
  · rw [written, List.cons_append, List.singleton_append]
    simp [skipString, short, meant]
  · rw [written]
    simp [skipString, code]

/-- A text in quotes with more behind it. -/
theorem writeText_append (t rest : Text) :
    writeText t ++ rest = '"' :: (t.flatMap writeChar ++ '"' :: rest) := by
  simp [writeText]

/-- A string is read back, behind its opening quote. -/
theorem string_written (t rest : Text) :
    string (t.flatMap writeChar ++ '"' :: rest) = .ok (t, rest) := by
  induction t with
  | nil => rfl
  | cons c t ih =>
      rw [List.flatMap_cons, List.append_assoc, string_writeChar, ih]
      rfl

/-- A string is skipped, behind its opening quote. -/
theorem skipString_written (t rest : Text) :
    skipString (t.flatMap writeChar ++ '"' :: rest) = .ok rest := by
  induction t with
  | nil => rfl
  | cons c t ih => rw [List.flatMap_cons, List.append_assoc, skipString_writeChar, ih]

end Strings

/-! ## Numbers and collections -/

/-- A number as it is written: whole part, digits behind the point, and exponent. -/
structure Decimal where
  negative : Bool := false
  whole : Nat
  fraction : List (Fin 10) := []
  exponent : Option Int := none
  deriving DecidableEq, Repr

namespace Decimal

/-- The digits behind the point. -/
def fractionDigits (n : Decimal) : Text :=
  n.fraction.map fun d : Fin 10 => Nat.digitChar d.val

/-- The digits behind the point, with the point if there are any. -/
def fractionText (n : Decimal) : Text :=
  if n.fraction.isEmpty then [] else '.' :: n.fractionDigits

/-- The exponent, if there is one. -/
def exponentText (n : Decimal) : Text :=
  match n.exponent with
  | none => []
  | some e => 'e' :: (if e < 0 then ['-'] else []) ++ Text.ofNat e.natAbs

/-- The number without its sign. -/
def unsigned (n : Decimal) : Text :=
  Text.ofNat n.whole ++ (n.fractionText ++ n.exponentText)

/-- The number in JSON. -/
def write (n : Decimal) : Text :=
  (if n.negative then ['-'] else []) ++ n.unsigned

end Decimal

/-- A JSON value. -/
inductive Value where
  | null
  | flag (b : Bool)
  | number (n : Decimal)
  | text (t : Text)
  | list (items : List Value)
  | object (members : List (Text × Value))
  deriving Repr

namespace Value

mutual

/-- A value in compact form. -/
def write : Value → Text
  | .null => "null".toList
  | .flag b => writeFlag b
  | .number n => n.write
  | .text t => writeText t
  | .list items => '[' :: Text.join [','] (writeAll items) ++ [']']
  | .object members => '\x7b' :: Text.join [','] (writeMembers members) ++ ['\x7d']

/-- The items of a list. -/
def writeAll : List Value → List Text
  | [] => []
  | item :: rest => write item :: writeAll rest

/-- The members of an object. -/
def writeMembers : List (Text × Value) → List Text
  | [] => []
  | member :: rest => writeMember member :: writeMembers rest

/-- A member of an object. -/
def writeMember : Text × Value → Text
  | (name, value) => writeText name ++ ':' :: write value

end

end Value

/-- What stands behind a value in a list or an object. -/
def Closes (rest : Text) : Prop :=
  ∃ c t, rest = c :: t ∧ (c = ',' ∨ c = ']' ∨ c = '\x7d')

section Numbers

variable (atEnd : Fault) {ds rest : Text}

/-- Digits are read up to the first character that is none. -/
theorem digits_append (filled : ds ≠ []) (numeric : ∀ c ∈ ds, Text.isAsciiDigit c = true)
    (ended : ∀ c ∈ rest.head?, Text.isAsciiDigit c = false) :
    digits atEnd (ds ++ rest) = .ok (ds, rest) := by
  have stops : rest.takeWhile Text.isAsciiDigit = [] ∧ rest.dropWhile Text.isAsciiDigit = rest := by
    cases rest with
    | nil => exact ⟨rfl, rfl⟩
    | cons c t =>
        have other : ¬Text.isAsciiDigit c = true := Bool.eq_false_iff.mp (ended c rfl)
        exact ⟨List.takeWhile_cons_of_neg other, List.dropWhile_cons_of_neg other⟩
  rw [digits, List.takeWhile_append_of_pos numeric, List.dropWhile_append_of_pos numeric, stops.1,
    stops.2, List.append_nil]
  cases ds with
  | nil => exact absurd rfl filled
  | cons d ds => rfl

/-- Behind the parts of a number stands no digit. -/
theorem Closes.not_digit (closes : Closes rest) :
    ∀ c ∈ rest.head?, Text.isAsciiDigit c = false := by
  obtain ⟨c, t, rfl, mark⟩ := closes
  rintro _ ⟨⟩
  rcases mark with rfl | rfl | rfl <;> decide

variable (n : Decimal) (closes : Closes rest)
include closes

private theorem exponent_written :
    ∃ e, exponent atEnd (n.exponentText ++ rest) = .ok (e, rest) := by
  rw [Decimal.exponentText]
  cases n.exponent with
  | none =>
      obtain ⟨c, t, rfl, mark⟩ := closes
      refine ⟨0, ?_⟩
      rcases mark with rfl | rfl | rfl <;> rfl
  | some e =>
      have read := digits_append atEnd (Text.ofNat_ne_nil e.natAbs)
        (Text.ofNat_numeric e.natAbs) closes.not_digit
      by_cases negative : e < 0
      · simp [exponent, negative, read, Except.map]
      · obtain ⟨d, ds, numeral, digit⟩ := Text.ofNat_eq_cons e.natAbs
        rw [numeral, List.cons_append] at read
        have minus : d ≠ '-' := by rintro rfl; exact absurd digit (by decide)
        have plus : d ≠ '+' := by rintro rfl; exact absurd digit (by decide)
        simp [exponent, negative, numeral, minus, plus, read, Except.map]

/-- Behind the digits of a number stands its exponent or a mark that closes it. -/
theorem head?_exponentText :
    ∃ c t, n.exponentText ++ rest = c :: t ∧ Text.isAsciiDigit c = false ∧ c ≠ '.' := by
  rw [Decimal.exponentText]
  cases n.exponent with
  | none =>
      obtain ⟨c, t, rfl, mark⟩ := closes
      refine ⟨c, t, rfl, ?_⟩
      rcases mark with rfl | rfl | rfl <;> decide
  | some e => exact ⟨'e', _, rfl, by decide, by decide⟩

/-- A number is read as a whole. -/
theorem number_written :
    ∃ numeral, number atEnd (n.unsigned ++ rest) = .ok (numeral, rest) := by
  obtain ⟨e, exponent⟩ := exponent_written atEnd n closes
  obtain ⟨c, t, tail, digitless, pointless⟩ := head?_exponentText n closes
  have proper : ((Text.ofNat n.whole).length > 1 && (Text.ofNat n.whole).head? == some '0') =
      false := by
    by_cases zero : n.whole = 0
    · rw [zero]
      rfl
    · simp [Text.head?_ofNat zero]
  have whole : ∀ more : Text, (∀ c ∈ more.head?, Text.isAsciiDigit c = false) →
      digits atEnd (Text.ofNat n.whole ++ more) = .ok (Text.ofNat n.whole, more) := fun more =>
    digits_append atEnd (Text.ofNat_ne_nil n.whole) (Text.ofNat_numeric n.whole)
  rw [number, Decimal.unsigned, List.append_assoc, List.append_assoc]
  by_cases bare : n.fraction = []
  · have pointed : n.fractionText = [] := by simp [Decimal.fractionText, bare]
    refine ⟨⟨Text.ofNat n.whole, [], e⟩, ?_⟩
    rw [pointed, List.nil_append, whole _ (by rw [tail]; rintro _ ⟨⟩; exact digitless)]
    simp only [Except.bind, proper, Bool.false_eq_true, if_false]
    rw [tail] at exponent ⊢
    simp [pointless, exponent, Except.map]
  · have pointed : n.fractionText = '.' :: n.fractionDigits := by
      simp [Decimal.fractionText, bare]
    have numeric : ∀ c ∈ n.fractionDigits, Text.isAsciiDigit c = true := by
      rintro _ member
      obtain ⟨d, -, rfl⟩ := List.mem_map.mp member
      rw [Text.isAsciiDigit_iff, Nat.isDigit_digitChar]
      exact decide_eq_true d.isLt
    have behind : digits atEnd (n.fractionDigits ++ (n.exponentText ++ rest)) =
        .ok (n.fractionDigits, n.exponentText ++ rest) := by
      refine digits_append atEnd (mt List.map_eq_nil_iff.mp bare) numeric ?_
      rw [tail]
      rintro _ ⟨⟩
      exact digitless
    refine ⟨⟨Text.ofNat n.whole, n.fractionDigits, e⟩, ?_⟩
    rw [pointed, List.cons_append, whole _ (by rintro _ ⟨⟩; decide)]
    simp only [Except.bind, proper, Bool.false_eq_true, if_false, behind, exponent, Except.map]

end Numbers

/-- There is no space to skip in front of a solid character. -/
theorem skipSpace_cons {c : Char} (solid : isSpace c = false) (t : Text) :
    skipSpace (c :: t) = c :: t :=
  List.dropWhile_cons_of_neg (Bool.eq_false_iff.mp solid)

private theorem isSpace_of_isDigit {c : Char} (digit : c.isDigit) : isSpace c = false := by
  rw [isSpace, Bool.or_eq_false_iff, Bool.or_eq_false_iff, Bool.or_eq_false_iff]
  refine ⟨⟨⟨?_, ?_⟩, ?_⟩, ?_⟩ <;>
  · rw [beq_eq_false_iff_ne]
    rintro rfl
    exact absurd digit (by decide)

section Skipping

variable (fuel : Nat)

/-- A value that starts with a digit is read as a number. -/
theorem skipValue_digit {c : Char} (digit : c.isDigit) (t : Text) :
    skipValue (fuel + 1) (c :: t) = (number .malformed (c :: t)).map (·.2) := by
  have other : ∀ {mark rest}, c :: t = mark :: rest → mark.isDigit := by
    rintro _ _ ⟨⟩
    exact digit
  rw [skipValue, skipSpace_cons (isSpace_of_isDigit digit)]
  split
  case h_1 nothing => cases nothing
  case h_9 same => rw [same]
  all_goals next mark => exact absurd (other mark) (by decide)

private theorem skipValue_number (n : Decimal) {rest : Text} (closes : Closes rest) :
    skipValue (fuel + 1) (n.write ++ rest) = .ok rest := by
  obtain ⟨numeral, read⟩ := number_written .malformed n closes
  rw [Decimal.write]
  cases n.negative with
  | true =>
      have minus : skipValue (fuel + 1) ('-' :: (n.unsigned ++ rest)) =
        (number .malformed (n.unsigned ++ rest)).map (·.2) := rfl
      exact minus.trans (by rw [read]; rfl)
  | false =>
      obtain ⟨d, ds, digits, digit⟩ := Text.ofNat_eq_cons n.whole
      have unsigned : n.unsigned ++ rest =
          d :: (ds ++ (n.fractionText ++ n.exponentText) ++ rest) := by
        rw [Decimal.unsigned, digits]
        simp
      rw [unsigned] at read
      have positive : (if false = true then ['-'] else []) ++ n.unsigned ++ rest =
          d :: (ds ++ (n.fractionText ++ n.exponentText) ++ rest) := by
        simpa using unsigned
      rw [positive, skipValue_digit fuel digit, read]
      rfl

/-- A list is skipped if it is empty or its items are. -/
theorem skipValue_list (t : Text) :
    skipValue (fuel + 1) ('[' :: t) =
      match skipSpace t with
      | ']' :: rest => .ok rest
      | rest => skipItems fuel rest := rfl

/-- An object is skipped if it is empty or its members are. -/
theorem skipValue_object (t : Text) :
    skipValue (fuel + 1) ('\x7b' :: t) =
      match skipSpace t with
      | '\x7d' :: rest => .ok rest
      | rest => skipMembers fuel rest := rfl

end Skipping

namespace Value

/-- A value starts with a character that is no space and closes no list. -/
theorem write_eq_cons (v : Value) :
    ∃ c t, v.write = c :: t ∧ isSpace c = false ∧ c ≠ ']' := by
  cases v with
  | null => exact ⟨_, _, rfl, by decide, by decide⟩
  | flag b => cases b <;> exact ⟨_, _, rfl, by decide, by decide⟩
  | number n =>
      obtain ⟨d, ds, digits, digit⟩ := Text.ofNat_eq_cons n.whole
      rw [write, Decimal.write, Decimal.unsigned, digits]
      cases n.negative with
      | true => exact ⟨'-', _, rfl, by decide, by decide⟩
      | false =>
          refine ⟨d, _, rfl, isSpace_of_isDigit digit, ?_⟩
          rintro rfl
          exact absurd digit (by decide)
  | text t => exact ⟨'"', _, rfl, by decide, by decide⟩
  | list items => exact ⟨'[', _, rfl, by decide, by decide⟩
  | object members => exact ⟨'\x7b', _, rfl, by decide, by decide⟩

end Value

/-- The first of some pieces between commas, and what stands behind it. -/
theorem join_comma_append (piece : Text) (pieces : List Text) (close : Char) (rest : Text) :
    Text.join [','] (piece :: pieces) ++ close :: rest =
      piece ++ (if pieces = [] then close :: rest
        else ',' :: (Text.join [','] pieces ++ close :: rest)) := by
  cases pieces with
  | nil => rfl
  | cons next others => simp [Text.join_cons_of_ne_nil]

private theorem length_join_comma (piece : Text) (pieces : List Text) :
    piece.length + (Text.join [','] pieces).length ≤ (Text.join [','] (piece :: pieces)).length ∧
      (pieces ≠ [] → piece.length + (Text.join [','] pieces).length + 1 =
        (Text.join [','] (piece :: pieces)).length) := by
  cases pieces with
  | nil => simp [Text.join]
  | cons next others =>
      rw [Text.join_cons_of_ne_nil _ _ (List.cons_ne_nil _ _)]
      simp
      omega

/-- What stands behind a piece between commas closes it. -/
theorem closes_behind (pieces : List Text) {close : Char} (marks : close = ']' ∨ close = '\x7d')
    (rest : Text) :
    Closes (if pieces = [] then close :: rest
      else ',' :: (Text.join [','] pieces ++ close :: rest)) := by
  split
  · exact ⟨close, rest, rfl, .inr marks⟩
  · exact ⟨',', _, rfl, .inl rfl⟩

/-- With some fuel, all values are skipped that have no more characters, and so are the items of
lists and the members of objects. -/
structure Skips (fuel : Nat) : Prop where
  value : ∀ (v : Value) (rest : Text), v.write.length ≤ fuel → Closes rest →
    skipValue fuel (v.write ++ rest) = .ok rest
  items : ∀ (item : Value) (others : List Value) (rest : Text),
    (Text.join [','] (Value.writeAll (item :: others))).length < fuel →
      skipItems fuel (Text.join [','] (Value.writeAll (item :: others)) ++ ']' :: rest) = .ok rest
  members : ∀ (member : Text × Value) (others : List (Text × Value)) (rest : Text),
    (Text.join [','] (Value.writeMembers (member :: others))).length < fuel →
      skipMembers fuel (Text.join [','] (Value.writeMembers (member :: others)) ++ '\x7d' :: rest) =
        .ok rest

namespace Skips

variable {fuel : Nat} (skips : Skips fuel)
include skips

private theorem value_succ (v : Value) (rest : Text) (enough : v.write.length ≤ fuel + 1)
    (closes : Closes rest) : skipValue (fuel + 1) (v.write ++ rest) = .ok rest := by
  cases v with
  | null => rfl
  | flag b => cases b <;> rfl
  | number n => exact skipValue_number fuel n closes
  | text t =>
      rw [Value.write, writeText_append]
      exact skipString_written t rest
  | list items =>
      rw [Value.write, List.length_append, List.length_cons, List.length_singleton] at enough
      rw [Value.write, List.append_assoc, List.cons_append, List.singleton_append, skipValue_list]
      cases items with
      | nil => rfl
      | cons item others =>
          have skipped := skips.items item others rest (by omega)
          obtain ⟨c, t, starts, solid, opens⟩ := item.write_eq_cons
          rw [Value.writeAll, join_comma_append, starts, List.cons_append] at skipped ⊢
          rw [skipSpace_cons solid]
          split
          · next same => exact absurd (List.cons.inj same).1 opens
          · exact skipped
  | object members =>
      rw [Value.write, List.length_append, List.length_cons, List.length_singleton] at enough
      rw [Value.write, List.append_assoc, List.cons_append, List.singleton_append,
        skipValue_object]
      cases members with
      | nil => rfl
      | cons member others =>
          have skipped := skips.members member others rest (by omega)
          obtain ⟨name, value⟩ := member
          rw [Value.writeMembers, Value.writeMember, join_comma_append, List.append_assoc,
            writeText_append] at skipped ⊢
          exact skipped

private theorem items_succ (item : Value) (others : List Value) (rest : Text)
    (enough : (Text.join [','] (Value.writeAll (item :: others))).length < fuel + 1) :
    skipItems (fuel + 1) (Text.join [','] (Value.writeAll (item :: others)) ++ ']' :: rest) =
      .ok rest := by
  rw [Value.writeAll] at enough ⊢
  obtain ⟨shorter, later⟩ := length_join_comma item.write (Value.writeAll others)
  have closes := closes_behind (Value.writeAll others) (.inl rfl) rest
  rw [join_comma_append, skipItems, skips.value item _ (by omega) closes, Except.bind]
  cases others with
  | nil => rfl
  | cons next others =>
      have filled : Value.writeAll (next :: others) ≠ [] := List.cons_ne_nil _ _
      have length := later filled
      rw [if_neg filled]
      exact skips.items next others rest (by omega)

private theorem members_succ (member : Text × Value) (others : List (Text × Value)) (rest : Text)
    (enough : (Text.join [','] (Value.writeMembers (member :: others))).length < fuel + 1) :
    skipMembers (fuel + 1)
        (Text.join [','] (Value.writeMembers (member :: others)) ++ '\x7d' :: rest) =
      .ok rest := by
  obtain ⟨name, value⟩ := member
  rw [Value.writeMembers, Value.writeMember] at enough ⊢
  obtain ⟨shorter, later⟩ :=
    length_join_comma (writeText name ++ ':' :: value.write) (Value.writeMembers others)
  rw [List.length_append, List.length_cons] at shorter later
  have closes := closes_behind (Value.writeMembers others) (.inr rfl) rest
  have skipped := skips.value value _ (by omega) closes
  rw [join_comma_append, List.append_assoc, writeText_append, skipMembers, skipSpace_cons rfl]
  simp only [skipString_written, Except.bind, List.cons_append]
  rw [skipSpace_cons rfl]
  simp only [skipped]
  cases others with
  | nil => rfl
  | cons next others =>
      have filled : Value.writeMembers (next :: others) ≠ [] := List.cons_ne_nil _ _
      have length := later filled
      rw [if_neg filled]
      exact skips.members next others rest (by omega)

end Skips

private theorem skips (fuel : Nat) : Skips fuel := by
  induction fuel with
  | zero =>
      refine ⟨fun v rest enough => ?_, fun _ _ _ none => absurd none (Nat.not_lt_zero _),
        fun _ _ _ none => absurd none (Nat.not_lt_zero _)⟩
      obtain ⟨c, t, starts, -⟩ := v.write_eq_cons
      rw [starts] at enough
      exact absurd enough (Nat.not_succ_le_zero _)
  | succ fuel ih => exact ⟨ih.value_succ, ih.items_succ, ih.members_succ⟩

/-- A value is skipped where it stands in a list or an object. -/
theorem skip_write (v : Value) {rest : Text} (closes : Closes rest) :
    skip (v.write ++ rest) = .ok rest :=
  (skips _).value v rest (by rw [List.length_append]; omega) closes

end Json
end ArticleMarkdown
