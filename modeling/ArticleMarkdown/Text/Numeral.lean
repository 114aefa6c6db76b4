import ArticleMarkdown.Text.Basic

/-!
# Numerals

Decimal digits of all scripts, the reading of counts, and code points in hexadecimal. Properties of
characters are given by ranges of code points; tables write a range as two numbers with a dash
between them, or as one number.
-/

namespace ArticleMarkdown

namespace Text

/-- The code points of the digit zero in each script that has decimal digits in sequence. -/
def zeroDigits : List Nat :=
  [0x30, 0x660, 0x6F0, 0x7C0, 0x966, 0x9E6, 0xA66, 0xAE6, 0xB66, 0xBE6, 0xC66, 0xCE6, 0xD66,
    0xDE6, 0xE50, 0xED0, 0xF20, 0x1040, 0x1090, 0x17E0, 0x1810, 0x1946, 0x19D0, 0x1A80, 0x1A90,
    0x1B50, 0x1BB0, 0x1C40, 0x1C50, 0xA620, 0xA8D0, 0xA900, 0xA9D0, 0xA9F0, 0xAA50, 0xABF0,
    0xFF10, 0x104A0, 0x10D30, 0x10D40, 0x11066, 0x110F0, 0x11136, 0x111D0, 0x112F0, 0x11450,
    0x114D0, 0x11650, 0x116C0, 0x116D0, 0x116DA, 0x11730, 0x118E0, 0x11950, 0x11BF0, 0x11C50,
    0x11D50, 0x11DA0, 0x11F50, 0x16130, 0x16A60, 0x16AC0, 0x16B50, 0x16D70, 0x1CCF0, 0x1D7CE,
    0x1D7D8, 0x1D7E2, 0x1D7EC, 0x1D7F6, 0x1E140, 0x1E2F0, 0x1E4F0, 0x1E5F1, 0x1E950, 0x1FBF0]

/-- A decimal digit of any script. -/
def isDecimalDigit (c : Char) : Bool :=
  zeroDigits.any fun first => first ≤ c.toNat && c.toNat ≤ first + 9

/-- The largest count there is. -/
def largestCount : Nat := 18446744073709551615

/-- The count some steps after another one. Behind the largest count stands zero, as where overflow
is not checked; with checks the program stops there instead. -/
def countAfter (first steps : Nat) : Nat :=
  (first + steps) % (largestCount + 1)

/-- Reads a count in ASCII digits, with or without a plus sign. -/
def count? (t : Text) : Option Nat :=
  let digits := match t with
    | '+' :: digits => digits
    | digits => digits
  if digits.isEmpty || !digits.all isAsciiDigit then none
  else
    let n := digits.foldl (fun n d => n * 10 + (d.toNat - 48)) 0
    if n ≤ largestCount then some n else none

end Text

/-! ## Ranges of code points -/

/-- The number that hexadecimal digits write. -/
def Text.hexNumber (digits : Text) : Nat :=
  digits.foldl (fun n d => n * 16 + (hexDigitValue? d).getD 0) 0

/-- The code points from one to another. -/
structure CodeRange where
  first : Nat
  last : Nat
  deriving DecidableEq, Repr

namespace CodeRange

/-- Whether a code point lies in a range. -/
def holds (range : CodeRange) (code : Nat) : Bool :=
  range.first ≤ code && code ≤ range.last

/-- Whether a code point lies in one of several ranges. -/
def anyHolds (ranges : List CodeRange) (code : Nat) : Bool :=
  ranges.any (·.holds code)

/-- Reads a range. -/
def read (entry : Text) : CodeRange :=
  match Text.splitFirst? '-' entry with
  | some (first, last) => ⟨Text.hexNumber first, Text.hexNumber last⟩
  | none => ⟨Text.hexNumber entry, Text.hexNumber entry⟩

/-- Reads lines of ranges with spaces between them. -/
def readAll (lines : List String) : List CodeRange :=
  lines.flatMap fun line => (Text.splitOn ' ' line.toList).map read

end CodeRange
end ArticleMarkdown
