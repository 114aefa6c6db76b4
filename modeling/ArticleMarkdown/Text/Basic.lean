/-!
# Texts

A text is the list of its characters. Splitting, joining and replacing are recursions on that
list, so each law about them is an induction. Names in markup, schemes and file extensions are
compared and folded within ASCII only; whitespace is what Unicode calls so.
-/

namespace ArticleMarkdown

/-- A text, as the list of its characters. -/
abbrev Text := List Char

namespace Text

/-- The pieces between the characters that satisfy `p`; one more than there are such characters. -/
def splitBy (p : Char → Bool) : Text → List Text
  | [] => [[]]
  | c :: rest =>
    if p c then [] :: splitBy p rest
    else match splitBy p rest with
      | [] => [[c]]
      | piece :: pieces => (c :: piece) :: pieces

/-- The pieces between occurrences of one character. -/
def splitOn (separator : Char) (t : Text) : List Text :=
  splitBy (· == separator) t

/-- The pieces one after another, with `separator` between neighbours. -/
def join (separator : Text) : List Text → Text
  | [] => []
  | [piece] => piece
  | piece :: pieces => piece ++ separator ++ join separator pieces

/-- Every character that satisfies `p` replaced by `replacement`. -/
def replaceBy (p : Char → Bool) (replacement : Text) (t : Text) : Text :=
  t.flatMap fun c => if p c then replacement else [c]

/-- Every occurrence of one character replaced by `replacement`. -/
def replaceChar (target : Char) (replacement : Text) (t : Text) : Text :=
  replaceBy (· == target) replacement t

/-- What follows `start`, if the text starts with it. -/
def dropPrefix? : (start : Text) → (t : Text) → Option Text
  | [], t => some t
  | _ :: _, [] => none
  | a :: start, c :: t => if a == c then dropPrefix? start t else none

/-- Whether the text starts with `start`. -/
def startsWith (start t : Text) : Bool :=
  (dropPrefix? start t).isSome

/-- The text without one final `last`, if it ends in it. -/
def dropLast? (last : Char) (t : Text) : Option Text :=
  if t.getLast? = some last then some t.dropLast else none

/-- The text without its last characters that satisfy `p`. -/
def dropEndWhile (p : Char → Bool) (t : Text) : Text :=
  (t.reverse.dropWhile p).reverse

/-- The text before the first `separator` and the text after it. -/
def splitFirst? (separator : Char) : Text → Option (Text × Text)
  | [] => none
  | c :: rest =>
    if c == separator then some ([], rest)
    else (splitFirst? separator rest).map fun (before, after) => (c :: before, after)

/-- The text before the last `separator` and the text after it. -/
def splitLast? (separator : Char) (t : Text) : Option (Text × Text) :=
  (splitFirst? separator t.reverse).map fun (after, before) => (before.reverse, after.reverse)

/-- The text after the last `separator`, or all of it when there is none. -/
def afterLast (separator : Char) (t : Text) : Text :=
  (t.reverse.takeWhile (· != separator)).reverse

/-- `c` written `n` times. -/
def repeated (n : Nat) (c : Char) : Text :=
  List.replicate n c

/-- The text without the occurrences of `start`, found from left to right. -/
def removeAll (start : Text) (t : Text) : Text :=
  go 0 t
where
  /-- Removes occurrences; `skip` characters still belong to the last one found. -/
  go : Nat → Text → Text
    | _, [] => []
    | skip + 1, _ :: rest => go skip rest
    | 0, c :: rest =>
      if startsWith start (c :: rest) then go (start.length - 1) rest else c :: go 0 rest

/-- Whether a text comes before another, or is equal to it, in the order of code points. -/
def isAtMost : Text → Text → Bool
  | [], _ => true
  | _ :: _, [] => false
  | a :: s, b :: t => a < b || (a == b && isAtMost s t)

/-! ## Letters and digits of ASCII -/

/-- The lower-case form of an ASCII letter; other characters unchanged. -/
def lowerChar (c : Char) : Char :=
  if 'A' ≤ c ∧ c ≤ 'Z' then Char.ofNat (c.toNat + 32) else c

/-- The text with ASCII letters in lower case. -/
def lower (t : Text) : Text :=
  t.map lowerChar

/-- Equality up to the case of ASCII letters. -/
def eqIgnoringCase (s t : Text) : Bool :=
  lower s == lower t

/-- An ASCII letter. -/
def isAsciiLetter (c : Char) : Bool :=
  ('a' ≤ c && c ≤ 'z') || ('A' ≤ c && c ≤ 'Z')

/-- An ASCII decimal digit. -/
def isAsciiDigit (c : Char) : Bool :=
  '0' ≤ c && c ≤ '9'

/-- An ASCII letter or decimal digit. -/
def isAsciiAlphanumeric (c : Char) : Bool :=
  isAsciiLetter c || isAsciiDigit c

/-- The value of a hexadecimal digit of either case. -/
def hexDigitValue? (c : Char) : Option Nat :=
  if isAsciiDigit c then some (c.toNat - 48)
  else if 'a' ≤ c ∧ c ≤ 'f' then some (c.toNat - 87)
  else if 'A' ≤ c ∧ c ≤ 'F' then some (c.toNat - 55)
  else none

/-! ## Whitespace -/

/-- A character with the Unicode property White_Space. -/
def isSpace (c : Char) : Bool :=
  let n := c.toNat
  (9 ≤ n && n ≤ 13) || n == 0x20 || n == 0x85 || n == 0xA0 || n == 0x1680 ||
    (0x2000 ≤ n && n ≤ 0x200A) || n == 0x2028 || n == 0x2029 || n == 0x202F || n == 0x205F ||
    n == 0x3000

/-- The text without whitespace at its start. -/
def trimStart (t : Text) : Text :=
  t.dropWhile isSpace

/-- The text without whitespace at its end. -/
def trimEnd (t : Text) : Text :=
  dropEndWhile isSpace t

/-- The text without whitespace at either end. -/
def trim (t : Text) : Text :=
  trimEnd (trimStart t)

/-- A text of whitespace only. -/
def isBlank (t : Text) : Bool :=
  t.all isSpace

/-- The maximal runs of characters that are no whitespace. -/
def words (t : Text) : List Text :=
  (splitBy isSpace t).filter (· != [])

/-- Line feed or carriage return. -/
def isLineBreak (c : Char) : Bool :=
  c == '\n' || c == '\r'

/-! ## Invisible formatting characters -/

/-- A formatting character that renders as nothing. -/
def isInvisible (c : Char) : Bool :=
  let n := c.toNat
  n == 0xAD || (0x200B ≤ n && n ≤ 0x200F) || (0x2060 ≤ n && n ≤ 0x2064) || n == 0xFEFF

/-- The text without its invisible formatting characters. -/
def stripInvisible (t : Text) : Text :=
  t.filter fun c => !isInvisible c

end Text
end ArticleMarkdown
