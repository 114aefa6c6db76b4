import ArticleMarkdown.Html.Entity

/-!
# Character references

An ampersand may start a reference to a character by name or by number. An ampersand that starts
none stands for itself.
-/

namespace ArticleMarkdown.Html.Reference

/-- What the numbers from 0x80 to 0x9F stand for: the characters that have these numbers in the
western code page, where there are any. -/
def westernCharacters : List Nat :=
  [0x20AC, 0x81, 0x201A, 0x0192, 0x201E, 0x2026, 0x2020, 0x2021, 0x02C6, 0x2030, 0x0160, 0x2039,
    0x0152, 0x8D, 0x017D, 0x8F, 0x90, 0x2018, 0x2019, 0x201C, 0x201D, 0x2022, 0x2013, 0x2014,
    0x02DC, 0x2122, 0x0161, 0x203A, 0x0153, 0x9D, 0x017E, 0x0178]

/-- The character that a number refers to. -/
def ofNumber (n : Nat) : Char :=
  if n = 0 || n > 0x10FFFF || (0xD800 ≤ n && n ≤ 0xDFFF) then '\ufffd'
  else if 0x80 ≤ n && n ≤ 0x9F then Char.ofNat (westernCharacters.getD (n - 0x80) n)
  else Char.ofNat n

/-- What a reference stands for, and the text after it. -/
abbrev Match := Option (Text × Text)

/-- Reads digits of a base and a semicolon that may follow. -/
def number? (base : Nat) (t : Text) : Match :=
  let isDigit (c : Char) : Bool := (Text.hexDigitValue? c).any (· < base)
  let digits := t.takeWhile isDigit
  let rest := t.dropWhile isDigit
  if digits.isEmpty then none
  else
    let n := digits.foldl (fun n d => n * base + (Text.hexDigitValue? d).getD 0) 0
    some ([ofNumber n], if rest.head? == some ';' then rest.tail else rest)

/-- The longest initial part, of at most `length` characters, that is a name without semicolon. -/
def longestBare? (t : Text) : (length : Nat) → Match
  | 0 => none
  | length + 1 =>
    match Entity.bare? (t.take (length + 1)) with
    | some characters => some (characters, t.drop (length + 1))
    | none => longestBare? t length

/-- The length of the longest name. -/
def longestName : Nat := 31

/-- Reads a name. In an attribute value, a name without semicolon counts only if neither an equals
sign nor a letter or digit follows. -/
def name? (inValue : Bool) (t : Text) : Match :=
  let name := t.takeWhile Text.isAsciiAlphanumeric
  let rest := t.dropWhile Text.isAsciiAlphanumeric
  let closed := if rest.head? == some ';' then Entity.closed? name else none
  match closed with
  | some characters => some (characters, rest.tail)
  | none =>
    match longestBare? t (min name.length longestName) with
    | some (characters, after) =>
      let refused := inValue && after.head?.any fun c => c == '=' || Text.isAsciiAlphanumeric c
      if refused then none else some (characters, after)
    | none => none

/-- Reads a reference after its ampersand. -/
def read? (inValue : Bool) (t : Text) : Match :=
  match t with
  | '#' :: 'x' :: rest => number? 16 rest
  | '#' :: 'X' :: rest => number? 16 rest
  | '#' :: rest => number? 10 rest
  | _ => name? inValue t

/-- Replaces references; `skip` characters still belong to a reference that was replaced. -/
def decodeFrom (inValue : Bool) : (skip : Nat) → Text → Text
  | _, [] => []
  | skip + 1, _ :: rest => decodeFrom inValue skip rest
  | 0, c :: rest =>
    if c == '&' then
      match read? inValue rest with
      | some (characters, after) =>
        characters ++ decodeFrom inValue (rest.length - after.length) rest
      | none => c :: decodeFrom inValue 0 rest
    else c :: decodeFrom inValue 0 rest

/-- The text with all references replaced. -/
def decode (inValue : Bool) (t : Text) : Text :=
  decodeFrom inValue 0 t

end ArticleMarkdown.Html.Reference
