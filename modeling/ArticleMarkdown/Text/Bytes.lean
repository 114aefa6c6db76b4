import ArticleMarkdown.Text.Basic

/-!
# Texts as bytes

Encoding in UTF-8 and in Base64, and the numerals that write bytes and counts.
-/

namespace ArticleMarkdown

/-- A sequence of bytes. -/
abbrev Bytes := List UInt8

namespace Text

/-- The text in UTF-8. -/
def utf8 (t : Text) : Bytes :=
  t.flatMap String.utf8EncodeChar

/-- The number of bytes of the text in UTF-8. -/
def utf8Length : Text → Nat
  | [] => 0
  | c :: rest => c.utf8Size + utf8Length rest

/-- The longest initial part of at most `limit` bytes in UTF-8. -/
def takeUtf8 : (limit : Nat) → Text → Text
  | _, [] => []
  | limit, c :: rest =>
    if c.utf8Size ≤ limit then c :: takeUtf8 (limit - c.utf8Size) rest else []

/-- The text that the bytes encode, if they are well-formed UTF-8. -/
def ofUtf8? (bytes : Bytes) : Option Text :=
  (String.fromUTF8? ⟨bytes.toArray⟩).map String.toList

/-- A number in decimal. -/
def ofNat (n : Nat) : Text :=
  Nat.toDigits 10 n

/-- A byte as two hexadecimal digits in lower case. -/
def hexByte (b : UInt8) : Text :=
  [Nat.digitChar (b.toNat / 16), Nat.digitChar (b.toNat % 16)]

/-! ## Base64 -/

/-- The character for a value below 64. -/
def base64Digit (n : Nat) : Char :=
  if n < 26 then Char.ofNat (n + 65)
  else if n < 52 then Char.ofNat (n + 71)
  else if n < 62 then Char.ofNat (n - 4)
  else if n == 62 then '+'
  else '/'

/-- The digit for the six bits of `n` that stand above the lowest `shift` bits. -/
def base64At (n shift : Nat) : Char :=
  base64Digit ((n >>> shift) % 64)

/-- Bytes in Base64. -/
def base64 : Bytes → Text
  | a :: b :: c :: rest =>
    let n := a.toNat * 65536 + b.toNat * 256 + c.toNat
    base64At n 18 :: base64At n 12 :: base64At n 6 :: base64At n 0 :: base64 rest
  | [a, b] =>
    let n := a.toNat * 65536 + b.toNat * 256
    [base64At n 18, base64At n 12, base64At n 6, '=']
  | [a] =>
    let n := a.toNat * 65536
    [base64At n 18, base64At n 12, '=', '=']
  | [] => []

end Text
end ArticleMarkdown
