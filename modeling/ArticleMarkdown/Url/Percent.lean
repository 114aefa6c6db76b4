import ArticleMarkdown.Text.Basic
import ArticleMarkdown.Text.Bytes

/-!
# Percent encoding

Each part of an address has its own set of characters that are written as the percent-encoded
bytes of their UTF-8 form. Characters outside ASCII always are.
-/

namespace ArticleMarkdown.Url

/-- A byte in percent encoding. -/
def percentByte (b : UInt8) : Text :=
  let digit (n : Nat) : Char := (Nat.digitChar n).toUpper
  ['%', digit (b.toNat / 16), digit (b.toNat % 16)]

/-- The text with the characters of `reserved`, and all beyond ASCII, percent-encoded. -/
def percentEncode (reserved : Char → Bool) (t : Text) : Text :=
  t.flatMap fun c =>
    if reserved c || 0x80 ≤ c.toNat then (Text.utf8 [c]).flatMap percentByte else [c]

/-- The bytes that a percent-encoded text stands for; a percent sign that no two hexadecimal
digits follow stands for itself. -/
def percentDecode : Text → Bytes
  | [] => []
  | '%' :: high :: low :: rest =>
    match Text.hexDigitValue? high, Text.hexDigitValue? low with
    | some h, some l => UInt8.ofNat (16 * h + l) :: percentDecode rest
    | _, _ => Text.utf8 ['%'] ++ percentDecode (high :: low :: rest)
  | c :: rest => Text.utf8 [c] ++ percentDecode rest

/-- ASCII control characters. -/
def isControl (c : Char) : Bool :=
  c.toNat ≤ 0x1F || c.toNat == 0x7F

/-- What a path writes percent-encoded. -/
def isPathReserved (c : Char) : Bool :=
  isControl c || " \"<>`#?\x7b\x7d".toList.contains c

/-- What a query of the web writes percent-encoded. -/
def isQueryReserved (c : Char) : Bool :=
  isControl c || " \"#<>'".toList.contains c

/-- What a fragment writes percent-encoded. -/
def isFragmentReserved (c : Char) : Bool :=
  isControl c || " \"<>`".toList.contains c

/-- What a user name or password writes percent-encoded. -/
def isUserReserved (c : Char) : Bool :=
  isPathReserved c || "/:;=@[\\]^|".toList.contains c

end ArticleMarkdown.Url
