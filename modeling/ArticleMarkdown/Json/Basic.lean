import ArticleMarkdown.Text.Basic
import ArticleMarkdown.Text.Bytes

/-!
# JSON

Readers take a text and return what they read together with the rest. A text that is not JSON is
refused at the first character where that shows, in one of two ways: something else was expected,
or the text ended too early. Writing is compact: quotes, backslashes and control characters are
escaped, with a letter where JSON has one.
-/

namespace ArticleMarkdown.Json

/-- Why a JSON text does not give a value. -/
inductive Fault where
  /-- A character that JSON does not allow at its place. -/
  | malformed
  | incomplete
  /-- The value is JSON, but not of the kind that is expected. -/
  | mismatched
  deriving DecidableEq, Repr

/-- A value and the text after it. -/
abbrev Result (α : Type) := Except Fault (α × Text)

/-- JSON whitespace. -/
def isSpace (c : Char) : Bool :=
  c == ' ' || c == '\t' || c == '\n' || c == '\r'

/-- The text after leading whitespace. -/
def skipSpace (t : Text) : Text :=
  t.dropWhile isSpace

/-- The fault of text where something else is expected. -/
def unexpected : Text → Fault
  | [] => .incomplete
  | _ :: _ => .malformed

/-- Reads one fixed text. -/
def expect : (expected : Text) → Text → Except Fault Text
  | [], t => .ok t
  | _ :: _, [] => .error .incomplete
  | a :: expected, c :: t => if a == c then expect expected t else .error .malformed

/-- The number that four hexadecimal digits write. -/
def unit? (a b c d : Char) : Option Nat :=
  ([a, b, c, d].mapM Text.hexDigitValue?).map fun digits => digits.foldl (fun n k => n * 16 + k) 0

/-- The fault of an escape that has fewer than four characters to read. -/
def shortUnit (t : Text) : Fault :=
  if Text.utf8Length t < 4 then .incomplete else .malformed

/-- The character that a letter after a backslash stands for. -/
def escaped? : Char → Option Char
  | '"' => some '"'
  | '\\' => some '\\'
  | '/' => some '/'
  | 'b' => some '\x08'
  | 'f' => some '\x0c'
  | 'n' => some '\n'
  | 'r' => some '\r'
  | 't' => some '\t'
  | _ => none

/-- Puts a character in front of a text that was read. -/
def prepend (c : Char) (result : Result Text) : Result Text :=
  result.map fun (t, rest) => (c :: t, rest)

/-- Reads a string after its opening quote. -/
def string : Text → Result Text
  | [] => .error .incomplete
  | '"' :: rest => .ok ([], rest)
  | '\\' :: 'u' :: a :: b :: c :: d :: rest =>
    match unit? a b c d with
    | none => .error .malformed
    | some high =>
      if high < 0xD800 || 0xDFFF < high then prepend (Char.ofNat high) (string rest)
      else if 0xDC00 ≤ high then .error .malformed
      else match rest with
        | '\\' :: 'u' :: e :: f :: g :: h :: after =>
          match unit? e f g h with
          | some low =>
            if 0xDC00 ≤ low && low ≤ 0xDFFF then
              prepend (Char.ofNat ((high - 0xD800) * 0x400 + (low - 0xDC00) + 0x10000))
                (string after)
            else .error .malformed
          | none => .error .malformed
        | '\\' :: 'u' :: short => .error (shortUnit short)
        | ['\\'] => .error .incomplete
        | [] => .error .incomplete
        | _ => .error .malformed
  | '\\' :: 'u' :: short => .error (shortUnit short)
  | '\\' :: c :: rest =>
    match escaped? c with
    | some meant => prepend meant (string rest)
    | none => .error .malformed
  | ['\\'] => .error .incomplete
  | c :: rest => if c.toNat < 0x20 then .error .malformed else prepend c (string rest)

/-- Skips a string after its opening quote; escaped units need not form characters. -/
def skipString : Text → Except Fault Text
  | [] => .error .incomplete
  | '"' :: rest => .ok rest
  | '\\' :: 'u' :: a :: b :: c :: d :: rest =>
    if (unit? a b c d).isSome then skipString rest else .error .malformed
  | '\\' :: 'u' :: short => .error (shortUnit short)
  | '\\' :: c :: rest => if (escaped? c).isSome then skipString rest else .error .malformed
  | ['\\'] => .error .incomplete
  | c :: rest => if c.toNat < 0x20 then .error .malformed else skipString rest

/-- Reads at least one digit; `atEnd` is the fault of a text that ends before it. -/
def digits (atEnd : Fault) (t : Text) : Result Text :=
  match t.takeWhile Text.isAsciiDigit, t.dropWhile Text.isAsciiDigit with
  | [], [] => .error atEnd
  | [], _ :: _ => .error .malformed
  | ds, rest => .ok (ds, rest)

/-- The parts of a number: digits before and after the point, and the signed exponent. -/
structure Numeral where
  whole : Text
  fraction : Text
  exponent : Int
  deriving DecidableEq, Repr

/-- The number that decimal digits write. -/
def decimal (ds : Text) : Nat :=
  ds.foldl (fun n d => n * 10 + (d.toNat - 48)) 0

/-- Reads an exponent, if one follows. -/
def exponent (atEnd : Fault) (t : Text) : Result Int :=
  match t with
  | c :: rest =>
    if c == 'e' || c == 'E' then
      let (negative, rest) := match rest with
        | '-' :: rest => (true, rest)
        | '+' :: rest => (false, rest)
        | _ => (false, rest)
      (digits atEnd rest).map fun (ds, rest) =>
        (if negative then -(decimal ds : Int) else decimal ds, rest)
    else .ok (0, t)
  | [] => .ok (0, [])

/-- Reads a number after its sign. -/
def number (atEnd : Fault) (t : Text) : Result Numeral :=
  (digits atEnd t).bind fun (whole, rest) =>
    if whole.length > 1 && whole.head? == some '0' then .error .malformed
    else
      (match rest with
        | '.' :: rest => digits atEnd rest
        | _ => .ok ([], rest)).bind fun (fraction, rest) =>
        (exponent atEnd rest).map fun (e, rest) => (⟨whole, fraction, e⟩, rest)

/-- The number from which on a double-precision number is infinite. -/
def tooLarge : Nat :=
  Nat.pow 2 1024 - Nat.pow 2 970

/-- Whether a number is within the range of double precision. -/
def Numeral.isFinite (n : Numeral) : Bool :=
  let significant := (n.whole ++ n.fraction).dropWhile (· == '0')
  let leadingZeros := (n.whole ++ n.fraction).length - significant.length
  let magnitude : Int := n.whole.length - leadingZeros + n.exponent
  significant.isEmpty || magnitude < 309 ||
    (magnitude == 309 &&
      decimal significant * Nat.pow 10 309 < tooLarge * Nat.pow 10 significant.length)

/-- The fault of a value of an unexpected kind: mismatched if its start is JSON. -/
def mismatch (t : Text) : Fault :=
  let fromResult {α : Type} (accept : α → Bool) : Except Fault α → Fault
    | .ok a => if accept a then .mismatched else .malformed
    | .error fault => fault
  match t with
  | [] => .incomplete
  | 'n' :: rest => fromResult (fun _ => true) (expect "ull".toList rest)
  | 't' :: rest => fromResult (fun _ => true) (expect "rue".toList rest)
  | 'f' :: rest => fromResult (fun _ => true) (expect "alse".toList rest)
  | '"' :: rest => fromResult (fun _ => true) (string rest)
  | '[' :: _ => .mismatched
  | '\x7b' :: _ => .mismatched
  | '-' :: rest => fromResult (fun (n, _) => n.isFinite) (number .incomplete rest)
  | c :: rest =>
    if Text.isAsciiDigit c then
      fromResult (fun (n, _) => n.isFinite) (number .incomplete (c :: rest))
    else .malformed

/-- Reads a string value. -/
def text (t : Text) : Result Text :=
  match skipSpace t with
  | '"' :: rest => string rest
  | other => .error (mismatch other)

/-- Reads a truth value. -/
def flag (t : Text) : Result Bool :=
  match skipSpace t with
  | 't' :: rest => (expect "rue".toList rest).map fun rest => (true, rest)
  | 'f' :: rest => (expect "alse".toList rest).map fun rest => (false, rest)
  | other => .error (mismatch other)

mutual

/-- Skips a value of any kind. The fuel bounds the number of values. -/
def skipValue : (fuel : Nat) → Text → Except Fault Text
  | 0, _ => .error .incomplete
  | fuel + 1, t =>
    match skipSpace t with
    | [] => .error .incomplete
    | 'n' :: rest => expect "ull".toList rest
    | 't' :: rest => expect "rue".toList rest
    | 'f' :: rest => expect "alse".toList rest
    | '"' :: rest => skipString rest
    | '[' :: rest =>
      match skipSpace rest with
      | ']' :: rest => .ok rest
      | rest => skipItems fuel rest
    | '\x7b' :: rest =>
      match skipSpace rest with
      | '\x7d' :: rest => .ok rest
      | rest => skipMembers fuel rest
    | '-' :: rest => (number .malformed rest).map (·.2)
    | c :: rest => (number .malformed (c :: rest)).map (·.2)

/-- Skips the remaining items of a list, at least one. -/
def skipItems : (fuel : Nat) → Text → Except Fault Text
  | 0, _ => .error .incomplete
  | fuel + 1, t =>
    (skipValue fuel t).bind fun rest =>
      match skipSpace rest with
      | ',' :: rest => skipItems fuel rest
      | ']' :: rest => .ok rest
      | rest => .error (unexpected rest)

/-- Skips the remaining members of an object, at least one. -/
def skipMembers : (fuel : Nat) → Text → Except Fault Text
  | 0, _ => .error .incomplete
  | fuel + 1, t =>
    match skipSpace t with
    | '"' :: rest =>
      (skipString rest).bind fun rest =>
        match skipSpace rest with
        | ':' :: rest =>
          (skipValue fuel rest).bind fun rest =>
            match skipSpace rest with
            | ',' :: rest => skipMembers fuel rest
            | '\x7d' :: rest => .ok rest
            | rest => .error (unexpected rest)
        | rest => .error (unexpected rest)
    | rest => .error (unexpected rest)

end

/-- Skips a value of any kind. -/
def skip (t : Text) : Except Fault Text :=
  skipValue (t.length + 1) t

/-! ## Writing -/

/-- A character as it is written in a string. -/
def writeChar (c : Char) : Text :=
  match c with
  | '"' => ['\\', '"']
  | '\\' => ['\\', '\\']
  | '\x08' => ['\\', 'b']
  | '\t' => ['\\', 't']
  | '\n' => ['\\', 'n']
  | '\x0c' => ['\\', 'f']
  | '\r' => ['\\', 'r']
  | c =>
    if c.toNat < 0x20 then ['\\', 'u', '0', '0'] ++ Text.hexByte (UInt8.ofNat c.toNat) else [c]

/-- A text as a JSON string. -/
def writeText (t : Text) : Text :=
  '"' :: t.flatMap writeChar ++ ['"']

/-- A truth value in JSON. -/
def writeFlag (b : Bool) : Text :=
  if b then "true".toList else "false".toList

end ArticleMarkdown.Json
