import ArticleMarkdown.Text.Basic
import ArticleMarkdown.Text.Bytes

/-!
# Numeric hosts

Internet addresses of both versions: how they are read from the host part of an address, and the
one form in which they are written.
-/

namespace ArticleMarkdown.Url

/-- The host part of an address. -/
inductive Host where
  /-- A name: a domain in its ASCII form, or the host of a scheme without domains. -/
  | name (text : Text)
  | ipv4 (value : Nat)
  | ipv6 (pieces : List Nat)
  deriving DecidableEq, Repr

namespace Host

/-- The number that digits in a base write, most significant first. -/
def digitsValue (base : Nat) (digits : List Nat) : Nat :=
  digits.foldl (fun n d => n * base + d) 0

/-- A number in decimal, octal (after a zero) or hexadecimal (after 0x) notation. -/
def number? (t : Text) : Option Nat :=
  let read (base : Nat) (digits : Text) : Option Nat :=
    (digits.mapM Text.hexDigitValue?).bind fun values =>
      if values.all (· < base) then some (digitsValue base values) else none
  match t with
  | [] => none
  | '0' :: 'x' :: digits => read 16 digits
  | '0' :: 'X' :: digits => read 16 digits
  | '0' :: d :: digits => read 8 (d :: digits)
  | _ => read 10 t

/-- The labels of a domain, without the empty one after a final dot. -/
def labels (domain : Text) : List Text :=
  let parts := Text.splitOn '.' domain
  if parts.getLast? = some [] then parts.dropLast else parts

/-- Whether the last label of a domain is a number, so that the domain must be an address. -/
def endsInNumber (domain : Text) : Bool :=
  match (labels domain).getLast? with
  | none => false
  | some last => (!last.isEmpty && last.all Text.isAsciiDigit) || (number? last).isSome

/-- Reads a version 4 address of up to four numbers; the last one fills the remaining bytes. -/
def ipv4? (domain : Text) : Option Nat :=
  let parts := labels domain
  if parts.length > 4 then none
  else (parts.mapM number?).bind fun numbers =>
    match numbers.getLast? with
    | none => none
    | some last =>
      let leading := numbers.dropLast
      if leading.all (· ≤ 255) && last < Nat.pow 256 (4 - leading.length) then
        some (last + digitsValue 256 leading * Nat.pow 256 (4 - leading.length))
      else none

/-- A version 4 address with dots. -/
def writeIpv4 (value : Nat) : Text :=
  Text.join ['.'] ([3, 2, 1, 0].map fun i => Text.ofNat (value / Nat.pow 256 i % 256))

/-- Reads a piece of one to four hexadecimal digits. -/
def piece? (t : Text) : Option Nat :=
  if t.isEmpty || t.length > 4 then none
  else (t.mapM Text.hexDigitValue?).map (digitsValue 16)

/-- Reads one of the four decimal numbers that may end a version 6 address. -/
def decimalByte? (t : Text) : Option Nat :=
  if t.isEmpty || !t.all Text.isAsciiDigit || (t.length > 1 && t.head? == some '0') then none
  else (t.mapM Text.hexDigitValue?).bind fun digits =>
    let n := digitsValue 10 digits
    if n ≤ 255 then some n else none

/-- Reads pieces separated by colons; the last may be a dotted version 4 address when
`dotted` allows it. -/
def pieces? (dotted : Bool) : List Text → Option (List Nat)
  | [] => some []
  | [last] =>
    match piece? last with
    | some n => some [n]
    | none =>
      if dotted then
        match (Text.splitOn '.' last).mapM decimalByte? with
        | some [a, b, c, d] => some [a * 256 + b, c * 256 + d]
        | _ => none
      else none
  | t :: rest => (piece? t).bind fun n => (pieces? dotted rest).map (n :: ·)

/-- The text before the first pair of colons and the text after it. -/
def splitGap? : Text → Option (Text × Text)
  | ':' :: ':' :: rest => some ([], rest)
  | c :: rest => (splitGap? rest).map fun (before, after) => (c :: before, after)
  | [] => none

/-- The texts between colons; none for the empty text. -/
def colonParts (t : Text) : List Text :=
  if t.isEmpty then [] else Text.splitOn ':' t

/-- Reads a version 6 address; a pair of colons stands for one or more pieces of zero. -/
def ipv6? (t : Text) : Option (List Nat) :=
  match splitGap? t with
  | none => (pieces? true (colonParts t)).bind fun ps => if ps.length = 8 then some ps else none
  | some (before, after) =>
    (pieces? false (colonParts before)).bind fun front =>
      (pieces? true (colonParts after)).bind fun back =>
        if front.length + back.length ≤ 7 then
          some (front ++ List.replicate (8 - front.length - back.length) 0 ++ back)
        else none

/-- The length of the run of zeros at the start. -/
def zeroRun (pieces : List Nat) : Nat :=
  (pieces.takeWhile (· == 0)).length

/-- The start and length of the first longest run of at least two zeros. -/
def longestZeroRun? (pieces : List Nat) : Option (Nat × Nat) :=
  let best := (List.range pieces.length).foldl
    (fun (best : Nat × Nat) i =>
      let run := zeroRun (pieces.drop i)
      if run > best.2 then (i, run) else best) (0, 1)
  if best.2 ≥ 2 then some best else none

/-- A piece in hexadecimal. -/
def writePiece (n : Nat) : Text :=
  Nat.toDigits 16 n

/-- A version 6 address, its first longest run of zeros shortened to a pair of colons. -/
def writeIpv6 (pieces : List Nat) : Text :=
  let write (ps : List Nat) : Text := Text.join [':'] (ps.map writePiece)
  match longestZeroRun? pieces with
  | none => write pieces
  | some (start, length) =>
    write (pieces.take start) ++ [':', ':'] ++ write (pieces.drop (start + length))

/-- The host as it is written in an address. -/
def write : Host → Text
  | .name text => text
  | .ipv4 value => writeIpv4 value
  | .ipv6 pieces => '[' :: writeIpv6 pieces ++ [']']

end Host
end ArticleMarkdown.Url
