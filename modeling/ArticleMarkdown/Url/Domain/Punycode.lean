import ArticleMarkdown.Text.Basic

/-!
# Labels in ASCII

A label with characters beyond ASCII is written with its ASCII characters first. The others follow
as numbers, in the order of their code points: each number tells how many insertions of smaller
characters at earlier places are skipped before the next one. Numbers are written least digit first;
a digit below its threshold is the last of a number, and the thresholds adapt to the size of the
numbers.
-/

namespace ArticleMarkdown.Url.Punycode

/-- The number of digits. -/
def base : Nat := 36

/-- The threshold of a digit: its place, counted in steps of the base, less the bias, between 1
and 26. -/
def threshold (place bias : Nat) : Nat :=
  if place ≤ bias + 1 then 1 else if bias + 26 ≤ place then 26 else place - bias

/-- No threshold is zero, so a number ends at its first zero digit. -/
theorem threshold_pos (place bias : Nat) : 0 < threshold place bias := by
  unfold threshold
  split
  · omega
  · split <;> omega

/-- Divides a number until it is small, and counts the steps of the base. -/
def shrink (delta place : Nat) : Nat × Nat :=
  if 455 < delta then shrink (delta / 35) (place + base) else (delta, place)
termination_by delta
decreasing_by exact Nat.div_lt_self (by omega) (by omega)

/-- The bias after a number; `count` characters are placed by then. -/
def adapt (delta count : Nat) (isFirst : Bool) : Nat :=
  let damped := if isFirst then delta / 700 else delta / 2
  let (small, place) := shrink (damped + damped / count) 0
  place + base * small / (small + 38)

/-- The bias before the first number. -/
def firstBias : Nat := 72

/-- The first code point beyond ASCII. -/
def firstCode : Nat := 0x80

/-- A digit. -/
def digit (value : Nat) : Char :=
  if value < 26 then Char.ofNat (0x61 + value) else Char.ofNat (0x30 + (value - 26))

/-- The value of a digit. -/
def digitValue? (c : Char) : Option Nat :=
  if 'a' ≤ c && c ≤ 'z' then some (c.toNat - 0x61)
  else if '0' ≤ c && c ≤ '9' then some (c.toNat - 0x30 + 26)
  else none

/-! ## Writing -/

/-- The digits of a number. -/
def writeNumber (bias place n : Nat) : Text :=
  let t := threshold place bias
  if n < t then [digit n]
  else digit (t + (n - t) % (base - t)) :: writeNumber bias (place + base) ((n - t) / (base - t))
termination_by n
decreasing_by
  have := threshold_pos place bias
  have := Nat.div_le_self (n - threshold place bias) (base - threshold place bias)
  omega

/-- A writer of numbers. -/
structure Writer where
  delta : Nat := 0
  bias : Nat := firstBias
  placed : Nat
  isFirst : Bool := true
  written : Text := []

/-- Passes a character of a label while characters equal to `code` are placed. -/
def Writer.pass (code : Nat) (w : Writer) (other : Nat) : Writer :=
  if other < code then { w with delta := w.delta + 1 }
  else if other = code then
    { delta := 0
      bias := adapt w.delta (w.placed + 1) w.isFirst
      placed := w.placed + 1
      isFirst := false
      written := w.written ++ writeNumber w.bias base w.delta }
  else w

/-- Places the characters of a label by rising code points; those below `least` are placed. -/
def writeFrom (label : List Nat) (least : Nat) (w : Writer) : List Nat → Text
  | [] => w.written
  | code :: rest =>
    let w := { w with delta := w.delta + (code - least) * (w.placed + 1) }
    let w := label.foldl (Writer.pass code) w
    writeFrom label (code + 1) { w with delta := w.delta + 1 } rest

/-- A label as ASCII text. -/
def encode (label : List Nat) : Text :=
  let ascii := label.filter (· < firstCode)
  let others := ((label.filter (firstCode ≤ ·)).mergeSort).eraseReps
  let start := ascii.map Char.ofNat ++ if ascii.isEmpty then [] else ['-']
  start ++ writeFrom label firstCode { placed := ascii.length } others

/-! ## Reading -/

/-- A reader of numbers. -/
structure Reader where
  label : List Nat
  code : Nat := firstCode
  /-- Where the last character was placed, with what is read of the next number added. -/
  position : Nat := 0
  /-- The position before the number. -/
  start : Nat := 0
  bias : Nat := firstBias
  place : Nat := base
  weight : Nat := 1

/-- Places a character where a number has told. -/
def Reader.insert? (r : Reader) : Option Reader :=
  let count := r.label.length + 1
  let code := r.code + r.position / count
  let position := r.position % count
  if !code.isValidChar then none
  else
    some
      { label := r.label.take position ++ code :: r.label.drop position
        code
        position := position + 1
        start := position + 1
        bias := adapt (r.position - r.start) count (r.start == 0) }

/-- Reads numbers to the end of a label. -/
def Reader.run? (r : Reader) : Text → Option (List Nat)
  | [] => if r.weight = 1 then some r.label else none
  | c :: rest =>
    (digitValue? c).bind fun value =>
      let position := r.position + value * r.weight
      let t := threshold r.place r.bias
      if value < t then ({ r with position }.insert?).bind fun r => r.run? rest
      else
        { r with position, place := r.place + base, weight := r.weight * (base - t) }.run? rest

/-- The label that ASCII text stands for. -/
def decode? (t : Text) : Option (List Nat) :=
  match Text.splitLast? '-' t with
  | some (start, digits) =>
    if start.isEmpty then none else Reader.run? { label := start.map Char.toNat } digits
  | none => Reader.run? { label := [] } t

end ArticleMarkdown.Url.Punycode
