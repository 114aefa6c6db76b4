import ArticleMarkdown.Text.Bytes

/-!
# The XXH3 digest

The 64-bit XXH3 hash with the default secret and seed zero. Four schemes cover short inputs; from
241 bytes on, stripes of 64 bytes are absorbed into eight lanes.
-/

namespace ArticleMarkdown.Digest

/-- The default secret. -/
def secret : Bytes :=
  [0xb8, 0xfe, 0x6c, 0x39, 0x23, 0xa4, 0x4b, 0xbe, 0x7c, 0x01, 0x81, 0x2c, 0xf7, 0x21, 0xad, 0x1c,
   0xde, 0xd4, 0x6d, 0xe9, 0x83, 0x90, 0x97, 0xdb, 0x72, 0x40, 0xa4, 0xa4, 0xb7, 0xb3, 0x67, 0x1f,
   0xcb, 0x79, 0xe6, 0x4e, 0xcc, 0xc0, 0xe5, 0x78, 0x82, 0x5a, 0xd0, 0x7d, 0xcc, 0xff, 0x72, 0x21,
   0xb8, 0x08, 0x46, 0x74, 0xf7, 0x43, 0x24, 0x8e, 0xe0, 0x35, 0x90, 0xe6, 0x81, 0x3a, 0x26, 0x4c,
   0x3c, 0x28, 0x52, 0xbb, 0x91, 0xc3, 0x00, 0xcb, 0x88, 0xd0, 0x65, 0x8b, 0x1b, 0x53, 0x2e, 0xa3,
   0x71, 0x64, 0x48, 0x97, 0xa2, 0x0d, 0xf9, 0x4e, 0x38, 0x19, 0xef, 0x46, 0xa9, 0xde, 0xac, 0xd8,
   0xa8, 0xfa, 0x76, 0x3f, 0xe3, 0x9c, 0x34, 0x3f, 0xf9, 0xdc, 0xbb, 0xc7, 0xc7, 0x0b, 0x4f, 0x1d,
   0x8a, 0x51, 0xe0, 0x4b, 0xcd, 0xb4, 0x59, 0x31, 0xc8, 0x9f, 0x7e, 0xc9, 0xd9, 0x78, 0x73, 0x64,
   0xea, 0xc5, 0xac, 0x83, 0x34, 0xd3, 0xeb, 0xc3, 0xc5, 0x81, 0xa0, 0xff, 0xfa, 0x13, 0x63, 0xeb,
   0x17, 0x0d, 0xdd, 0x51, 0xb7, 0xf0, 0xda, 0x49, 0xd3, 0x16, 0x55, 0x26, 0x29, 0xd4, 0x68, 0x9e,
   0x2b, 0x16, 0xbe, 0x58, 0x7d, 0x47, 0xa1, 0xfc, 0x8f, 0xf8, 0xb8, 0xd1, 0x7a, 0xd0, 0x31, 0xce,
   0x45, 0xcb, 0x3a, 0x8f, 0x95, 0x16, 0x04, 0x28, 0xaf, 0xd7, 0xfb, 0xca, 0xbb, 0x4b, 0x40, 0x7e]

/-- The multipliers of the long scheme. -/
def prime32First : UInt64 := 0x9E3779B1
/-- The second 32-bit prime. -/
def prime32Second : UInt64 := 0x85EBCA77
/-- The third 32-bit prime. -/
def prime32Third : UInt64 := 0xC2B2AE3D
/-- The first 64-bit prime. -/
def prime64First : UInt64 := 0x9E3779B185EBCA87
/-- The second 64-bit prime. -/
def prime64Second : UInt64 := 0xC2B2AE3D27D4EB4F
/-- The third 64-bit prime. -/
def prime64Third : UInt64 := 0x165667B19E3779F9
/-- The fourth 64-bit prime. -/
def prime64Fourth : UInt64 := 0x85EBCA77C2B2AE63
/-- The fifth 64-bit prime. -/
def prime64Fifth : UInt64 := 0x27D4EB2F165667C5

/-- The number that the bytes write, least significant first. -/
def littleEndian : Bytes → Nat
  | [] => 0
  | b :: rest => b.toNat + 256 * littleEndian rest

/-- The 64-bit word at an offset. -/
def word (bytes : Bytes) (offset : Nat) : UInt64 :=
  UInt64.ofNat (littleEndian ((bytes.drop offset).take 8))

/-- The 32-bit word at an offset, widened. -/
def halfWord (bytes : Bytes) (offset : Nat) : UInt64 :=
  UInt64.ofNat (littleEndian ((bytes.drop offset).take 4))

/-- The bytes of a word in the opposite order. -/
def swapBytes (x : UInt64) : UInt64 :=
  (List.range 8).foldl
    (fun (y : UInt64) i =>
      y ||| (((x >>> UInt64.ofNat (8 * i)) &&& 0xFF) <<< UInt64.ofNat (56 - 8 * i))) 0

/-- Rotation to the left. -/
def rotateLeft (x amount : UInt64) : UInt64 :=
  (x <<< amount) ||| (x >>> (64 - amount))

/-- The two halves of the 128-bit product, combined by exclusive or. -/
def foldProduct (a b : UInt64) : UInt64 :=
  let product := a.toNat * b.toNat
  UInt64.ofNat product ^^^ UInt64.ofNat (product >>> 64)

/-- The finishing mix of the longer schemes. -/
def avalanche (h : UInt64) : UInt64 :=
  let h := (h ^^^ (h >>> 37)) * 0x165667919E3779F9
  h ^^^ (h >>> 32)

/-- The finishing mix of inputs up to three bytes. -/
def strongAvalanche (h : UInt64) : UInt64 :=
  let h := (h ^^^ (h >>> 33)) * prime64Second
  let h := (h ^^^ (h >>> 29)) * prime64Third
  h ^^^ (h >>> 32)

/-- The finishing mix of inputs of four to eight bytes. -/
def lengthAvalanche (h length : UInt64) : UInt64 :=
  let h := (h ^^^ rotateLeft h 49 ^^^ rotateLeft h 24) * 0x9FB21C651E98DF25
  let h := (h ^^^ ((h >>> 35) + length)) * 0x9FB21C651E98DF25
  h ^^^ (h >>> 28)

/-- Sixteen bytes at `offset` mixed with the secret at `key`. -/
def mixAt (input : Bytes) (offset key : Nat) : UInt64 :=
  foldProduct (word input offset ^^^ word secret key)
    (word input (offset + 8) ^^^ word secret (key + 8))

/-- One to three bytes. -/
def hashTiny (input : Bytes) (length : Nat) : UInt64 :=
  let byteAt (i : Nat) : UInt64 := (input.getD i 0).toUInt64
  let combined := (byteAt 0 <<< 16) ||| (byteAt (length / 2) <<< 24) ||| byteAt (length - 1) |||
    (UInt64.ofNat length <<< 8)
  strongAvalanche (combined ^^^ (halfWord secret 0 ^^^ halfWord secret 4))

/-- Four to eight bytes. -/
def hashShort (input : Bytes) (length : Nat) : UInt64 :=
  let flip := word secret 8 ^^^ word secret 16
  let combined := halfWord input (length - 4) + (halfWord input 0 <<< 32)
  lengthAvalanche (combined ^^^ flip) (UInt64.ofNat length)

/-- Nine to sixteen bytes. -/
def hashMedium (input : Bytes) (length : Nat) : UInt64 :=
  let low := word input 0 ^^^ (word secret 24 ^^^ word secret 32)
  let high := word input (length - 8) ^^^ (word secret 40 ^^^ word secret 48)
  avalanche (UInt64.ofNat length + swapBytes low + high + foldProduct low high)

/-- Seventeen to 128 bytes: pairs of blocks from both ends. -/
def hashPairs (input : Bytes) (length : Nat) : UInt64 :=
  let rounds := (length - 1) / 32 + 1
  let mixed := (List.range rounds).map fun i =>
    mixAt input (16 * i) (32 * i) + mixAt input (length - 16 * (i + 1)) (32 * i + 16)
  avalanche (mixed.foldl (· + ·) (UInt64.ofNat length * prime64First))

/-- 129 to 240 bytes: every block, with a finishing mix after the eighth. -/
def hashBlocks (input : Bytes) (length : Nat) : UInt64 :=
  let start := (List.range 8).foldl (fun h i => h + mixAt input (16 * i) (16 * i))
    (UInt64.ofNat length * prime64First)
  let further := (List.range (length / 16 - 8)).foldl
    (fun h i => h + mixAt input (16 * (i + 8)) (16 * i + 3)) (avalanche start)
  avalanche (further + mixAt input (length - 16) 119)

/-- The lanes of the long scheme, in pairs. -/
abbrev Lanes := List (UInt64 × UInt64)

/-- The lanes before the first stripe. -/
def initialLanes : Lanes :=
  [(prime32Third, prime64First), (prime64Second, prime64Third),
   (prime64Fourth, prime32Second), (prime64Fifth, prime32First)]

/-- The product of the two halves of a word. -/
def halvesProduct (x : UInt64) : UInt64 :=
  (x &&& (0xFFFFFFFF : UInt64)) * (x >>> 32)

/-- Absorbs a stripe, mixed with a part of the secret. -/
def absorbStripe : Lanes → (stripe key : Bytes) → Lanes
  | [], _, _ => []
  | (a, b) :: rest, stripe, key =>
    let first := word stripe 0
    let second := word stripe 8
    (a + second + halvesProduct (first ^^^ word key 0),
      b + first + halvesProduct (second ^^^ word key 8)) ::
        absorbStripe rest (stripe.drop 16) (key.drop 16)

/-- Stirs one lane after a block. -/
def stirLane (lane key : UInt64) : UInt64 :=
  ((lane ^^^ (lane >>> 47)) ^^^ key) * prime32First

/-- Stirs the lanes after a block of sixteen stripes. -/
def stirLanes : Lanes → (key : Bytes) → Lanes
  | [], _ => []
  | (a, b) :: rest, key =>
    (stirLane a (word key 0), stirLane b (word key 8)) :: stirLanes rest (key.drop 16)

/-- Absorbs `count` stripes from number `index` on. -/
def absorbStripes : (count index : Nat) → Bytes → Lanes → Lanes
  | 0, _, _, lanes => lanes
  | count + 1, index, input, lanes =>
    let lanes := absorbStripe lanes input (secret.drop (index % 16 * 8))
    let lanes := if index % 16 == 15 then stirLanes lanes (secret.drop 128) else lanes
    absorbStripes count (index + 1) (input.drop 64) lanes

/-- Combines the lanes into one word. -/
def mergeLanes : Lanes → (key : Bytes) → UInt64
  | [], _ => 0
  | (a, b) :: rest, key =>
    foldProduct (a ^^^ word key 0) (b ^^^ word key 8) + mergeLanes rest (key.drop 16)

/-- More than 240 bytes. -/
def hashStripes (input : Bytes) (length : Nat) : UInt64 :=
  let lanes := absorbStripes ((length - 1) / 64) 0 input initialLanes
  let lanes := absorbStripe lanes (input.drop (length - 64)) (secret.drop 121)
  avalanche (UInt64.ofNat length * prime64First + mergeLanes lanes (secret.drop 11))

/-- The XXH3 hash of a byte sequence. -/
def xxh3 (input : Bytes) : UInt64 :=
  let length := input.length
  if length == 0 then strongAvalanche (word secret 56 ^^^ word secret 64)
  else if length ≤ 3 then hashTiny input length
  else if length ≤ 8 then hashShort input length
  else if length ≤ 16 then hashMedium input length
  else if length ≤ 128 then hashPairs input length
  else if length ≤ 240 then hashBlocks input length
  else hashStripes input length

/-- A word as sixteen hexadecimal digits, most significant first. -/
def hexWord (x : UInt64) : Text :=
  ((List.range 8).map fun i => (x >>> UInt64.ofNat (56 - 8 * i)).toUInt8).flatMap Text.hexByte

/-- The digest that identifies a content: its hash in hexadecimal. -/
def ofBytes (input : Bytes) : Text :=
  hexWord (xxh3 input)

end ArticleMarkdown.Digest
