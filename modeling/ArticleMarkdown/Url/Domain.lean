import ArticleMarkdown.Url.Domain.Direction
import ArticleMarkdown.Url.Domain.Joining
import ArticleMarkdown.Url.Domain.Mapping
import ArticleMarkdown.Url.Domain.Mark
import ArticleMarkdown.Url.Domain.Punycode
import ArticleMarkdown.Url.Host

/-!
# Domains

A domain may be written with characters of any script. It is looked up in an ASCII form: its
characters are folded and composed, and each label that is not ASCII then is encoded.
-/

namespace ArticleMarkdown.Url.Domain

/-- A character that a domain cannot hold. -/
def isForbidden (c : Char) : Bool :=
  c.toNat ≤ 0x20 || c.toNat == 0x7F || "%#/:<>?@[\\]^|".toList.contains c

/-- The start of a label that is encoded. -/
def encodedStart : Text := "xn--".toList

/-- Whether all characters are ASCII. -/
def isAscii (codes : List Nat) : Bool :=
  codes.all (· < 0x80)

/-- The code points of a text. -/
def codes (t : Text) : List Nat :=
  t.map Char.toNat

/-- The text of code points. -/
def ofCodes (codes : List Nat) : Text :=
  codes.map Char.ofNat

/-- A label of a domain. -/
structure Label where
  codes : List Nat
  ascii : Text
  deriving DecidableEq, Repr

namespace Label

/-- Reads an encoded label, without its start. What it stands for must be in folded and composed
form, and not be ASCII. -/
def ofEncoded? (t : Text) : Option Label :=
  (Punycode.decode? t).bind fun codes =>
    if isAscii codes || !codes.all isPlain || compose codes ≠ codes then none
    else some ⟨codes, encodedStart ++ t⟩

/-- Reads a label in folded and composed form. -/
def ofCodes? (codes : List Nat) : Option Label :=
  let text := ofCodes codes
  match Text.dropPrefix? encodedStart text with
  | some encoded => if isAscii codes then ofEncoded? encoded else none
  | none =>
    some ⟨codes, if isAscii codes then text else encodedStart ++ Punycode.encode codes⟩

/-- Whether a label can be told from others when it is read. -/
def isReadable (label : Label) : Bool :=
  !label.codes.head?.any isCombining && joinersSeen [] label.codes

/-- The directions of the characters of a label. -/
def directions (label : Label) : List Direction :=
  label.codes.map Direction.ofCode

end Label

/-- The labels of a domain in folded and composed form. -/
def labels? (codes : List Nat) : Option (List Label) :=
  ((Text.splitOn '.' (ofCodes codes)).map Domain.codes).mapM Label.ofCodes?

/-- Whether the labels of a domain may stand together. -/
def areAllowed (labels : List Label) : Bool :=
  labels.all Label.isReadable &&
    (!labels.any (fun label => label.directions.any Direction.isBackward) ||
      labels.all fun label => Direction.keepsOrder label.directions)

/-- The ASCII form of a domain. -/
def toAscii? (t : Text) : Option Text :=
  ((codes t).mapM fold?).bind fun folded =>
    let folded := compose folded.flatten
    if (ofCodes folded).any isForbidden then none
    else
      (labels? folded).bind fun labels =>
        if areAllowed labels then some (Text.join ['.'] (labels.map (·.ascii))) else none

end ArticleMarkdown.Url.Domain
