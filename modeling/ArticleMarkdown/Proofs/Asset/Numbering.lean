import ArticleMarkdown.Proofs.Asset.Record
import ArticleMarkdown.Proofs.Text.Numeral
import ArticleMarkdown.Proofs.Text.Trim

/-!
# File names tell their numbers

The name of an asset's file is made from its owner's prefix, its number and its extension, and then
cleaned. Cleaning may take away from the prefix and from the extension, but it keeps the number and
the dot after it. So files of one owner with different numbers have different names, as long as
their names are not cut.
-/

namespace ArticleMarkdown

namespace Text

private theorem takeUtf8_of_length {limit : Nat} {t : Text} (fits : utf8Length t ≤ limit) :
    takeUtf8 limit t = t := by
  induction t generalizing limit with
  | nil => cases limit <;> rfl
  | cons c rest ih =>
      simp only [utf8Length] at fits
      rw [takeUtf8, if_pos (by omega), ih (by omega)]

/-- The codes of letters and digits in ASCII. -/
theorem isAsciiAlphanumeric_iff {c : Char} : isAsciiAlphanumeric c = true ↔
    48 ≤ c.toNat ∧ c.toNat ≤ 57 ∨ 65 ≤ c.toNat ∧ c.toNat ≤ 90 ∨ 97 ≤ c.toNat ∧ c.toNat ≤ 122 := by
  have le : ∀ a b : Char, a ≤ b ↔ a.toNat ≤ b.toNat := fun a b => UInt32.le_iff_toNat_le
  simp only [isAsciiAlphanumeric, isAsciiLetter, isAsciiDigit, Bool.or_eq_true, Bool.and_eq_true,
    decide_eq_true_eq, le]
  simp only [show 'a'.toNat = 97 from rfl, show 'z'.toNat = 122 from rfl,
    show 'A'.toNat = 65 from rfl, show 'Z'.toNat = 90 from rfl, show '0'.toNat = 48 from rfl,
    show '9'.toNat = 57 from rfl]
  omega

/-- Letters and digits stay so in lower case. -/
theorem isAsciiAlphanumeric_lowerChar {c : Char} (plain : isAsciiAlphanumeric c = true) :
    isAsciiAlphanumeric (lowerChar c) = true := by
  rw [lowerChar]
  split
  · next upper =>
    have range : 65 ≤ c.toNat ∧ c.toNat ≤ 90 :=
      ⟨UInt32.le_iff_toNat_le.mp upper.1, UInt32.le_iff_toNat_le.mp upper.2⟩
    have lowered : (Char.ofNat (c.toNat + 32)).toNat = c.toNat + 32 := by
      rw [Char.ofNat, dif_pos (.inl (by omega))]
      rfl
    rw [isAsciiAlphanumeric_iff, lowered]
    omega
  · exact plain

end Text

namespace FileName

/-- A character that names keep. -/
def isKept (c : Char) : Bool :=
  !Text.isInvisible c && (!isReserved c && !isControl c)

/-- The name without the characters that a path component cannot hold, before it is cut. -/
def cleaned (name : Text) : Text :=
  dropDots ((Text.trim name).filter isKept)

/-- Whether a name is not cut. -/
def Fits (name : Text) : Prop :=
  Text.utf8Length (cleaned name) ≤ maxLength

instance (name : Text) : Decidable (Fits name) :=
  inferInstanceAs (Decidable (_ ≤ _))

/-- How a character that is left shows in a name. -/
def shown (c : Char) : Char :=
  if Text.isSpace c then '_' else c

/-- A name without whitespace is shown as it is. -/
theorem map_shown_eq_self {name : Text} (solid : ∀ c ∈ name, Text.isSpace c = false) :
    name.map shown = name := by
  refine (List.map_congr_left fun c member => ?_).trans (List.map_id name)
  rw [shown, solid c member, if_neg Bool.false_ne_true, id]

/-- A name shows what is left when the cleaned name is cut. -/
theorem ofText_eq (name : Text) :
    ofText name = if Text.takeUtf8 maxLength (cleaned name) = [] then "untitled".toList
      else (Text.takeUtf8 maxLength (cleaned name)).map shown := by
  have filtered : (Text.stripInvisible (Text.trim name)).filter
      (fun c => !isReserved c && !isControl c) = (Text.trim name).filter isKept := by
    rw [Text.stripInvisible, List.filter_filter]
    exact List.filter_congr fun c _ => Bool.and_comm _ _
  have same : component (Text.stripInvisible (Text.trim name)) =
      Text.takeUtf8 maxLength (cleaned name) := by
    rw [component, filtered, cleaned]
  simp only [ofText, same, List.isEmpty_iff, List.map_eq_nil_iff]
  rfl

/-- A name that fits is cleaned and not cut. -/
theorem ofText_of_fits {name : Text} (fits : Fits name) (some_left : cleaned name ≠ []) :
    ofText name = (cleaned name).map shown := by
  rw [ofText_eq, Text.takeUtf8_of_length fits, if_neg some_left]

/-- Letters, digits and the dot stay as they are in a name. -/
theorem alphanumeric_properties {c : Char} (plain : Text.isAsciiAlphanumeric c = true) :
    Text.isSpace c = false ∧ isKept c = true ∧ c ≠ '.' := by
  have range := Text.isAsciiAlphanumeric_iff.mp plain
  have others : ∀ other : Char, Text.isAsciiAlphanumeric other = false → c ≠ other := by
    rintro other apart rfl
    rw [plain] at apart
    cases apart
  refine ⟨?_, ?_, others '.' (by decide)⟩
  · simp only [Text.isSpace, Bool.or_eq_false_iff, Bool.and_eq_false_iff, beq_eq_false_iff_ne,
      decide_eq_false_iff_not]
    omega
  · have visible : Text.isInvisible c = false := by
      simp only [Text.isInvisible, Bool.or_eq_false_iff, Bool.and_eq_false_iff,
        beq_eq_false_iff_ne, decide_eq_false_iff_not]
      omega
    have free : isReserved c = false := by
      have apart : "/?<>\\:*|\"".toList.any Text.isAsciiAlphanumeric = false := by decide
      rw [Bool.eq_false_iff]
      intro reserved
      exact List.any_eq_false.mp apart c (List.contains_iff_mem.mp reserved) plain
    have printable : isControl c = false := by
      simp only [isControl, Bool.or_eq_false_iff, Bool.and_eq_false_iff, decide_eq_false_iff_not]
      omega
    simp only [isKept, visible, free, printable, Bool.not_false, Bool.and_self]

private theorem digit_properties {c : Char} (digit : c.isDigit) :
    Text.isSpace c = false ∧ isKept c = true ∧ c ≠ '.' := by
  refine alphanumeric_properties (Text.isAsciiAlphanumeric_iff.mpr (.inl ?_))
  simp only [Char.isDigit, Bool.and_eq_true, decide_eq_true_eq, ge_iff_le,
    UInt32.le_iff_toNat_le] at digit
  exact digit

/-- Cleaning keeps a number and the dot after it. -/
theorem cleaned_numbered (before after : Text) (n : Nat) :
    cleaned (before ++ Text.ofNat n ++ '.' :: after) =
      (Text.trimStart before).filter isKept ++ Text.ofNat n ++
        '.' :: (Text.trimEnd after).filter isKept := by
  obtain ⟨digit, rest, written, isDigit⟩ := Text.ofNat_eq_cons n
  have kept : (Text.ofNat n).filter isKept = Text.ofNat n :=
    List.filter_eq_self.mpr fun c member =>
      (digit_properties (Text.isDigit_of_mem_ofNat member)).2.1
  have trimmed : Text.trim (before ++ Text.ofNat n ++ '.' :: after) =
      Text.trimStart before ++ Text.ofNat n ++ '.' :: Text.trimEnd after := by
    rw [Text.trim, written, List.append_assoc, List.cons_append,
      Text.trimStart_append_cons (digit_properties isDigit).1, ← List.cons_append,
      ← List.append_assoc, Text.trimEnd_append_cons (by decide)]
  have not_dots : digit ≠ '.' := (digit_properties isDigit).2.2
  rw [cleaned, trimmed, List.filter_append, List.filter_append,
    List.filter_cons_of_pos (by decide), kept, dropDots, if_neg]
  simp [written, not_dots]

/-- A name that is not cut shows its number, and the dot after it, behind what is left of its
prefix. -/
theorem ofText_numbered {before after : Text} {n : Nat}
    (fits : Fits (before ++ Text.ofNat n ++ '.' :: after)) :
    ofText (before ++ Text.ofNat n ++ '.' :: after) =
      ((Text.trimStart before).filter isKept).map shown ++ (Text.ofNat n ++
        '.' :: ((Text.trimEnd after).filter isKept).map shown) := by
  have spaceless : (Text.ofNat n).map shown = Text.ofNat n :=
    map_shown_eq_self fun c member => (digit_properties (Text.isDigit_of_mem_ofNat member)).1
  have dot : shown '.' = '.' := by decide
  have some_left : cleaned (before ++ Text.ofNat n ++ '.' :: after) ≠ [] := by
    rw [cleaned_numbered]
    exact List.append_ne_nil_of_right_ne_nil _ (List.cons_ne_nil _ _)
  rw [ofText_of_fits fits some_left, cleaned_numbered]
  simp only [List.map_append, List.map_cons, spaceless, dot, List.append_assoc]

/-- Names with one prefix tell their numbers, if they are not cut. -/
theorem number_of_ofText {before after after' : Text} {m n : Nat}
    (fits : Fits (before ++ Text.ofNat m ++ '.' :: after))
    (fits' : Fits (before ++ Text.ofNat n ++ '.' :: after'))
    (same : ofText (before ++ Text.ofNat m ++ '.' :: after) =
      ofText (before ++ Text.ofNat n ++ '.' :: after')) : m = n := by
  rw [ofText_numbered fits, ofText_numbered fits'] at same
  -- The first dot after the prefix ends the number.
  have ends := congrArg (List.takeWhile (· != '.')) (List.append_cancel_left same)
  have dotless : ∀ k, ∀ c ∈ Text.ofNat k, (c != '.') = true := fun k c member =>
    bne_iff_ne.mpr (digit_properties (Text.isDigit_of_mem_ofNat member)).2.2
  rw [List.takeWhile_append_of_pos (dotless m), List.takeWhile_append_of_pos (dotless n),
    List.takeWhile_cons_of_neg (by decide), List.takeWhile_cons_of_neg (by decide),
    List.append_nil, List.append_nil] at ends
  exact Text.ofNat_injective ends

end FileName

namespace Asset

/-- Whether the name of a claim's file is not cut. -/
def Claim.Fits (c : Claim) : Prop :=
  FileName.Fits (c.owner.namePrefix ++ Text.ofNat c.number ++ '.' :: c.extension)

instance (c : Claim) : Decidable c.Fits :=
  inferInstanceAs (Decidable (FileName.Fits _))

/-- Claims of one owner with one path have one number, if their names are not cut. -/
theorem Claim.number_of_path {c d : Claim} (owner : c.owner = d.owner) (fits : c.Fits)
    (fits' : d.Fits) (same : c.path = d.path) : c.number = d.number := by
  simp only [Fits] at fits fits'
  simp only [path, Sink.filePath, owner] at same fits
  apply FileName.number_of_ofText fits fits'
  split at same
  · exact same
  · exact (List.cons.inj (List.append_cancel_left same)).2

end Asset
end ArticleMarkdown
