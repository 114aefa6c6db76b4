import ArticleMarkdown.Proofs.Text.Split
import ArticleMarkdown.Proofs.Text.Trim
import ArticleMarkdown.Url.Address
import Mathlib.Data.Bool.AllAny
import Mathlib.Data.List.Basic

/-!
# Paths that are read again

What is percent-encoded holds no reserved character and none beyond ASCII, so encoding it again
changes nothing (`percentEncode_percentEncode`). The segments of a path that was read hold no dots
that stand for a directory, no separator and nothing to encode. So the written path is read as the
same segments (`Path.readSegments_join`).
-/

namespace ArticleMarkdown

open Text

namespace Text

/-- The bytes of a text spell it. -/
theorem ofUtf8?_utf8 (t : Text) : ofUtf8? (utf8 t) = some t := by
  have bytes : (⟨(utf8 t).toArray⟩ : ByteArray) = (String.ofList t).toByteArray :=
    ByteArray.ext List.data_toByteArray.symm
  rw [ofUtf8?, bytes, String.fromUTF8?, dif_pos (String.ofList t).isValidUTF8]
  exact congrArg some String.toList_ofList

private theorem utf8_cons (c : Char) (t : Text) : utf8 (c :: t) = utf8 [c] ++ utf8 t := by
  simp [utf8]

end Text

namespace Url

/-! ## Percent encoding -/

variable {reserved : Char → Bool} {t : Text}

/-- The characters that percent encoding writes. -/
def encodedChars : Text :=
  "%0123456789ABCDEF".toList

private theorem mem_percentByte (b : UInt8) : ∀ c ∈ percentByte b, c ∈ encodedChars := by
  have digits : ∀ n < 16, (Nat.digitChar n).toUpper ∈ encodedChars := by decide
  have high : b.toNat / 16 < 16 := Nat.div_lt_of_lt_mul b.toNat_lt
  have low : b.toNat % 16 < 16 := Nat.mod_lt _ (by omega)
  simp only [percentByte, List.forall_mem_cons]
  exact ⟨by decide, digits _ high, digits _ low, List.forall_mem_nil _⟩

/-- A text of ASCII without reserved characters. -/
def Clear (reserved : Char → Bool) (t : Text) : Prop :=
  ∀ c ∈ t, reserved c = false ∧ c.toNat < 0x80

/-- Encoding writes the characters of codes, and keeps plain characters that are not reserved. -/
theorem percentEncode_cases (reserved : Char → Bool) (t : Text) :
    ∀ c ∈ percentEncode reserved t,
      c ∈ encodedChars ∨ c ∈ t ∧ reserved c = false ∧ c.toNat < 0x80 := by
  intro c member
  obtain ⟨d, within, written⟩ := List.mem_flatMap.mp member
  split at written
  · obtain ⟨b, -, digit⟩ := List.mem_flatMap.mp written
    exact .inl (mem_percentByte b c digit)
  · next plain =>
    rw [Bool.or_eq_true, decide_eq_true_eq, not_or, Nat.not_le, Bool.not_eq_true] at plain
    cases List.mem_singleton.mp written
    exact .inr ⟨within, plain⟩

/-- What is encoded starts with its own first character, or with a percent sign. -/
theorem percentEncode_cons (reserved : Char → Bool) (c : Char) (t : Text) :
    ∃ first rest, percentEncode reserved (c :: t) = first :: rest ∧ (first = '%' ∨ first = c) := by
  rw [percentEncode, List.flatMap_cons]
  split
  · obtain ⟨b, bytes, encoded⟩ := List.exists_cons_of_ne_nil (String.utf8EncodeChar_ne_nil (c := c))
    rw [utf8, List.flatMap_cons, encoded, List.cons_append, List.flatMap_cons]
    exact ⟨'%', _, rfl, .inl rfl⟩
  · exact ⟨c, _, rfl, .inr rfl⟩

/-- What is encoded holds no reserved characters, if codes are written without them. -/
theorem clear_percentEncode (free : ∀ c ∈ encodedChars, reserved c = false) (t : Text) :
    Clear reserved (percentEncode reserved t) := by
  have ascii : ∀ c ∈ encodedChars, c.toNat < 0x80 := List.all_iff_forall_prop.mp (by decide)
  intro c member
  rcases percentEncode_cases reserved t c member with encoded | ⟨-, plain⟩
  · exact ⟨free c encoded, ascii c encoded⟩
  · exact plain

/-- A text without reserved characters is not encoded. -/
theorem percentEncode_of_clear (clear : Clear reserved t) : percentEncode reserved t = t := by
  induction t with
  | nil => rfl
  | cons c rest ih =>
      have own := clear c List.mem_cons_self
      have plain : ¬(reserved c || 0x80 ≤ c.toNat) = true := by
        simp [own.1, own.2]
      rw [percentEncode, List.flatMap_cons, if_neg plain, ← percentEncode,
        ih fun d member => clear d (List.mem_cons_of_mem c member), List.singleton_append]

/-- Encoding twice is encoding once. -/
theorem percentEncode_percentEncode (free : ∀ c ∈ encodedChars, reserved c = false) (t : Text) :
    percentEncode reserved (percentEncode reserved t) = percentEncode reserved t :=
  percentEncode_of_clear (clear_percentEncode free t)

/-- A text without percent signs is decoded to its bytes. -/
theorem percentDecode_of_notMem (absent : '%' ∉ t) : percentDecode t = utf8 t := by
  induction t with
  | nil => rfl
  | cons c rest ih =>
      rw [List.mem_cons, not_or] at absent
      rw [percentDecode]
      · rw [ih absent.2, ← utf8_cons]
      · rintro _ _ _ rfl
        exact absurd rfl absent.1

namespace Path

variable {family : Family} {segments done rest : List Text} {segment : Text}

/-! ## Dots and drives -/

/-- Reading leaves the segments as they are: none stands for a directory, and a drive at the start
is written with a colon. -/
def Settled (family : Family) (segments : List Text) : Prop :=
  ∀ before segment after, segments = before ++ segment :: after →
    isSingleDot segment = false ∧ isDoubleDot segment = false ∧
      keepSegment family before segment = segment

namespace Settled

/-- A path without segments is settled. -/
theorem nil : Settled family [] :=
  fun before _ _ split =>
    absurd split.symm (List.append_ne_nil_of_right_ne_nil before (List.cons_ne_nil _ _))

private theorem of_append (settled : Settled family (done ++ rest)) : Settled family done := by
  rintro before segment after rfl
  exact settled before segment (after ++ rest) (by simp)

private theorem concat (settled : Settled family segments) (single : isSingleDot segment = false)
    (double : isDoubleDot segment = false) (kept : keepSegment family segments segment = segment) :
    Settled family (segments ++ [segment]) := by
  intro before other after split
  rcases List.eq_nil_or_concat after with rfl | ⟨others, last, rfl⟩
  · obtain ⟨rfl, same⟩ := List.append_inj' split rfl
    cases same
    exact ⟨single, double, kept⟩
  · rw [List.concat_eq_append, ← List.cons_append, ← List.append_assoc] at split
    obtain ⟨rfl, -⟩ := List.append_inj' split rfl
    exact settled before other others rfl

/-- An empty segment may follow any others. -/
theorem concat_nil (settled : Settled family segments) : Settled family (segments ++ [[]]) := by
  refine settled.concat rfl rfl ?_
  simp [keepSegment, isDriveLetter]

private theorem ending (settled : Settled family segments) (last : Bool) :
    Settled family (segments ++ if last then [[]] else []) := by
  cases last with
  | false =>
      rw [if_neg Bool.false_ne_true, List.append_nil]
      exact settled
  | true => exact settled.concat_nil

private theorem dropLast (settled : Settled family segments) :
    Settled family (dropLastSegment family segments) := by
  rw [dropLastSegment]
  split
  · next last found =>
    split
    · exact settled
    · obtain ⟨before, rfl⟩ : ∃ before, segments = before ++ [last] :=
        ⟨_, (List.dropLast_append_getLast? last found).symm⟩
      rw [List.dropLast_concat]
      exact settled.of_append
  · exact settled

end Settled

/-- A segment that is kept is not changed again, and it stands for a directory only if it did. -/
theorem keepSegment_cases (family : Family) (done : List Text) (segment : Text) :
    keepSegment family done segment = segment ∨
      ∃ letter, keepSegment family done segment = [letter, ':'] := by
  rw [keepSegment]
  split
  · next drive =>
    rw [Bool.and_eq_true, Bool.and_eq_true] at drive
    obtain ⟨⟨-, drive⟩, -⟩ := drive
    unfold isDriveLetter at drive
    split at drive
    · next letter mark =>
      exact .inr ⟨letter, rfl⟩
    · cases drive
  · exact .inl rfl

private theorem keepSegment_keepSegment (family : Family) (done : List Text) (segment : Text) :
    keepSegment family done (keepSegment family done segment) =
      keepSegment family done segment := by
  rcases keepSegment_cases family done segment with same | ⟨letter, same⟩
  · rw [same, same]
  · rw [same, keepSegment]
    split <;> rfl

private theorem isDot_drive (letter : Char) :
    isSingleDot [letter, ':'] = false ∧ isDoubleDot [letter, ':'] = false := by
  have colon : lowerChar ':' ≠ '.' := by decide
  simp [isSingleDot, isDoubleDot, Text.lower, colon]

private theorem Settled.keep (settled : Settled family done) (single : isSingleDot segment = false)
    (double : isDoubleDot segment = false) :
    Settled family (done ++ [keepSegment family done segment]) := by
  have kept := keepSegment_keepSegment family done segment
  rcases keepSegment_cases family done segment with same | ⟨letter, same⟩
  · rw [same] at kept ⊢
    exact settled.concat single double kept
  · rw [same] at kept ⊢
    exact settled.concat (isDot_drive letter).1 (isDot_drive letter).2 kept

private theorem Settled.resolve (settled : Settled family done) (rest : List Text) :
    Settled family (resolve family done rest) := by
  induction rest generalizing done with
  | nil => exact settled
  | cons segment rest ih =>
      rw [Path.resolve]
      refine ih ?_
      split
      · exact settled.dropLast.ending _
      · next double =>
        split
        · exact settled.ending _
        · next single =>
          exact settled.keep (Bool.eq_false_iff.mpr single) (Bool.eq_false_iff.mpr double)

/-- Settled segments are not resolved further. -/
theorem resolve_of_settled (settled : Settled family (done ++ rest)) :
    resolve family done rest = done ++ rest := by
  induction rest generalizing done with
  | nil => exact (List.append_nil done).symm
  | cons segment rest ih =>
      obtain ⟨single, double, kept⟩ := settled done segment rest rfl
      rw [List.append_cons] at settled ⊢
      rw [resolve, if_neg (Bool.eq_false_iff.mp double), if_neg (Bool.eq_false_iff.mp single), kept,
        ih settled]

private theorem resolve_ne_nil (filled : done ++ rest ≠ []) : resolve family done rest ≠ [] := by
  induction rest generalizing done with
  | nil => rwa [List.append_nil] at filled
  | cons segment rest ih =>
      rw [resolve]
      refine ih ?_
      cases rest with
      | nil =>
          rw [List.isEmpty_nil, if_pos rfl, List.append_nil]
          split_ifs
          · exact List.append_ne_nil_of_right_ne_nil _ (List.cons_ne_nil _ _)
          · exact List.append_ne_nil_of_right_ne_nil _ (List.cons_ne_nil _ _)
          · exact List.append_ne_nil_of_right_ne_nil _ (List.cons_ne_nil _ _)
      | cons next rest => exact List.append_ne_nil_of_right_ne_nil _ (List.cons_ne_nil _ _)

/-! ## Characters -/

/-- A character that a written segment may hold. -/
def isWritten (family : Family) (c : Char) : Bool :=
  !isPathReserved c && c.toNat < 0x80 && !family.isSeparator c

/-- The segments hold nothing that is encoded or that separates segments. -/
def Written (family : Family) (segments : List Text) : Prop :=
  ∀ segment ∈ segments, ∀ c ∈ segment, isWritten family c = true

/-- A path without segments is written. -/
theorem Written.nil : Written family [] :=
  fun _ member => absurd member List.not_mem_nil

private theorem Written.append (first : Written family done) (second : Written family rest) :
    Written family (done ++ rest) :=
  List.forall_mem_append.mpr ⟨first, second⟩

private theorem Written.single (proper : ∀ c ∈ segment, isWritten family c = true) :
    Written family [segment] :=
  List.forall_mem_singleton.mpr proper

private theorem Written.ending (written : Written family segments) (last : Bool) :
    Written family (segments ++ if last then [[]] else []) := by
  refine written.append ?_
  cases last with
  | false => exact .nil
  | true => exact .single fun _ member => absurd member List.not_mem_nil

private theorem isWritten_colon (family : Family) : isWritten family ':' = true := by
  cases family <;> decide

private theorem Written.keep (written : Written family done)
    (proper : ∀ c ∈ segment, isWritten family c = true) :
    Written family (done ++ [keepSegment family done segment]) := by
  refine written.append (.single ?_)
  rw [keepSegment]
  split
  · refine List.forall_mem_append.mpr ⟨fun c member => proper c (List.mem_of_mem_take member), ?_⟩
    exact List.forall_mem_singleton.mpr (isWritten_colon family)
  · exact proper

private theorem Written.resolve (written : Written family done) (written' : Written family rest) :
    Written family (resolve family done rest) := by
  induction rest generalizing done with
  | nil => exact written
  | cons segment rest ih =>
      rw [Path.resolve]
      refine ih ?_ fun other member => written' other (List.mem_cons_of_mem segment member)
      split
      · refine Written.ending ?_ _
        rw [dropLastSegment]
        split
        · split
          · exact written
          · exact fun other member => written other (List.dropLast_subset _ member)
        · exact written
      · split
        · exact written.ending _
        · exact written.keep (written' segment List.mem_cons_self)

/-- The pieces between separators are written without separators. -/
theorem written_pieces (family : Family) (t : Text) :
    Written family ((splitBy family.isSeparator t).map (percentEncode isPathReserved)) := by
  have encoded : ∀ c ∈ encodedChars, isWritten family c = true := by
    cases family <;> exact List.all_iff_forall_prop.mp (by decide)
  refine List.forall_mem_map.mpr fun piece member c within => ?_
  rcases percentEncode_cases isPathReserved piece c within with code | ⟨inPiece, unreserved, ascii⟩
  · exact encoded c code
  · rw [isWritten, unreserved, eq_false_of_mem_splitBy member c inPiece]
    simpa using ascii

/-- A character that is not written is in no written segment. -/
theorem Written.notMem (written : Written family segments) {c : Char}
    (other : isWritten family c = false) : ∀ segment ∈ segments, c ∉ segment := by
  intro segment member inside
  rw [written segment member c inside] at other
  cases other

/-- Written segments hold nothing that is to be encoded. -/
theorem Written.clear (written : Written family segments) :
    ∀ segment ∈ segments, Clear isPathReserved segment := by
  intro segment member c inside
  have proper := written segment member c inside
  simp only [isWritten, Bool.and_eq_true, Bool.not_eq_true', decide_eq_true_eq] at proper
  exact proper.1

/-- Written segments hold no separators. -/
theorem Written.unsplit (written : Written family segments) :
    ∀ segment ∈ segments, ∀ c ∈ segment, family.isSeparator c = false := by
  intro segment member c inside
  have proper := written segment member c inside
  simp only [isWritten, Bool.and_eq_true, Bool.not_eq_true'] at proper
  exact proper.2

/-! ## Reading -/

/-- A slash separates segments in every scheme. -/
theorem isSeparator_slash (family : Family) : family.isSeparator '/' = true := rfl

/-- Segments that were read are settled. -/
theorem settled_readSegments (family : Family) (t : Text) :
    Settled family (readSegments family t) :=
  Settled.nil.resolve _

/-- Segments that were read are written. -/
theorem written_readSegments (family : Family) (t : Text) :
    Written family (readSegments family t) :=
  Written.nil.resolve (written_pieces family t)

/-- Reading a path gives one segment at least. -/
theorem readSegments_ne_nil (family : Family) (t : Text) : readSegments family t ≠ [] := by
  refine resolve_ne_nil ?_
  rw [List.nil_append]
  exact mt List.map_eq_nil_iff.mp (splitBy_ne_nil _ t)

/-- The written segments are read as they are. -/
theorem readSegments_join (filled : segments ≠ []) (settled : Settled family segments)
    (written : Written family segments) : readSegments family (join ['/'] segments) = segments := by
  have pieces : splitBy family.isSeparator (join ['/'] segments) = segments :=
    splitBy_join (isSeparator_slash family) filled written.unsplit
  have encoded : segments.map (percentEncode isPathReserved) = segments := by
    refine (List.map_congr_left fun segment member => ?_).trans (List.map_id' segments)
    exact percentEncode_of_clear (written.clear segment member)
  rw [readSegments, pieces, encoded, resolve_of_settled settled, List.nil_append]

/-- Segments are written with a slash before each of them. -/
theorem write_segments (filled : segments ≠ []) :
    write (.segments segments) = '/' :: join ['/'] segments := by
  induction segments with
  | nil => exact absurd rfl filled
  | cons segment rest ih =>
      cases rest with
      | nil => simp [write, join]
      | cons next rest =>
          have later := ih (List.cons_ne_nil _ _)
          simp only [write] at later ⊢
          rw [List.flatMap_cons, later, join_cons_of_ne_nil _ _ (List.cons_ne_nil _ _)]
          simp

/-- Written and settled segments are read back. -/
theorem readSegments_write (filled : segments ≠ []) (settled : Settled family segments)
    (written : Written family segments) :
    readSegments family (dropSeparator family (write (.segments segments))) = segments := by
  rw [write_segments filled, dropSeparator, if_pos (isSeparator_slash family),
    readSegments_join filled settled written]

end Path

/-! ## Paths of files -/

namespace Address

open Url.Path

variable {family : Family} {segments : List Text}

/-- Settled segments stay so without the empty ones at their start. -/
theorem settled_dropLeadingEmpty (settled : Settled family segments) :
    Settled family (dropLeadingEmpty segments) := by
  fun_induction dropLeadingEmpty segments with
  | case1 next rest ih =>
      refine ih fun before segment after split => ?_
      obtain ⟨single, double, kept⟩ := settled ([] :: before) segment after (by rw [split]; rfl)
      refine ⟨single, double, ?_⟩
      simpa [keepSegment] using kept
  | case2 segments _ => exact settled

/-- Written segments stay so without the empty ones at their start. -/
theorem written_dropLeadingEmpty (written : Written family segments) :
    Written family (dropLeadingEmpty segments) := by
  fun_induction dropLeadingEmpty segments with
  | case1 next rest ih => exact ih fun other member => written other (List.mem_cons_of_mem _ member)
  | case2 segments _ => exact written

/-- The last segment stays, even if it is empty. -/
theorem dropLeadingEmpty_ne_nil (filled : segments ≠ []) : dropLeadingEmpty segments ≠ [] := by
  fun_induction dropLeadingEmpty segments with
  | case1 next rest ih => exact ih (List.cons_ne_nil _ _)
  | case2 segments _ => exact filled

/-- Once the empty segments at the start are gone, none is left to drop. -/
theorem dropLeadingEmpty_dropLeadingEmpty (segments : List Text) :
    dropLeadingEmpty (dropLeadingEmpty segments) = dropLeadingEmpty segments := by
  fun_induction dropLeadingEmpty segments with
  | case1 next rest ih => exact ih
  | case2 segments stays => rw [dropLeadingEmpty]; exact stays

end Address
end Url
end ArticleMarkdown
