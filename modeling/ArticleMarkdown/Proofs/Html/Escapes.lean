import ArticleMarkdown.Document.Markup
import ArticleMarkdown.Html.Reference
import ArticleMarkdown.Proofs.Text.CodeRange
import Mathlib.Data.Bool.AllAny
import Mathlib.Data.List.Basic

/-!
# Escapes are read back

A text that is put into markup has references for the characters with a meaning. Reading the
references gives the text back, whatever references the text itself seems to hold
(`Markup.decode_encodeText`, `Markup.decode_encodeValue`).
-/

namespace ArticleMarkdown

open Text

namespace Html.Entity

/-- The names of the characters that are escaped, and their entries in the table. -/
def escapes : List (Text × Text) :=
  [(['a', 'm', 'p'], ['a', 'm', 'p', '!', '2', '6']), (['l', 't'], ['l', 't', '!', '3', 'C']),
    (['g', 't'], ['g', 't', '!', '3', 'E']),
    (['q', 'u', 'o', 't'], ['q', 'u', 'o', 't', '!', '2', '2'])]

/-- Whether an entry has another name. -/
def isNamedOtherwise (name entry : Text) : Bool :=
  !name.isPrefixOf entry || (entry.drop name.length).head?.any isAsciiAlphanumeric

/-- Whether a line of the table has no other entry for the name of an escaped character. -/
def keepsEscapes (line : Text) : Bool :=
  (splitOn ' ' line).all fun entry => escapes.all fun (name, own) =>
    isNamedOtherwise name entry || entry == own

private theorem table_keepsEscapes :
    ∃ lines, Spells table lines ∧ lines.all keepsEscapes = true := by
  apply Exists.intro
  apply And.intro
  · repeat apply Spells.cons
    exact Spells.nil
  · decide +kernel

private theorem isNamedOtherwise_read (entry : Text) :
    isNamedOtherwise (read entry).name entry = false := by
  have name : (read entry).name = entry.takeWhile isAsciiAlphanumeric := rfl
  have starts : (read entry).name <+: entry := List.takeWhile_prefix _
  have behind : entry.drop (read entry).name.length = entry.dropWhile isAsciiAlphanumeric := by
    have parts := List.takeWhile_append_dropWhile (p := isAsciiAlphanumeric) (l := entry)
    have cut : (entry.takeWhile isAsciiAlphanumeric ++ entry.dropWhile isAsciiAlphanumeric).drop
        (entry.takeWhile isAsciiAlphanumeric).length = entry.dropWhile isAsciiAlphanumeric :=
      List.drop_left
    rwa [parts] at cut
  have ends := List.head?_dropWhile_not isAsciiAlphanumeric entry
  rw [isNamedOtherwise, List.isPrefixOf_iff_prefix.mpr starts, behind]
  cases first : (entry.dropWhile isAsciiAlphanumeric).head? with
  | none => rfl
  | some c =>
      rw [first] at ends
      exact ends

/-- An entry with the name of an escaped character is the one that is known. -/
theorem eq_of_mem_escapes {name own entry : Text} {line : String} (escape : (name, own) ∈ escapes)
    (within : line ∈ table) (member : entry ∈ splitOn ' ' line.toList)
    (named : (read entry).name = name) : entry = own := by
  obtain ⟨lines, spells, kept⟩ := table_keepsEscapes
  have listed : line.toList ∈ lines :=
    spells.map_toList ▸ List.mem_map_of_mem within
  have checked := List.all_eq_true.mp (List.all_eq_true.mp kept _ listed) entry member
  have settled : (isNamedOtherwise name entry || entry == own) = true :=
    List.all_eq_true.mp checked _ escape
  rw [← named, isNamedOtherwise_read, Bool.false_or] at settled
  exact beq_iff_eq.mp settled

private theorem mem_table_of_drop {n : Nat} {line : String} {rest : List String}
    (cut : table.drop n = line :: rest) : line ∈ table :=
  List.mem_of_mem_drop (cut ▸ List.mem_cons_self)

private theorem escapes_listed :
    ∀ e ∈ escapes, (read e.2).name = e.1 ∧ ∃ line ∈ table, e.2 ∈ splitOn ' ' line.toList := by
  simp only [escapes, List.forall_mem_cons]
  refine ⟨⟨rfl, _, mem_table_of_drop (n := 104) rfl, ?_⟩,
    ⟨rfl, _, mem_table_of_drop (n := 198) rfl, ?_⟩, ⟨rfl, _, mem_table_of_drop (n := 165) rfl, ?_⟩,
    ⟨rfl, _, mem_table_of_drop (n := 245) rfl, ?_⟩, List.forall_mem_nil _⟩
  all_goals
    rw [String.toList_ofList]
    decide +kernel

private theorem closed?_of_mem_escapes {e : Text × Text} (escape : e ∈ escapes) :
    closed? e.1 = some (read e.2).characters := by
  obtain ⟨named, line, within, member⟩ := escapes_listed e escape
  rw [closed?]
  cases found : all.find? fun entry => entry.name == e.1 with
  | none =>
      have listed : read e.2 ∈ all :=
        List.mem_flatMap.mpr ⟨line, within, List.mem_map_of_mem member⟩
      exact absurd (beq_iff_eq.mpr named) (List.find?_eq_none.mp found _ listed)
  | some entry =>
      have same := List.find?_some found
      rw [beq_iff_eq] at same
      obtain ⟨other, within', inside⟩ := List.mem_flatMap.mp (List.mem_of_find?_eq_some found)
      obtain ⟨own, member', rfl⟩ := List.mem_map.mp inside
      rw [eq_of_mem_escapes escape within' member' same]
      rfl

private theorem escapes_spelled :
    ∀ e ∈ escapes, e.1.all isAsciiAlphanumeric = true ∧ e.1 ≠ [] := by
  decide

end Html.Entity

namespace Html.Reference

variable {inValue : Bool} {name rest characters : Text}

private theorem read?_closed (letters : ∀ c ∈ name, isAsciiAlphanumeric c = true)
    (filled : name ≠ [])
    (known : Entity.closed? name = some characters) :
    read? inValue (name ++ ';' :: rest) = some (characters, rest) := by
  have stops : isAsciiAlphanumeric ';' = false := rfl
  have taken : (name ++ ';' :: rest).takeWhile isAsciiAlphanumeric = name := by
    rw [List.takeWhile_append_of_pos letters, List.takeWhile_cons_of_neg (by decide),
      List.append_nil]
  have left : (name ++ ';' :: rest).dropWhile isAsciiAlphanumeric = ';' :: rest := by
    rw [List.dropWhile_append_of_pos letters, List.dropWhile_cons_of_neg (by decide)]
  have named : name? inValue (name ++ ';' :: rest) = some (characters, rest) := by
    simp only [name?, taken, left, List.head?_cons, beq_self_eq_true, if_true, known,
      List.tail_cons]
  cases name with
  | nil => exact absurd rfl filled
  | cons c more =>
      have letter := letters c List.mem_cons_self
      have other : c ≠ '#' := by
        rintro rfl
        exact absurd letter (by decide)
      rw [← named, List.cons_append]
      unfold read?
      split
      · next same => exact absurd (List.cons.inj same).1 other
      · next same => exact absurd (List.cons.inj same).1 other
      · next same => exact absurd (List.cons.inj same).1 other
      · rfl

private theorem decodeFrom_skip (passed t : Text) :
    decodeFrom inValue passed.length (passed ++ t) = decode inValue t := by
  induction passed with
  | nil => rfl
  | cons c passed ih => exact ih

private theorem decode_closed (letters : ∀ c ∈ name, isAsciiAlphanumeric c = true)
    (filled : name ≠ [])
    (known : Entity.closed? name = some characters) :
    decode inValue ('&' :: (name ++ ';' :: rest)) = characters ++ decode inValue rest := by
  have passed : (name ++ ';' :: rest).length - rest.length = (name ++ [';']).length := by
    rw [List.append_cons, List.length_append, Nat.add_sub_cancel]
  have split : name ++ ';' :: rest = (name ++ [';']) ++ rest := List.append_cons _ _ _
  rw [decode, decodeFrom, if_pos (beq_self_eq_true _), read?_closed letters filled known]
  simp only [passed]
  rw [split, decodeFrom_skip]

private theorem decode_cons {c : Char} (other : c ≠ '&') :
    decode inValue (c :: rest) = c :: decode inValue rest := by
  rw [decode, decodeFrom, if_neg (by simpa using other), decode]

end Html.Reference

namespace Markup

open Html Reference

private theorem decode_escape (inValue : Bool) {e : Text × Text} (escape : e ∈ Entity.escapes)
    (rest : Text) : decode inValue ('&' :: (e.1 ++ ';' :: rest)) =
      (Entity.read e.2).characters ++ decode inValue rest := by
  obtain ⟨letters, filled⟩ := Entity.escapes_spelled e escape
  exact decode_closed (List.all_eq_true.mp letters) filled (Entity.closed?_of_mem_escapes escape)

private theorem decode_amp (inValue : Bool) (rest : Text) :
    decode inValue ("&amp;".toList ++ rest) = '&' :: decode inValue rest :=
  decode_escape inValue (.head _) rest

private theorem decode_lt (inValue : Bool) (rest : Text) :
    decode inValue ("&lt;".toList ++ rest) = '<' :: decode inValue rest :=
  decode_escape inValue (.tail _ (.head _)) rest

private theorem decode_gt (inValue : Bool) (rest : Text) :
    decode inValue ("&gt;".toList ++ rest) = '>' :: decode inValue rest :=
  decode_escape inValue (.tail _ (.tail _ (.head _))) rest

private theorem decode_quot (inValue : Bool) (rest : Text) :
    decode inValue ("&quot;".toList ++ rest) = '"' :: decode inValue rest :=
  decode_escape inValue (.tail _ (.tail _ (.tail _ (.head _)))) rest

/-- An escaped text is read as the text. -/
theorem decode_encodeText (inValue : Bool) (t : Text) : decode inValue (encodeText t) = t := by
  induction t with
  | nil => rfl
  | cons c rest ih =>
      rw [encodeText, List.flatMap_cons, ← encodeText]
      split_ifs with amp lt gt
      · rw [decode_amp, ih, beq_iff_eq.mp amp]
      · rw [decode_lt, ih, beq_iff_eq.mp lt]
      · rw [decode_gt, ih, beq_iff_eq.mp gt]
      · rw [List.singleton_append, decode_cons (by simpa using amp), ih]

/-- An escaped value is read as the value. -/
theorem decode_encodeValue (inValue : Bool) (t : Text) : decode inValue (encodeValue t) = t := by
  induction t with
  | nil => rfl
  | cons c rest ih =>
      rw [encodeValue, List.flatMap_cons, ← encodeValue]
      split_ifs with amp lt gt quote
      · rw [decode_amp, ih, beq_iff_eq.mp amp]
      · rw [decode_lt, ih, beq_iff_eq.mp lt]
      · rw [decode_gt, ih, beq_iff_eq.mp gt]
      · rw [decode_quot, ih, beq_iff_eq.mp quote]
      · rw [List.singleton_append, decode_cons (by simpa using amp), ih]

/-- No tag starts in a text that is put into markup. -/
theorem bracket_notMem_encodeText (t : Text) : '<' ∉ encodeText t := by
  rw [encodeText, List.mem_flatMap]
  rintro ⟨c, -, member⟩
  split_ifs at member with amp lt gt
  · exact absurd member (by decide)
  · exact absurd member (by decide)
  · exact absurd member (by decide)
  · exact lt (beq_iff_eq.mpr (List.mem_singleton.mp member).symm)

/-- Escaping a text makes no null character. -/
theorem null_mem_of_mem_encodeText {t : Text} (member : '\x00' ∈ encodeText t) : '\x00' ∈ t := by
  rw [encodeText, List.mem_flatMap] at member
  obtain ⟨c, within, member⟩ := member
  split_ifs at member with amp lt gt
  · exact absurd member (by decide)
  · exact absurd member (by decide)
  · exact absurd member (by decide)
  · exact List.mem_singleton.mp member ▸ within

/-- No quoted value ends in a value that is put into markup. -/
theorem quote_notMem_encodeValue (t : Text) : '"' ∉ encodeValue t := by
  rw [encodeValue, List.mem_flatMap]
  rintro ⟨c, -, member⟩
  split_ifs at member with amp lt gt quote
  · exact absurd member (by decide)
  · exact absurd member (by decide)
  · exact absurd member (by decide)
  · exact absurd member (by decide)
  · exact quote (beq_iff_eq.mpr (List.mem_singleton.mp member).symm)

/-- A value without characters with a meaning is put into markup as it is. -/
theorem encodeValue_of_plain {t : Text} (plain : ∀ c ∈ t, c ∉ ['&', '<', '>', '"']) :
    encodeValue t = t := by
  induction t with
  | nil => rfl
  | cons c rest ih =>
      have own := plain c List.mem_cons_self
      simp only [List.mem_cons, List.not_mem_nil, or_false, not_or] at own
      rw [encodeValue, List.flatMap_cons, ← encodeValue,
        ih fun d member => plain d (List.mem_cons_of_mem c member)]
      simp [own]

end Markup
end ArticleMarkdown
