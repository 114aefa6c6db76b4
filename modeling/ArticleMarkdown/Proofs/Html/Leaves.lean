import ArticleMarkdown.Html.Lexer
import ArticleMarkdown.Proofs.Html.Escapes
import ArticleMarkdown.Proofs.Text.Split

/-!
# Elements that hold text only

The markup of an element with a text in it, all values and the text escaped, is read as exactly this
element: its start tag with its attributes, the text, and its end tag (`Leaf.isReadFrom_markup`).
-/

namespace ArticleMarkdown.Html

open Text

/-- An element that holds no elements. A void element has no content. -/
structure Leaf where
  name : String
  attributes : List (String × Text)
  content : Option Text
  deriving DecidableEq, Repr

namespace Leaf

/-- An attribute in a start tag, its value between quotes as it is. -/
def writeAttribute : String × Text → Text
  | (key, value) => ' ' :: key.toList ++ '=' :: '"' :: value ++ ['"']

/-- What follows the start tag: a text as it is, and the end tag. -/
def writeContent (name : String) : Option Text → Text
  | none => []
  | some t => t ++ Markup.endTag name

/-- The markup in which the values and the text of an element stand as they are. -/
def write (leaf : Leaf) : Text :=
  '<' :: leaf.name.toList ++ leaf.attributes.flatMap writeAttribute ++
    '>' :: writeContent leaf.name leaf.content

/-- The element with other values and another text. -/
def mapTexts (value text : Text → Text) (leaf : Leaf) : Leaf where
  name := leaf.name
  attributes := leaf.attributes.map fun a => (a.1, value a.2)
  content := leaf.content.map text

/-- The element with the characters with a meaning in markup replaced by references. -/
def escaped : Leaf → Leaf :=
  mapTexts Markup.encodeValue Markup.encodeText

/-- The element with the references read. -/
def decoded : Leaf → Leaf :=
  mapTexts (Reference.decode true) (Reference.decode false)

/-- The markup of an element. -/
def markup (leaf : Leaf) : Text :=
  leaf.escaped.write

/-- Whether a text is a word of lower-case letters. -/
def isWord (t : Text) : Bool :=
  !t.isEmpty && t.all fun c => 'a' ≤ c && c ≤ 'z'

/-- The element has words for names, no two attributes of one name. -/
structure Proper (leaf : Leaf) : Prop where
  name : isWord leaf.name.toList = true
  keys : ∀ a ∈ leaf.attributes, isWord a.1.toList = true
  distinct : (leaf.attributes.map (·.1)).Nodup

/-- An attribute as it is read. A null character cannot be a part of a value. -/
def readAttribute : String × Text → Attribute
  | (key, t) => ⟨.none, key, t.map showNull⟩

/-- The tokens after the start tag. -/
def contentTokens (name : String) : Option Text → List Token
  | none => []
  | some t => Token.ofTextWithNulls t ++ [.endTag name]

/-- The tokens of an element. -/
def tokens (leaf : Leaf) : List Token :=
  .startTag ⟨leaf.name, leaf.attributes.map readAttribute, false⟩ ::
    contentTokens leaf.name leaf.content

end Leaf

namespace Lexer

/-- The tokens that are read one after another from an input, up to a rest. -/
inductive Reads (foreign : Bool) : Text → List Token → Text → Prop
  | done (t : Text) : Reads foreign t [] t
  | next {t between rest : Text} {found later : List Token} (filled : t ≠ [])
      (first : Lexer.next .markup foreign t = (found, between))
      (behind : Reads foreign between later rest) : Reads foreign t (found ++ later) rest

variable {foreign : Bool} {s t u : Text} {found later : List Token}

private theorem Reads.single (filled : s ≠ []) (first : Lexer.next .markup foreign s = (found, t)) :
    Reads foreign s found t := by
  have read := Reads.next filled first (.done t)
  rwa [List.append_nil] at read

private theorem Reads.trans (first : Reads foreign s found t) (second : Reads foreign t later u) :
    Reads foreign s (found ++ later) u := by
  induction first with
  | done => exact second
  | next filled head _ ih =>
      rw [List.append_assoc]
      exact .next filled head (ih second)

end Lexer

/-- `markup` is the element `leaf`. Its values stand between quotes and hold none, its text holds no
start of a tag, and both are those of `leaf` once the references are read. And the tokens of the
markup are those of `leaf`, whatever follows. -/
structure Leaf.IsReadFrom (leaf : Leaf) (markup : Text) : Prop where
  stands : ∃ raw : Leaf, markup = raw.write ∧ raw.decoded = leaf ∧
    (∀ a ∈ raw.attributes, '"' ∉ a.2) ∧ ∀ t ∈ raw.content, '<' ∉ t
  reads : ∀ (foreign : Bool) (rest : Text), Lexer.Reads foreign (markup ++ rest) leaf.tokens rest

namespace Leaf

private theorem decoded_escaped (leaf : Leaf) : leaf.escaped.decoded = leaf := by
  obtain ⟨name, attributes, content⟩ := leaf
  have values : (attributes.map fun a => (a.1, Markup.encodeValue a.2)).map
      (fun a => (a.1, Reference.decode true a.2)) = attributes := by
    rw [List.map_map]
    refine List.map_id'' (fun a => ?_) attributes
    exact Prod.ext rfl (Markup.decode_encodeValue true a.2)
  have text : (content.map Markup.encodeText).map (Reference.decode false) = content := by
    cases content with
    | none => rfl
    | some t => exact congrArg some (Markup.decode_encodeText false t)
  exact congrArg₂ (mk name) values text

section Words

variable {c : Char} {w : Text}

private theorem letter_of_isWord (word : isWord w = true) (member : c ∈ w) : 'a' ≤ c ∧ c ≤ 'z' := by
  rw [isWord, Bool.and_eq_true, List.all_eq_true] at word
  simpa using word.2 c member

private theorem ne_nil_of_isWord (word : isWord w = true) : w ≠ [] := by
  rintro rfl
  cases word

/-- What a letter is not. -/
theorem ne_of_letter (letter : 'a' ≤ c ∧ c ≤ 'z') {d : Char} (other : ¬('a' ≤ d ∧ d ≤ 'z')) :
    c ≠ d :=
  fun same => other (same ▸ letter)

private theorem isSpace_letter (letter : 'a' ≤ c ∧ c ≤ 'z') : isSpace c = false := by
  have space := ne_of_letter letter (d := ' ') (by decide)
  have lineFeed := ne_of_letter letter (d := '\n') (by decide)
  have tab := ne_of_letter letter (d := '\t') (by decide)
  have carriage := ne_of_letter letter (d := '\r') (by decide)
  have form := ne_of_letter letter (d := '\x0c') (by decide)
  simp [isSpace, space, lineFeed, tab, carriage, form]

private theorem lowerChar_letter (letter : 'a' ≤ c ∧ c ≤ 'z') : lowerChar c = c := by
  rw [lowerChar, if_neg]
  rintro ⟨-, upper⟩
  exact absurd (Char.le_trans letter.1 upper) (by decide)

private theorem showNull_letter (letter : 'a' ≤ c ∧ c ≤ 'z') : showNull c = c := by
  have other := ne_of_letter letter (d := '\x00') (by decide)
  simp [showNull, other]

private theorem isAsciiLetter_letter (letter : 'a' ≤ c ∧ c ≤ 'z') : isAsciiLetter c = true := by
  simp [isAsciiLetter, letter]

end Words
end Leaf

namespace TagReader

variable {r r' : TagReader} {c : Char} {name value rest : Text} {attributes : List (Text × Text)}

private theorem run_step (moves : r.step? c = some r') : r.run (c :: rest) = r'.run rest := by
  rw [run, moves]

private theorem run_key {key : Text} (letters : ∀ c ∈ key, 'a' ≤ c ∧ c ≤ 'z') :
    run ⟨.name, name, value, attributes⟩ (key ++ rest) =
      run ⟨.name, key.reverse ++ name, value, attributes⟩ rest := by
  induction key generalizing name with
  | nil => rfl
  | cons c key ih =>
      have letter := letters c List.mem_cons_self
      have equals := Leaf.ne_of_letter letter (d := '=') (by decide)
      have solidus := Leaf.ne_of_letter letter (d := '/') (by decide)
      have bracket := Leaf.ne_of_letter letter (d := '>') (by decide)
      have longer : step? ⟨.name, name, value, attributes⟩ c =
          some ⟨.name, c :: name, value, attributes⟩ := by
        simp [step?, Leaf.isSpace_letter letter, equals, solidus, bracket,
          Leaf.lowerChar_letter letter, Leaf.showNull_letter letter]
      rw [List.cons_append, run_step longer,
        ih fun d member => letters d (List.mem_cons_of_mem c member), List.reverse_cons,
        List.append_assoc, List.singleton_append]

private theorem run_value {t : Text} (unquoted : '"' ∉ t) :
    run ⟨.quoted '"', name, value, attributes⟩ (t ++ rest) =
      run ⟨.quoted '"', name, (t.map showNull).reverse ++ value, attributes⟩ rest := by
  induction t generalizing value with
  | nil => rfl
  | cons c t ih =>
      rw [List.mem_cons, not_or] at unquoted
      have longer : step? ⟨.quoted '"', name, value, attributes⟩ c =
          some ⟨.quoted '"', name, showNull c :: value, attributes⟩ := by
        simp [step?, Ne.symm unquoted.1]
      rw [List.cons_append, run_step longer, ih unquoted.2, List.map_cons, List.reverse_cons,
        List.append_assoc, List.singleton_append]

/-- The reader once it has read another attribute. -/
def after (r : TagReader) : String × Text → TagReader
  | (key, value) =>
    ⟨.between, key.toList.reverse, (value.map showNull).reverse, r.complete.attributes⟩

private theorem run_attribute {a : String × Text} (word : Leaf.isWord a.1.toList = true)
    (unquoted : '"' ∉ a.2) (place : r.place = .between) :
    r.run (Leaf.writeAttribute a ++ rest) = (r.after a).run rest := by
  obtain ⟨key, value⟩ := a
  obtain ⟨c, more, letters⟩ := List.exists_cons_of_ne_nil (Leaf.ne_nil_of_isWord word)
  have letter : ∀ d ∈ c :: more, 'a' ≤ d ∧ d ≤ 'z' := fun d member =>
    Leaf.letter_of_isWord word (letters ▸ member)
  have own := letter c List.mem_cons_self
  have solidus := Leaf.ne_of_letter own (d := '/') (by decide)
  have bracket := Leaf.ne_of_letter own (d := '>') (by decide)
  have opens : r.step? ' ' = some r := by
    obtain ⟨_, _, _, _⟩ := r
    cases place
    rfl
  have begins : r.step? c = some ⟨.name, [c], [], r.complete.attributes⟩ := by
    simp [step?, place, between?, Leaf.isSpace_letter own, solidus, bracket, begin, complete,
      Leaf.lowerChar_letter own, Leaf.showNull_letter own]
  have text : Leaf.writeAttribute (key, value) ++ rest =
      ' ' :: c :: (more ++ '=' :: '"' :: (value ++ '"' :: rest)) := by
    simp [Leaf.writeAttribute, letters]
  have equals : step? ⟨.name, more.reverse ++ [c], [], r.complete.attributes⟩ '=' =
      some ⟨.beforeValue, more.reverse ++ [c], [], r.complete.attributes⟩ := rfl
  have quote : step? ⟨.beforeValue, more.reverse ++ [c], [], r.complete.attributes⟩ '"' =
      some ⟨.quoted '"', more.reverse ++ [c], [], r.complete.attributes⟩ := rfl
  have closes : step? ⟨.quoted '"', more.reverse ++ [c], (value.map showNull).reverse ++ [],
      r.complete.attributes⟩ '"' = some (r.after (key, value)) := by
    rw [after, letters, List.reverse_cons, List.append_nil]
    rfl
  rw [text, run_step opens, run_step begins,
    run_key fun d member => letter d (List.mem_cons_of_mem c member), run_step equals,
    run_step quote, run_value unquoted, run_step closes]

/-- An attribute as it is kept: its name, and its value with the references read. -/
def kept : String × Text → Text × Text
  | (key, value) => (key.toList, Reference.decode true (value.map showNull))

private theorem complete_after {a : String × Text} (filled : a.1.toList ≠ [])
    (fresh : a.1.toList ∉ r.complete.attributes.map (·.1)) :
    (r.after a).complete.attributes = kept a :: r.complete.attributes := by
  obtain ⟨key, value⟩ := a
  have absent : (r.complete.attributes.any fun b => b.1 == key.toList) = false := by
    rw [List.any_eq_false]
    intro b member same
    exact fresh (List.mem_map.mpr ⟨b, member, beq_iff_eq.mp same⟩)
  have named : key.toList.isEmpty = false := List.isEmpty_eq_false_iff.mpr filled
  rw [complete]
  simp [after, named, absent, kept]

/-- All attributes up to the bracket that closes the tag. -/
theorem run_attributes {entries : List (String × Text)}
    (words : ∀ a ∈ entries, Leaf.isWord a.1.toList = true) (unquoted : ∀ a ∈ entries, '"' ∉ a.2)
    (distinct : (entries.map (·.1)).Nodup) (place : r.place = .between)
    (fresh : ∀ a ∈ entries, a.1.toList ∉ r.complete.attributes.map (·.1)) :
    r.run (entries.flatMap Leaf.writeAttribute ++ '>' :: rest) =
      some ((r.complete.attributes.reverse ++ entries.map kept).map
        (fun a => ⟨.none, String.ofList a.1, a.2⟩), false, rest) := by
  induction entries generalizing r with
  | nil =>
      have ends : r.step? '>' = none := by
        simp [step?, place, between?, show isSpace '>' = false from rfl]
      rw [List.flatMap_nil, List.nil_append, run, ends, List.map_nil, List.append_nil, place]
      rfl
  | cons a others ih =>
      have filled := Leaf.ne_nil_of_isWord (words a List.mem_cons_self)
      have grown := complete_after filled (fresh a List.mem_cons_self)
      rw [List.map_cons, List.nodup_cons] at distinct
      have later : ∀ b ∈ others, b.1.toList ∉ (r.after a).complete.attributes.map (·.1) := by
        intro b member
        rw [grown, List.map_cons, List.mem_cons, not_or]
        refine ⟨fun same => distinct.1 ?_, fresh b (List.mem_cons_of_mem a member)⟩
        exact List.mem_map.mpr ⟨b, member, String.toList_injective same⟩
      rw [List.flatMap_cons, List.append_assoc, run_attribute (words a List.mem_cons_self)
        (unquoted a List.mem_cons_self) place,
        ih (fun b member => words b (List.mem_cons_of_mem a member))
          (fun b member => unquoted b (List.mem_cons_of_mem a member)) distinct.2 rfl later, grown]
      simp

end TagReader

namespace Lexer

variable {foreign : Bool} {name : String} {entries : List (String × Text)} {t rest : Text}

/-- A run of characters up to the first one that does not belong to it. -/
theorem span_append {p : Char → Bool} (inside : ∀ d ∈ t, p d = true) {c : Char} (ends : p c = false)
    (rest : Text) :
    (t ++ c :: rest).takeWhile p = t ∧ (t ++ c :: rest).dropWhile p = c :: rest := by
  have stops : ¬p c = true := Bool.eq_false_iff.mp ends
  rw [List.takeWhile_append_of_pos inside, List.dropWhile_append_of_pos inside,
    List.takeWhile_cons_of_neg stops, List.dropWhile_cons_of_neg stops, List.append_nil]
  exact ⟨rfl, rfl⟩

private theorem ofList_name (word : Leaf.isWord name.toList = true) :
    String.ofList (name.toList.map fun c => showNull (lowerChar c)) = name := by
  have same : name.toList.map (fun c => showNull (lowerChar c)) = name.toList := by
    refine (List.map_congr_left fun c member => ?_).trans (List.map_id' _)
    have letter := Leaf.letter_of_isWord word member
    rw [Leaf.lowerChar_letter letter, Leaf.showNull_letter letter]
  rw [same, String.ofList_toList]

private theorem readTag?_start (word : Leaf.isWord name.toList = true)
    (words : ∀ a ∈ entries, Leaf.isWord a.1.toList = true) (unquoted : ∀ a ∈ entries, '"' ∉ a.2)
    (distinct : (entries.map (·.1)).Nodup) :
    readTag? (name.toList ++ (entries.flatMap Leaf.writeAttribute ++ '>' :: rest)) =
      some (name, entries.map (fun a => ⟨.none, a.1, Reference.decode true (a.2.map showNull)⟩),
        false, rest) := by
  have inName : ∀ d ∈ name.toList, (!(isSpace d || d == '/' || d == '>')) = true := by
    intro d member
    have letter := Leaf.letter_of_isWord word member
    have solidus := Leaf.ne_of_letter letter (d := '/') (by decide)
    have bracket := Leaf.ne_of_letter letter (d := '>') (by decide)
    simp [Leaf.isSpace_letter letter, solidus, bracket]
  have read : TagReader.run {} (entries.flatMap Leaf.writeAttribute ++ '>' :: rest) = _ :=
    TagReader.run_attributes words unquoted distinct rfl fun _ _ => List.not_mem_nil
  obtain ⟨c, behind, opens, ends⟩ : ∃ c behind,
      entries.flatMap Leaf.writeAttribute ++ '>' :: rest = c :: behind ∧
        (!(isSpace c || c == '/' || c == '>')) = false := by
    cases entries with
    | nil => exact ⟨'>', rest, rfl, rfl⟩
    | cons a others => exact ⟨' ', _, rfl, rfl⟩
  rw [opens] at read ⊢
  obtain ⟨taken, left⟩ := span_append inName ends behind
  rw [readTag?, taken, left, read, ofList_name word]
  simp [TagReader.kept, TagReader.complete]

private theorem bracket_start (word : Leaf.isWord name.toList = true) {behind : Text}
    {found : List Attribute}
    (read : readTag? (name.toList ++ behind) = some (name, found, false, rest)) :
    bracket foreign (name.toList ++ behind) = ([.startTag ⟨name, found, false⟩], rest) := by
  obtain ⟨c, more, letters⟩ := List.exists_cons_of_ne_nil (Leaf.ne_nil_of_isWord word)
  have letter := Leaf.letter_of_isWord word (letters ▸ List.mem_cons_self : c ∈ name.toList)
  rw [letters, List.cons_append] at read ⊢
  unfold bracket
  split
  · next same => exact absurd (List.cons.inj same).1 (Leaf.ne_of_letter letter (by decide))
  · next same => exact absurd (List.cons.inj same).1 (Leaf.ne_of_letter letter (by decide))
  · next same => exact absurd (List.cons.inj same).1 (Leaf.ne_of_letter letter (by decide))
  · next same => exact absurd (List.cons.inj same).1 (Leaf.ne_of_letter letter (by decide))
  · next same => exact absurd (List.cons.inj same).1 (Leaf.ne_of_letter letter (by decide))
  · next same =>
      rw [← (List.cons.inj same).1, if_pos (Leaf.isAsciiLetter_letter letter), read]
  · next same => cases same

private theorem bracket_end (word : Leaf.isWord name.toList = true) :
    bracket foreign ('/' :: (name.toList ++ '>' :: rest)) = ([.endTag name], rest) := by
  have words : ∀ a ∈ ([] : List (String × Text)), Leaf.isWord a.1.toList = true :=
    List.forall_mem_nil _
  have unquoted : ∀ a ∈ ([] : List (String × Text)), '"' ∉ a.2 := List.forall_mem_nil _
  have read : readTag? (name.toList ++ '>' :: rest) = some (name, [], false, rest) :=
    readTag?_start word words unquoted List.nodup_nil
  obtain ⟨c, more, letters⟩ := List.exists_cons_of_ne_nil (Leaf.ne_nil_of_isWord word)
  have letter := Leaf.letter_of_isWord word (letters ▸ List.mem_cons_self : c ∈ name.toList)
  have other : c ≠ '>' := Leaf.ne_of_letter letter (by decide)
  rw [letters, List.cons_append] at read ⊢
  rw [bracket, if_pos (Leaf.isAsciiLetter_letter letter), endTag, read]
  exact other

private theorem Reads.start (foreign : Bool) (rest : Text) (word : Leaf.isWord name.toList = true)
    (words : ∀ a ∈ entries, Leaf.isWord a.1.toList = true) (unquoted : ∀ a ∈ entries, '"' ∉ a.2)
    (distinct : (entries.map (·.1)).Nodup) :
    Reads foreign ('<' :: (name.toList ++ (entries.flatMap Leaf.writeAttribute ++ '>' :: rest)))
      [.startTag ⟨name,
        entries.map fun a => ⟨.none, a.1, Reference.decode true (a.2.map showNull)⟩, false⟩] rest :=
  .single (List.cons_ne_nil _ _) (bracket_start word (readTag?_start word words unquoted distinct))

private theorem Reads.close (word : Leaf.isWord name.toList = true) :
    Reads foreign (Markup.endTag name ++ rest) [.endTag name] rest := by
  have text : Markup.endTag name ++ rest = '<' :: '/' :: (name.toList ++ '>' :: rest) := by
    simp [Markup.endTag]
  rw [text]
  exact .single (List.cons_ne_nil _ _) (bracket_end word)

/-- A text without null characters is read at once. -/
theorem Reads.run (clear : '\x00' ∉ t) {c : Char} (ends : c = '<' ∨ c = '\x00') :
    Reads foreign (Markup.encodeText t ++ c :: rest) (Token.ofText t) (c :: rest) := by
  have inside : ∀ d ∈ Markup.encodeText t, (d != '<' && d != '\x00') = true := by
    intro d member
    have bracket : d ≠ '<' := fun same => Markup.bracket_notMem_encodeText t (same ▸ member)
    have null : d ≠ '\x00' := fun same => clear (Markup.null_mem_of_mem_encodeText (same ▸ member))
    simp [bracket, null]
  have stops : (c != '<' && c != '\x00') = false := by
    rcases ends with rfl | rfl <;> rfl
  have decoded := Markup.decode_encodeText false t
  cases shown : Markup.encodeText t with
  | nil =>
      rw [shown] at decoded
      rw [← decoded]
      exact .done _
  | cons d more =>
      rw [shown] at inside decoded
      have first := inside d List.mem_cons_self
      rw [Bool.and_eq_true, bne_iff_ne, bne_iff_ne] at first
      refine .single (List.cons_ne_nil _ _) ?_
      obtain ⟨taken, left⟩ := span_append inside stops rest
      rw [List.cons_append] at taken left
      change markup foreign (d :: (more ++ c :: rest)) = _
      rw [markup, taken, left, decoded]
      · exact fun _ same => first.1 (List.cons.inj same).1
      · exact fun _ same => first.2 (List.cons.inj same).1

private theorem Reads.null : Reads foreign ('\x00' :: rest) [.null] rest :=
  .single (List.cons_ne_nil _ _) rfl

/-- Between null characters the pieces of a text are read one after another. -/
theorem Reads.pieces {pieces : List Text} (clear : ∀ piece ∈ pieces, '\x00' ∉ piece) :
    Reads foreign (Markup.encodeText (join ['\x00'] pieces) ++ '<' :: rest)
      (List.intersperse [Token.null] (pieces.map Token.ofText)).flatten ('<' :: rest) := by
  fun_induction join ['\x00'] pieces with
  | case1 => exact .done _
  | case2 piece =>
      rw [List.map_singleton, List.intersperse_singleton, List.flatten_singleton]
      exact .run (clear piece List.mem_cons_self) (.inl rfl)
  | case3 piece others filled ih =>
      obtain ⟨next, more, rfl⟩ := List.exists_cons_of_ne_nil filled
      have text :
          Markup.encodeText (piece ++ ['\x00'] ++ join ['\x00'] (next :: more)) ++ '<' :: rest =
          Markup.encodeText piece ++ '\x00' ::
            (Markup.encodeText (join ['\x00'] (next :: more)) ++ '<' :: rest) := by
        simp [Markup.encodeText]
      have later := ih fun other member => clear other (List.mem_cons_of_mem piece member)
      rw [text, List.map_cons, List.map_cons, List.intersperse_cons_cons, List.flatten_cons,
        List.flatten_cons]
      exact (Reads.run (clear piece List.mem_cons_self) (.inr rfl)).trans (Reads.null.trans later)

private theorem Reads.text (foreign : Bool) (t rest : Text) :
    Reads foreign (Markup.encodeText t ++ '<' :: rest) (Token.ofTextWithNulls t) ('<' :: rest) := by
  have clear : ∀ piece ∈ splitOn '\x00' t, '\x00' ∉ piece :=
    fun _ member => mark_notMem_of_mem_splitOn member
  have pieces : Reads foreign (Markup.encodeText (join ['\x00'] (splitOn '\x00' t)) ++ '<' :: rest)
      (Token.ofTextWithNulls t) ('<' :: rest) := .pieces clear
  rwa [join_splitOn] at pieces

/-- The content of an element is read up to what follows its end tag. -/
theorem Reads.content (foreign : Bool) (content : Option Text) (rest : Text)
    (word : Leaf.isWord name.toList = true) :
    Reads foreign (Leaf.writeContent name (content.map Markup.encodeText) ++ rest)
      (Leaf.contentTokens name content) rest := by
  cases content with
  | none => exact .done rest
  | some t =>
      have close : Reads foreign (Markup.endTag name ++ rest) [.endTag name] rest := .close word
      rw [Option.map_some, Leaf.writeContent, List.append_assoc]
      exact (Reads.text foreign t _).trans close

end Lexer

namespace Leaf

/-- Null characters are shown before or after characters are escaped. -/
theorem map_showNull_encodeValue (t : Text) :
    (Markup.encodeValue t).map showNull = Markup.encodeValue (t.map showNull) := by
  rw [Markup.encodeValue, Markup.encodeValue, List.map_flatMap, List.flatMap_map]
  refine List.flatMap_congr fun c _ => ?_
  by_cases null : c = '\x00'
  · rw [null]
    rfl
  · have shown : showNull c = c := by simp [showNull, null]
    rw [shown]
    split_ifs
    · rfl
    · rfl
    · rfl
    · rfl
    · rw [List.map_singleton, shown]

/-- The markup of an element is read as the element. -/
theorem isReadFrom_markup {leaf : Leaf} (proper : leaf.Proper) : leaf.IsReadFrom leaf.markup := by
  obtain ⟨name, attributes, content⟩ := leaf
  have same : ((attributes.map fun a => (a.1, Markup.encodeValue a.2)).map (·.1)) =
      attributes.map (·.1) := by
    rw [List.map_map]
    rfl
  have words : ∀ a ∈ attributes.map fun a => (a.1, Markup.encodeValue a.2),
      isWord a.1.toList = true :=
    List.forall_mem_map.mpr proper.keys
  have unquoted : ∀ a ∈ attributes.map fun a => (a.1, Markup.encodeValue a.2), '"' ∉ a.2 :=
    List.forall_mem_map.mpr fun a _ => Markup.quote_notMem_encodeValue a.2
  have values : (attributes.map fun a => (a.1, Markup.encodeValue a.2)).map
      (fun a => ⟨.none, a.1, Reference.decode true (a.2.map showNull)⟩) =
        attributes.map readAttribute := by
    rw [List.map_map]
    refine List.map_congr_left fun a _ => ?_
    exact congrArg (Attribute.mk .none a.1)
      ((congrArg (Reference.decode true) (map_showNull_encodeValue a.2)).trans
        (Markup.decode_encodeValue true _))
  have text : ∀ t ∈ content.map Markup.encodeText, '<' ∉ t := by
    cases content with
    | none => exact nofun
    | some t => exact fun _ same => Option.mem_some.mp same ▸ Markup.bracket_notMem_encodeText t
  refine ⟨⟨_, rfl, decoded_escaped _, unquoted, text⟩, fun foreign rest => ?_⟩
  have start := Lexer.Reads.start foreign
    (writeContent name (content.map Markup.encodeText) ++ rest) proper.name words unquoted
    (same ▸ proper.distinct)
  have parts : (mk name attributes content).markup ++ rest = '<' :: (name.toList ++
      ((attributes.map fun a => (a.1, Markup.encodeValue a.2)).flatMap writeAttribute ++
        '>' :: (writeContent name (content.map Markup.encodeText) ++ rest))) := by
    simp [markup, escaped, mapTexts, write]
  rw [values] at start
  rw [parts]
  exact start.trans (Lexer.Reads.content foreign content rest proper.name)

end Leaf
end ArticleMarkdown.Html
