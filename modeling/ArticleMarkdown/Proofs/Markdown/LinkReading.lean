import ArticleMarkdown.Markdown.Link
import ArticleMarkdown.Proofs.Text.Backslash
import Mathlib.Data.List.Infix

/-!
# Reading links

A reader of Markdown ends the label of a link at the first closing bracket that is not escaped, and
the destination at the first closing angle bracket, or at whitespace or a parenthesis that closes
more than was opened. What is written of a link is read back as label and destination exactly when
no backslash of the link escapes what closes it and the address holds no line break
(`Link.read?_ofText_iff`).
-/

namespace ArticleMarkdown

namespace Link

open Text

/-- A bare destination and what follows it. `depth` parentheses are open; `armed` tells whether a
backslash waits. -/
def readBare? (depth : Nat) (armed : Bool) : Text → Option (Text × Text)
  | [] => if depth = 0 then some ([], []) else none
  | c :: rest =>
    if armed && isPunctuation c then
      (readBare? depth false rest).map fun (before, after) => (c :: before, after)
    else if isSpace c then if depth = 0 then some ([], c :: rest) else none
    else if c == '(' then
      (readBare? (depth + 1) false rest).map fun (before, after) => (c :: before, after)
    else if c == ')' then
      if depth = 0 then some ([], c :: rest)
      else (readBare? (depth - 1) false rest).map fun (before, after) => (c :: before, after)
    else (readBare? depth (c == '\\') rest).map fun (before, after) => (c :: before, after)

/-- Whether a character cannot stand between angle brackets unless it is escaped; a line break
cannot be. -/
def isRefused (c : Char) : Bool :=
  isLineBreak c || c == '<'

/-- A destination, without its angle brackets if it stands in such, and what follows it. -/
def readDestination? : Text → Option (Text × Text)
  | '<' :: rest => readTo? '>' isRefused false rest
  | t => readBare? 0 false t

/-- A link as it is read: label and destination with their escapes, and what follows the link. -/
structure Reading where
  label : Text
  destination : Text
  rest : Text
  deriving DecidableEq, Repr

/-- What is read behind the label of a link. -/
def readBehind? (label : Text) : Text → Option Reading
  | '(' :: t =>
    (readDestination? t).bind fun (destination, behind) =>
      match behind with
      | ')' :: rest => some ⟨label, destination, rest⟩
      | _ => none
  | _ => none

private theorem readBehind?_eq_some {label t : Text} {reading : Reading}
    (read : readBehind? label t = some reading) :
    reading.label = label ∧ ∃ behind, t = '(' :: behind ∧
      readDestination? behind = some (reading.destination, ')' :: reading.rest) := by
  unfold readBehind? at read
  split at read
  · next behind =>
    obtain ⟨⟨target, after⟩, found, read⟩ := Option.bind_eq_some_iff.mp read
    simp only at read
    split at read
    · cases read
      exact ⟨rfl, behind, rfl, found⟩
    · cases read
  · cases read

/-- The link at the start of a text. -/
def read? : Text → Option Reading
  | '[' :: t => (readTo? ']' (fun _ => false) false t).bind fun (label, behind) =>
      readBehind? label behind
  | _ => none

/-- An address with its angle brackets written as percent codes. -/
def shielded (address : Text) : Text :=
  address.flatMap fun c =>
    if c == '<' then "%3C".toList else if c == '>' then "%3E".toList else [c]

/-- Backslashes come in pairs before each closing bracket of a label and at its end. None of them
then takes the escape off a bracket of the label, or escapes the bracket that closes it. -/
def PairsBackslashes (label : Text) : Prop :=
  ∀ before, before = label ∨ before ++ [']'] <+: label → finalBackslashes before % 2 = 0

private theorem escapeLabel_cons (c : Char) (t : Text) :
    escapeLabel (c :: t) = (if c == '[' || c == ']' then ['\\', c] else [c]) ++ escapeLabel t := rfl

private theorem shielded_cons (c : Char) (t : Text) :
    shielded (c :: t) = (if c == '<' then "%3C".toList else if c == '>' then "%3E".toList
      else [c]) ++ shielded t := rfl

/-- An address is shielded if it holds a character that would end it. -/
theorem destination_eq (address : Text) :
    destination address =
      if address.any endsDestination then '<' :: shielded address ++ ['>'] else address := rfl

/-- Escaping brackets leaves the backslash that waits at the end. -/
theorem isArmedAfter_escapeLabel (armed : Bool) (t : Text) :
    isArmedAfter armed (escapeLabel t) = isArmedAfter armed t := by
  induction t generalizing armed with
  | nil => rfl
  | cons c t ih =>
      rw [escapeLabel_cons]
      split
      · next bracket =>
        have other : (c == '\\') = false := by
          rw [Bool.or_eq_true, beq_iff_eq, beq_iff_eq] at bracket
          rcases bracket with rfl | rfl <;> decide
        simp only [List.cons_append, List.nil_append, isArmedAfter_cons, other, Bool.false_and]
        exact ih false
      · simp only [List.cons_append, List.nil_append, isArmedAfter_cons]
        exact ih _

/-- Reading goes on through an escaped label if no backslash waits at a closing bracket. -/
theorem isReadOver_escapeLabel (armed : Bool) (t : Text) :
    isReadOver ']' (fun _ => false) armed (escapeLabel t) = true ↔
      ∀ before, before ++ [']'] <+: t → isArmedAfter armed before = false := by
  induction t generalizing armed with
  | nil =>
      refine iff_of_true rfl fun before closes => ?_
      simp at closes
  | cons c t ih =>
      have split : (∀ before, before ++ [']'] <+: c :: t → isArmedAfter armed before = false) ↔
          (c = ']' → armed = false) ∧
            ∀ before, before ++ [']'] <+: t →
              isArmedAfter (c == '\\' && !armed) before = false := by
        constructor
        · intro all
          refine ⟨fun closing => all [] ?_, fun before closes => ?_⟩
          · rw [closing]
            exact List.prefix_append [']'] t
          · exact all (c :: before) ((List.prefix_cons_inj c).mpr closes)
        · rintro ⟨first, later⟩ before closes
          cases before with
          | nil => exact first (List.cons_prefix_cons.mp closes).1.symm
          | cons d before =>
              obtain ⟨rfl, within⟩ := List.cons_prefix_cons.mp closes
              exact later before within
      rw [split, escapeLabel_cons]
      by_cases closing : c = ']'
      · subst closing
        have step : isReadOver ']' (fun _ => false) armed ('\\' :: ']' :: escapeLabel t) =
            (!armed && isReadOver ']' (fun _ => false) false (escapeLabel t)) := by
          cases armed <;> rfl
        change isReadOver ']' (fun _ => false) armed ('\\' :: ']' :: escapeLabel t) = true ↔ _
        rw [step, Bool.and_eq_true, Bool.not_eq_true', ih]
        exact and_congr_left fun _ => ⟨fun waits _ => waits, fun free => free rfl⟩
      · have free : (c = ']' → armed = false) ↔ True :=
          iff_true_intro fun same => absurd same closing
        rw [free, true_and, ← ih]
        by_cases opening : c = '['
        · subst opening
          have step : isReadOver ']' (fun _ => false) armed ('\\' :: '[' :: escapeLabel t) =
              isReadOver ']' (fun _ => false) false (escapeLabel t) := by
            cases armed <;> rfl
          change isReadOver ']' (fun _ => false) armed ('\\' :: '[' :: escapeLabel t) = true ↔ _
          rw [step]
          rfl
        · have plain : (c == '[' || c == ']') = false := by
            rw [beq_false_of_ne opening, beq_false_of_ne closing]
            rfl
          rw [plain, if_neg Bool.false_ne_true, List.singleton_append, isReadOver,
            bne_iff_ne.mpr closing, Bool.not_false, Bool.and_true, Bool.or_true, Bool.true_and]

/-- An escaped label is read back if its backslashes come in pairs. -/
theorem readTo?_escapeLabel_iff (label rest : Text) :
    readTo? ']' (fun _ => false) false (escapeLabel label ++ ']' :: rest) =
      some (escapeLabel label, rest) ↔ PairsBackslashes label := by
  rw [readTo?_eq_iff (by decide), isReadOver_escapeLabel, isArmedAfter_escapeLabel]
  constructor
  · rintro ⟨within, atEnd⟩ before (rfl | closes)
    · exact (not_isArmedAfter_iff _).mp atEnd
    · exact (not_isArmedAfter_iff _).mp (within before closes)
  · intro pairs
    exact ⟨fun before closes => (not_isArmedAfter_iff _).mpr (pairs before (.inr closes)),
      (not_isArmedAfter_iff _).mpr (pairs label (.inl rfl))⟩

private theorem isArmedAfter_shielded (armed : Bool) (t : Text) :
    isArmedAfter armed (shielded t) = isArmedAfter armed t := by
  induction t generalizing armed with
  | nil => rfl
  | cons c t ih =>
      rw [shielded_cons, isArmedAfter_cons]
      by_cases left : c = '<'
      · subst left
        exact ih false
      · by_cases right : c = '>'
        · subst right
          exact ih false
        · rw [beq_false_of_ne left, beq_false_of_ne right, if_neg Bool.false_ne_true,
            if_neg Bool.false_ne_true, List.singleton_append, isArmedAfter_cons]
          exact ih _

/-- A line break is never escaped. -/
theorem isPunctuation_of_isLineBreak {c : Char} (breaks : isLineBreak c = true) :
    isPunctuation c = false := by
  rw [isLineBreak, Bool.or_eq_true, beq_iff_eq, beq_iff_eq] at breaks
  rcases breaks with rfl | rfl <;> decide

/-- Between angle brackets an address is read to the end if it holds no line break. -/
theorem isReadOver_shielded (armed : Bool) (t : Text) :
    isReadOver '>' isRefused armed (shielded t) = true ↔ ∀ c ∈ t, isLineBreak c = false := by
  induction t generalizing armed with
  | nil => simp [shielded, isReadOver]
  | cons c t ih =>
      rw [List.forall_mem_cons, shielded_cons]
      by_cases left : c = '<'
      · subst left
        have step : isReadOver '>' isRefused armed ('%' :: '3' :: 'C' :: shielded t) =
            isReadOver '>' isRefused false (shielded t) := by
          cases armed <;> rfl
        change isReadOver '>' isRefused armed ('%' :: '3' :: 'C' :: shielded t) = true ↔ _
        rw [step, ih, iff_and_self]
        exact fun _ => by decide
      · by_cases right : c = '>'
        · subst right
          have step : isReadOver '>' isRefused armed ('%' :: '3' :: 'E' :: shielded t) =
              isReadOver '>' isRefused false (shielded t) := by
            cases armed <;> rfl
          change isReadOver '>' isRefused armed ('%' :: '3' :: 'E' :: shielded t) = true ↔ _
          rw [step, ih, iff_and_self]
          exact fun _ => by decide
        · rw [beq_false_of_ne left, beq_false_of_ne right, if_neg Bool.false_ne_true,
            if_neg Bool.false_ne_true, List.singleton_append, isReadOver, Bool.and_eq_true, ih,
            isRefused, beq_false_of_ne left, bne_iff_ne.mpr right, Bool.or_false, Bool.true_and]
          refine and_congr_left fun _ => ?_
          cases breaks : isLineBreak c with
          | false => simp
          | true => simp [isPunctuation_of_isLineBreak breaks]

/-- A bare address is read on through. -/
theorem readBare?_append {t : Text} (bare : ∀ c ∈ t, endsDestination c = false) (armed : Bool)
    (rest : Text) :
    readBare? 0 armed (t ++ rest) =
      (readBare? 0 (isArmedAfter armed t) rest).map
        fun (before, after) => (t ++ before, after) := by
  induction t generalizing armed with
  | nil => simp
  | cons c t ih =>
      rw [List.forall_mem_cons] at bare
      obtain ⟨here, later⟩ := bare
      have apart : (isSpace c || c == '(' || c == ')') = false := by
        rw [endsDestination, Bool.or_eq_false_iff, Bool.or_eq_false_iff] at here
        exact here.1.1
      rw [Bool.or_eq_false_iff, Bool.or_eq_false_iff] at apart
      rw [List.cons_append, readBare?, isArmedAfter_cons]
      by_cases escaped : (armed && isPunctuation c) = true
      · have armed' : (c == '\\' && !armed) = false := by
          rw [Bool.and_eq_true] at escaped
          rw [escaped.1, Bool.not_true, Bool.and_false]
        rw [if_pos escaped, armed', ih later, Option.map_map]
        rfl
      · rw [Bool.not_eq_true] at escaped
        simp only [escaped, apart, Bool.false_eq_true, if_false]
        conv_lhs => rw [armed_of_unescaped escaped]
        rw [ih later, Option.map_map]
        rfl

/-- A bare address is read back if no backslash waits at its end. -/
theorem readBare?_eq_iff {t : Text} (bare : ∀ c ∈ t, endsDestination c = false) (rest : Text) :
    readBare? 0 false (t ++ ')' :: rest) = some (t, ')' :: rest) ↔ finalBackslashes t % 2 = 0 := by
  rw [readBare?_append bare, ← not_isArmedAfter_iff]
  cases isArmedAfter false t with
  | false =>
      refine iff_of_true ?_ rfl
      change some (t ++ [], _) = _
      rw [List.append_nil]
  | true =>
      refine iff_of_false (fun read => ?_) Bool.noConfusion
      obtain ⟨later, found, same⟩ := Option.map_eq_some_iff.mp read
      change (readBare? 0 false rest).map (fun (before, after) => (')' :: before, after)) =
        some later at found
      obtain ⟨behind, -, rfl⟩ := Option.map_eq_some_iff.mp found
      have longer := congrArg (fun found : Text × Text => found.1.length) same
      simp at longer

/-- The destination that is written for an address is read back if no backslash waits at its end and
it holds no line break. -/
theorem readDestination?_eq_iff (address rest : Text) :
    readDestination? (destination address ++ ')' :: rest) = some (shielded address, ')' :: rest) ↔
      finalBackslashes address % 2 = 0 ∧ ∀ c ∈ address, isLineBreak c = false := by
  rw [destination_eq]
  by_cases ends : address.any endsDestination = true
  · have written : '<' :: shielded address ++ ['>'] ++ ')' :: rest =
        '<' :: (shielded address ++ '>' :: ')' :: rest) := by simp
    rw [if_pos ends, written, readDestination?]
    rw [readTo?_eq_iff (by decide), isReadOver_shielded, isArmedAfter_shielded,
      not_isArmedAfter_iff]
    exact and_comm
  · rw [if_neg ends]
    rw [Bool.not_eq_true] at ends
    have bare : ∀ c ∈ address, endsDestination c = false := fun c member =>
      Bool.eq_false_iff.mpr (List.any_eq_false.mp ends c member)
    have same : shielded address = address := by
      refine (List.flatMap_congr fun c member => ?_).trans (List.flatMap_singleton' address)
      have here := bare c member
      simp only [endsDestination, Bool.or_eq_false_iff] at here
      rw [here.1.2, here.2]
      rfl
    have unbroken : ∀ c ∈ address, isLineBreak c = false := fun c member => by
      have here := bare c member
      simp only [endsDestination, Bool.or_eq_false_iff] at here
      cases breaks : isLineBreak c with
      | false => rfl
      | true =>
          rw [isLineBreak, Bool.or_eq_true, beq_iff_eq, beq_iff_eq] at breaks
          rcases breaks with rfl | rfl <;> exact absurd here.1.1.1.1 (by decide)
    have opening : readDestination? (address ++ ')' :: rest) =
        readBare? 0 false (address ++ ')' :: rest) := by
      cases address with
      | nil => rfl
      | cons c address =>
          rw [List.cons_append, readDestination?]
          intro more same
          cases same
          exact absurd (bare '<' List.mem_cons_self) (by decide)
    rw [same, opening, readBare?_eq_iff bare, iff_self_and]
    exact fun _ => unbroken

private theorem unescape_escapeLabel {label : Text} (plain : '\\' ∉ label) :
    unescape (escapeLabel label) = label := by
  induction label with
  | nil => rfl
  | cons c t ih =>
      rw [List.mem_cons, not_or] at plain
      rw [escapeLabel_cons]
      split
      · next bracket =>
        rw [Bool.or_eq_true, beq_iff_eq, beq_iff_eq] at bracket
        rcases bracket with rfl | rfl
        · exact congrArg ('[' :: ·) (ih plain.2)
        · exact congrArg (']' :: ·) (ih plain.2)
      · rw [List.singleton_append, unescape.eq_3, ih plain.2]
        exact fun _ _ same _ => plain.1 same.symm

private theorem notMem_shielded {address : Text} (plain : '\\' ∉ address) :
    '\\' ∉ shielded address := by
  intro member
  obtain ⟨c, within, written⟩ := List.mem_flatMap.mp member
  split at written
  · exact absurd written (by decide)
  · split at written
    · exact absurd written (by decide)
    · rw [List.mem_singleton] at written
      exact plain (written ▸ within)

/-- A written link is read back, with its label and destination ending where they were written,
exactly when backslashes come in pairs before closing brackets and at the end of the label, and at
the end of the address, and the address holds no line break. Without backslashes the escapes stand
for the label, and for the address with its angle brackets as percent codes. -/
theorem read?_ofText_iff (label address rest : Text) :
    (read? (ofText label address ++ rest) =
        some ⟨escapeLabel label, shielded address, rest⟩ ↔
      PairsBackslashes label ∧ finalBackslashes address % 2 = 0 ∧
        ∀ c ∈ address, isLineBreak c = false) ∧
      ('\\' ∉ label → unescape (escapeLabel label) = label) ∧
      ('\\' ∉ address → unescape (shielded address) = shielded address) := by
  refine ⟨?_, unescape_escapeLabel, fun plain => unescape_of_notMem (notMem_shielded plain)⟩
  rw [← readTo?_escapeLabel_iff label ('(' :: destination address ++ ')' :: rest),
    ← readDestination?_eq_iff address rest]
  have written : ofText label address ++ rest =
      '[' :: (escapeLabel label ++ ']' :: ('(' :: destination address ++ ')' :: rest)) := by
    simp [ofText, ending]
  rw [written, read?]
  constructor
  · intro read
    obtain ⟨⟨found, behind⟩, labelRead, read⟩ := Option.bind_eq_some_iff.mp read
    obtain ⟨same, target, opened, targetRead⟩ := readBehind?_eq_some read
    subst same opened
    have whole := List.append_cancel_left (append_of_readTo? labelRead)
    injection whole with _ whole
    injection whole with _ whole
    subst whole
    exact ⟨labelRead, targetRead⟩
  · rintro ⟨labelRead, targetRead⟩
    rw [labelRead]
    change (readDestination? (destination address ++ ')' :: rest)).bind _ = _
    rw [targetRead]
    rfl

/-- A backslash at the end of a label escapes the bracket that is to close it, and no link is
read. -/
theorem read?_ofText_backslash :
    ofText "x\\".toList "a.png".toList = "[x\\](a.png)".toList ∧
      read? (ofText "x\\".toList "a.png".toList) = none := by
  decide +kernel

end Link
end ArticleMarkdown
