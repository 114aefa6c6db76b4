import ArticleMarkdown.Proofs.Markdown.Leaves

/-!
# Sources of formulas

The source of a formula is what the first half shows beyond the second (`Formula.source_of_halves`).
Where the halves disagree, it is a longest piece of the first half. Which pieces a text has is said
by `Formula.Parted`, without the reader's buffer: the text is cut at its long runs of whitespace,
each of them taken whole, and there is one such way to cut it (`Formula.parted_iff`).
-/

namespace ArticleMarkdown.Formula

open Text

/-- A run of whitespace that separates pieces. -/
def IsGap (gap : Text) : Prop :=
  10 ≤ gap.length ∧ isBlank gap = true

/-- No run of whitespace in the text separates pieces. -/
def Unparted (t : Text) : Prop :=
  ∀ gap, IsGap gap → ¬ gap <:+: t

/-- The text is cut into pieces at its long runs of whitespace, each taken whole. -/
inductive Parted : Text → List Text → Prop
  | whole {piece : Text} (unparted : Unparted piece) : Parted piece [piece]
  | cut {piece gap rest : Text} {pieces : List Text} (unparted : Unparted piece)
      (closes : ∀ c ∈ piece.getLast?, isSpace c = false) (isGap : IsGap gap)
      (opens : ∀ c ∈ rest.head?, isSpace c = false) (parted : Parted rest pieces) :
      Parted (piece ++ gap ++ rest) (piece :: pieces)

section Pieces

variable {held piece gap rest s t : Text} {parts : List Text} {c : Char}

private theorem Unparted.within (unparted : Unparted t) (within : s <:+: t) : Unparted s :=
  fun gap isGap held => unparted gap isGap (held.trans within)

/-- A character that is no whitespace keeps long runs of whitespace apart. -/
theorem unparted_append_cons (solid : isSpace c = false) :
    Unparted (s ++ c :: t) ↔ Unparted s ∧ Unparted t := by
  constructor
  · intro unparted
    exact ⟨unparted.within (List.prefix_append _ _).isInfix,
      unparted.within ((List.suffix_cons c t).trans (List.suffix_append _ _)).isInfix⟩
  · rintro ⟨before, after⟩ gap isGap held
    have outside : c ∉ gap := fun member => by
      have space := List.all_eq_true.mp isGap.2 c member
      rw [solid] at space
      cases space
    exact (infix_across_foreign outside held).elim (before gap isGap) (after gap isGap)

private theorem closes_append_cons (solid : isSpace c = false) :
    (∀ d ∈ (s ++ c :: t).getLast?, isSpace d = false) ↔
      ∀ d ∈ t.getLast?, isSpace d = false := by
  rw [List.getLast?_append_of_ne_nil _ (List.cons_ne_nil _ _), List.getLast?_cons]
  cases t.getLast? <;> simp [solid]

private theorem unparted_of_short (short : held.length < 10) : Unparted held :=
  fun _ isGap within => absurd (isGap.1.trans within.length_le) (Nat.not_le.mpr short)

private theorem short_of_unparted (blank : isBlank held = true) (unparted : Unparted held) :
    held.length < 10 :=
  Nat.not_le.mp fun long => unparted held ⟨long, blank⟩ (List.infix_refl held)

private theorem isBlank_concat (blank : isBlank held = true) (space : isSpace c = true) :
    isBlank (held ++ [c]) = true := by
  rw [isBlank_append, blank, Bool.true_and, isBlank, List.all_cons, space]
  rfl

private theorem piecesFrom_opens (solid : isSpace c = false)
    (below : piecesFrom [] rest = piece :: parts)
    (held : Text) : piecesFrom held (c :: rest) =
      if held.length ≥ 10 then [] :: (c :: piece) :: parts
      else (held ++ c :: piece) :: parts := by
  rw [piecesFrom, if_neg (by rw [solid]; exact Bool.false_ne_true), below]
  rfl

/-- A text that starts with a character that is no whitespace grows at its first piece. -/
theorem Parted.cons_solid (parted : Parted t (piece :: parts)) (solid : isSpace c = false)
    (short : held.length < 10) : Parted (held ++ c :: t) ((held ++ c :: piece) :: parts) := by
  have before := unparted_of_short short
  cases parted with
  | whole unparted => exact .whole ((unparted_append_cons solid).mpr ⟨before, unparted⟩)
  | @cut _ gap rest _ unparted closes isGap opens parted =>
      have whole : held ++ c :: (piece ++ gap ++ rest) = (held ++ c :: piece) ++ gap ++ rest := by
        simp only [List.append_assoc, List.cons_append]
      rw [whole]
      exact .cut ((unparted_append_cons solid).mpr ⟨before, unparted⟩)
        ((closes_append_cons solid).mpr closes) isGap opens parted

private theorem Parted.exists_cons (parted : Parted t parts) :
    ∃ piece rest, parts = piece :: rest := by
  cases parted <;> exact ⟨_, _, rfl⟩

private theorem Parted.behind_gap (parted : Parted rest parts) (isGap : IsGap gap)
    (opens : ∀ c ∈ rest.head?, isSpace c = false) : Parted (gap ++ rest) ([] :: parts) := by
  have nothing : Unparted [] := unparted_of_short (by decide)
  exact .cut nothing nofun isGap opens parted

/-- The reader cuts the text, the whitespace it holds included. -/
theorem parted_piecesFrom (t : Text) :
    ∀ held, isBlank held = true → Parted (held ++ t) (piecesFrom held t) := by
  induction t with
  | nil =>
      intro held blank
      rw [piecesFrom, List.append_nil]
      split
      · next long =>
        have nothing : Parted [] [[]] := .whole (unparted_of_short (by decide))
        have opens : ∀ c ∈ ([] : Text).head?, isSpace c = false := fun c first => by cases first
        have cut := nothing.behind_gap ⟨long, blank⟩ opens
        rwa [List.append_nil] at cut
      · next short => exact .whole (unparted_of_short (Nat.not_le.mp short))
  | cons c rest ih =>
      intro held blank
      cases space : isSpace c with
      | true =>
          rw [piecesFrom_space space, List.append_cons]
          exact ih _ (isBlank_concat blank space)
      | false =>
          have below := ih [] rfl
          obtain ⟨piece, parts, split⟩ := below.exists_cons
          rw [split] at below
          rw [piecesFrom_opens space split]
          split
          · next long =>
            have opened : Parted ([] ++ c :: rest) (([] ++ c :: piece) :: parts) :=
              below.cons_solid space (by decide)
            refine opened.behind_gap ⟨long, blank⟩ ?_
            rintro d ⟨⟩
            exact space
          · next short => exact below.cons_solid space (Nat.not_le.mp short)

private theorem piecesFrom_unparted (piece : Text) :
    ∀ held, isBlank held = true → Unparted (held ++ piece) →
      piecesFrom held piece = [held ++ piece] := by
  induction piece with
  | nil =>
      intro held blank unparted
      rw [List.append_nil] at unparted ⊢
      exact if_neg (Nat.not_le.mpr (short_of_unparted blank unparted))
  | cons c rest ih =>
      intro held blank unparted
      cases space : isSpace c with
      | true =>
          rw [List.append_cons] at unparted ⊢
          rw [piecesFrom_space space]
          exact ih _ (isBlank_concat blank space) unparted
      | false =>
          obtain ⟨before, after⟩ := (unparted_append_cons space).mp unparted
          rw [piecesFrom_opens space (ih [] rfl after),
            if_neg (Nat.not_le.mpr (short_of_unparted blank before))]
          rfl

private theorem piecesFrom_gap (isGap : IsGap gap) (opens : ∀ c ∈ rest.head?, isSpace c = false) :
    piecesFrom gap rest = [] :: piecesFrom [] rest := by
  cases rest with
  | nil => exact if_pos isGap.1
  | cons c rest =>
      have solid := opens c rfl
      obtain ⟨piece, parts, split⟩ := (parted_piecesFrom rest [] rfl).exists_cons
      rw [piecesFrom_opens solid split, piecesFrom_opens solid split, if_pos isGap.1]
      rfl

private theorem piecesFrom_blank_append (blank : isBlank gap = true) (held rest : Text) :
    piecesFrom held (gap ++ rest) = piecesFrom (held ++ gap) rest := by
  induction gap generalizing held with
  | nil => rw [List.append_nil]; rfl
  | cons c more ih =>
      obtain ⟨space, below⟩ := Bool.and_eq_true_iff.mp blank
      rw [List.cons_append, piecesFrom_space space, ih below, List.append_assoc]
      rfl

private theorem piecesFrom_cut (isGap : IsGap gap) (opens : ∀ c ∈ rest.head?, isSpace c = false)
    (piece : Text) :
    ∀ held, isBlank held = true → Unparted (held ++ piece) →
      (∀ c ∈ (held ++ piece).getLast?, isSpace c = false) →
        piecesFrom held (piece ++ gap ++ rest) = (held ++ piece) :: piecesFrom [] rest := by
  induction piece with
  | nil =>
      intro held blank unparted closes
      have nothing : held = [] := by
        rcases List.eq_nil_or_concat' held with nothing | ⟨before, c, rfl⟩
        · exact nothing
        · rw [List.append_nil] at closes
          have space := List.all_eq_true.mp blank c (by simp)
          rw [closes c List.getLast?_concat] at space
          cases space
      rw [nothing, List.nil_append, List.nil_append, piecesFrom_blank_append isGap.2]
      exact piecesFrom_gap isGap opens
  | cons c more ih =>
      intro held blank unparted closes
      cases space : isSpace c with
      | true =>
          rw [List.append_cons] at unparted closes ⊢
          rw [List.cons_append, List.cons_append, piecesFrom_space space]
          exact ih _ (isBlank_concat blank space) unparted closes
      | false =>
          obtain ⟨before, after⟩ := (unparted_append_cons space).mp unparted
          have ends := (closes_append_cons space).mp closes
          rw [List.cons_append, List.cons_append, piecesFrom_opens space (ih [] rfl after ends),
            if_neg (Nat.not_le.mpr (short_of_unparted blank before))]
          rfl

/-- There is one way to cut a text at its long runs of whitespace. -/
theorem parted_iff : Parted t parts ↔ parts = pieces t := by
  constructor
  · intro parted
    induction parted with
    | @whole piece unparted => exact (piecesFrom_unparted piece [] rfl unparted).symm
    | @cut piece gap rest parts unparted closes isGap opens parted ih =>
        rw [pieces, piecesFrom_cut isGap opens piece [] rfl unparted closes, ih]
        rfl
  · rintro rfl
    exact parted_piecesFrom t [] rfl

private theorem Parted.unparted (parted : Parted t parts) : ∀ piece ∈ parts, Unparted piece := by
  induction parted with
  | whole unparted => exact List.forall_mem_singleton.mpr unparted
  | cut unparted _ _ _ _ ih => exact List.forall_mem_cons.mpr ⟨unparted, ih⟩

/-- A text shows something only in its pieces. -/
theorem Parted.isBlank (parted : Parted t parts)
    (blank : ∀ piece ∈ parts, Text.isBlank piece = true) : Text.isBlank t = true := by
  induction parted with
  | whole => exact blank _ List.mem_cons_self
  | cut _ _ isGap _ _ ih =>
      rw [List.forall_mem_cons] at blank
      rw [isBlank_append, isBlank_append, blank.1, isGap.2, ih blank.2]
      rfl

end Pieces

section Longest

variable {texts : List Text} {t : Text}

/-- The text kept by the search for the longest one is at least as long as all texts met so far. -/
theorem length_le_foldl_longest (texts : List Text) : ∀ best, ∀ t ∈ best :: texts, t.length ≤
    (texts.foldl (fun best t => if best.length ≤ t.length then t else best) best).length := by
  induction texts with
  | nil =>
      intro best t member
      rw [List.mem_singleton.mp member]
      rfl
  | cons next rest ih =>
      intro best t member
      have below := ih (if best.length ≤ next.length then next else best)
      have kept := below _ List.mem_cons_self
      rw [List.foldl_cons]
      rcases List.mem_cons.mp member with rfl | member
      · refine le_trans ?_ kept
        split <;> omega
      · rcases List.mem_cons.mp member with rfl | later
        · refine le_trans ?_ kept
          split <;> omega
        · exact below t (List.mem_cons_of_mem _ later)

private theorem length_le_lastLongest (member : t ∈ texts) :
    t.length ≤ (lastLongest texts).length :=
  length_le_foldl_longest texts [] t (List.mem_cons_of_mem _ member)

private theorem lastLongest_mem_of_ne_nil (filled : texts ≠ []) : lastLongest texts ∈ texts := by
  rcases List.mem_cons.mp (lastLongest_mem texts) with nothing | member
  · obtain ⟨t, rest, rfl⟩ := List.exists_cons_of_ne_nil filled
    have short := length_le_lastLongest (List.mem_cons_self : t ∈ t :: rest)
    rw [nothing, List.length_nil, Nat.le_zero, List.length_eq_zero_iff] at short
    rw [nothing, short]
    exact List.mem_cons_self
  · exact member

end Longest

section Source

variable {first second : Text}

private theorem stripInvisible_insert {hidden : Text} (unseen : hidden.all isInvisible = true)
    (before after : Text) :
    stripInvisible (before ++ hidden ++ after) = stripInvisible (before ++ after) := by
  have gone : stripInvisible hidden = [] := by
    rw [stripInvisible, List.filter_eq_nil_iff]
    intro c member
    rw [List.all_eq_true.mp unseen c member]
    exact Bool.false_ne_true
  simp only [stripInvisible, List.filter_append] at gone ⊢
  rw [gone, List.append_nil]

private theorem source_eq_rest {rest : Text}
    (split : stripInvisible first = stripInvisible second ++ rest)
    (shown : isBlank rest = false) : source first second = trim rest := by
  have filled : trim rest ≠ [] := by
    rw [Ne, trim_eq_nil, shown]
    exact Bool.false_ne_true
  simp only [source, dropPrefix?_eq_some_iff.mpr split, Option.getD_some]
  rw [if_neg (mt List.isEmpty_iff.mp filled)]

private theorem source_eq_longest (disagree : ∀ rest,
      stripInvisible first = stripInvisible second ++ rest → isBlank rest = true) :
    source first second = lastLongest ((pieces (stripInvisible first)).map trim) := by
  have nothing : trim ((dropPrefix? (stripInvisible second) (stripInvisible first)).getD []) =
      [] := by
    rw [trim_eq_nil]
    cases dropped : dropPrefix? (stripInvisible second) (stripInvisible first) with
    | none => rfl
    | some rest => exact disagree rest (append_of_dropPrefix? dropped)
  rw [source]
  exact if_pos (List.isEmpty_iff.mpr nothing)

/-- Of the pieces the longest one is taken, and none of its whitespace separates pieces. Only of a
text that shows nothing it is empty. -/
theorem lastLongest_of_parted {t : Text} {parts : List Text} (parted : Parted t parts) :
    lastLongest (parts.map trim) ∈ parts.map trim ∧ Unparted (lastLongest (parts.map trim)) ∧
      (lastLongest (parts.map trim) = [] → isBlank t = true) := by
  obtain ⟨piece, others, split⟩ := parted.exists_cons
  have filled : parts.map trim ≠ [] := by
    rw [split]
    exact List.cons_ne_nil _ _
  have member := lastLongest_mem_of_ne_nil filled
  refine ⟨member, ?_, fun nothing => parted.isBlank fun part within => ?_⟩
  · obtain ⟨part, within, trimmed⟩ := List.mem_map.mp member
    rw [← trimmed]
    exact (parted.unparted part within).within (infix_trim part)
  · have short : (trim part).length ≤ (lastLongest (parts.map trim)).length :=
      length_le_lastLongest (List.mem_map_of_mem within)
    rw [nothing, List.length_nil, Nat.le_zero, List.length_eq_zero_iff] at short
    exact trim_eq_nil.mp short

/-- The source of a formula does not depend on invisible characters. It is what the first half has
beyond the second, if that shows something. Otherwise it is a longest piece of the first half
between long runs of whitespace, and empty only if that half shows nothing. -/
theorem source_of_halves (first second : Text) :
    (∀ before hidden after, hidden.all isInvisible = true →
      source (before ++ hidden ++ after) second = source (before ++ after) second ∧
        source first (before ++ hidden ++ after) = source first (before ++ after)) ∧
    (∀ rest, stripInvisible first = stripInvisible second ++ rest → isBlank rest = false →
      source first second = trim rest) ∧
    ((∀ rest, stripInvisible first = stripInvisible second ++ rest → isBlank rest = true) →
      ∃ parts, Parted (stripInvisible first) parts ∧
        source first second ∈ parts.map trim ∧
        Unparted (source first second) ∧
        (∀ part ∈ parts, (trim part).length ≤ (source first second).length) ∧
        (source first second = [] → isBlank (stripInvisible first) = true)) := by
  refine ⟨fun before hidden after unseen => ?_, fun rest => source_eq_rest, fun disagree => ?_⟩
  · simp only [source, stripInvisible_insert unseen, and_self]
  · have parted := parted_iff.mpr (rfl : pieces (stripInvisible first) = _)
    obtain ⟨member, unparted, nothing⟩ := lastLongest_of_parted parted
    rw [source_eq_longest disagree]
    exact ⟨_, parted, member, unparted,
      fun part within => length_le_lastLongest (List.mem_map_of_mem within), nothing⟩

/-- The halves of a rendered power, whose symbols are in another order, and long runs of whitespace
around the source. -/
def reordered : Text × Text :=
  ("x2 \n \n \n \n \n \nx^2 +\u200b y_1\n\n\n\n\n\n\n\n\n\n\n\ny".toList, "yx2".toList)

/-- A formula that is doubled in another order is found, with or without characters that show
nothing. -/
theorem source_of_halves_reordered :
    "\u200b\u00ad".toList.all isInvisible = true ∧
      source ("a".toList ++ "\u200b\u00ad".toList ++ "bE=mc^2".toList) "ab".toList =
        "E=mc^2".toList ∧
      (∀ rest, stripInvisible reordered.1 = stripInvisible reordered.2 ++ rest →
        isBlank rest = true) ∧
      source reordered.1 reordered.2 = "x^2 + y_1".toList ∧
      Unparted (source reordered.1 reordered.2) := by
  have unseen : "\u200b\u00ad".toList.all isInvisible = true := by decide
  have inserted := (source_of_halves [] "ab".toList).1 "a".toList _ "bE=mc^2".toList unseen
  have plain := (source_of_halves "abE=mc^2".toList "ab".toList).2.1 "E=mc^2".toList rfl rfl
  have disagree : ∀ rest, stripInvisible reordered.1 = stripInvisible reordered.2 ++ rest →
      isBlank rest = true := by
    intro rest split
    have apart : dropPrefix? (stripInvisible reordered.2) (stripInvisible reordered.1) = none := rfl
    rw [dropPrefix?_eq_some_iff.mpr split] at apart
    cases apart
  obtain ⟨parts, -, -, unparted, -⟩ := (source_of_halves reordered.1 reordered.2).2.2 disagree
  exact ⟨unseen, inserted.1.trans plain, disagree, by decide +kernel, unparted⟩

end Source
end ArticleMarkdown.Formula
