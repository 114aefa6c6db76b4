import ArticleMarkdown.Proofs.Text.CodeRange
import ArticleMarkdown.Url.Domain

/-!
# What the tables of domains have in common

The characters that others are folded to, and those that are composed of others and their parts,
stand for themselves (`isPlain_of_fold?`, `Composed.Sound`). No character is taken apart more than
twice, and no mark is taken apart.
-/

namespace ArticleMarkdown

open Text

namespace Url.Domain

open CodeRange

variable {plain : List Text}

/-! ## Characters that stand for themselves -/

/-- Whether all characters from one to another stand for themselves, read off the search tree of
those beyond ASCII. -/
def isPlainSpan (tree : Tree) (first last : Nat) : Bool :=
  Nat.ble last 0x40 || (Nat.ble 0x5B first && Nat.ble last 0x7F) ||
    (Nat.ble 0x80 first && tree.holds first last)

/-- The search tree of the characters beyond ASCII that stand for themselves. -/
def plainTree (lines : List Text) : Tree :=
  (Tree.build 11 (readLines lines)).1

private theorem isPlain_of_span (spells : Spells plainLines plain) {first last code : Nat}
    (span : isPlainSpan (plainTree plain) first last = true) (inside : first ≤ code ∧ code ≤ last) :
    isPlain code = true := by
  rw [isPlain]
  simp only [isPlainSpan, Bool.or_eq_true, Bool.and_eq_true, Nat.ble_eq] at span
  rcases span with (below | above) | beyond
  · rw [if_pos (by omega)]
    simp only [Bool.not_eq_true', Bool.and_eq_false_iff, decide_eq_false_iff_not]
    omega
  · rw [if_pos (by omega)]
    simp only [Bool.not_eq_true', Bool.and_eq_false_iff, decide_eq_false_iff_not]
    omega
  · rw [if_neg (by omega), anyHolds, List.any_eq_true]
    obtain ⟨range, member, within⟩ := Tree.exists_of_holds beyond.2
    have listed : range ∈ plainRanges := by
      rw [plainRanges, readAll_of_spells spells, ← Tree.toList_build 11 (readLines plain)]
      exact List.mem_append_left _ member
    refine ⟨range, listed, ?_⟩
    rw [CodeRange.holds, Bool.and_eq_true, decide_eq_true_eq, decide_eq_true_eq]
    omega

private theorem plain_valid : ∃ plain, Spells plainLines plain ∧
    ((readLines plain).all fun range =>
      Nat.blt range.last 0xD800 || (Nat.blt 0xDFFF range.first && Nat.blt range.last 0x110000)) =
        true := by
  apply Exists.intro
  apply And.intro
  · repeat apply Spells.cons
    exact Spells.nil
  · decide +kernel

/-- The codes of plain characters are codes of characters. -/
theorem isValidChar_of_isPlain {code : Nat} (plain : isPlain code = true) : code.isValidChar := by
  obtain ⟨lines, spells, checked⟩ := plain_valid
  rw [isPlain] at plain
  split at plain
  · exact .inl (by omega)
  · obtain ⟨range, member, inside⟩ := List.any_eq_true.mp plain
    rw [plainRanges, readAll_of_spells spells] at member
    have valid := List.all_eq_true.mp checked range member
    simp only [CodeRange.holds, Bool.or_eq_true, Bool.and_eq_true, Nat.blt_eq,
      decide_eq_true_eq] at inside valid
    rcases valid with low | high
    · exact .inl (by omega)
    · exact .inr ⟨by omega, by omega⟩

/-! ## Folding -/

/-- Whether a run folds to characters that stand for themselves. -/
def Folding.endsPlain (tree : Tree) (f : Folding) : Bool :=
  f.target.all fun t =>
    bif f.shifts then
      bif Nat.beq f.step 1 then isPlainSpan tree t (t + (f.last - f.first))
      else (List.range (f.last - f.first + 1)).all fun i =>
        !Nat.beq (i % f.step) 0 || isPlainSpan tree (t + i) (t + i)
    else isPlainSpan tree t t

/-- Lines whose runs fold to characters that stand for themselves. -/
def Folding.EndPlain (strings : List String) : Prop :=
  ∃ plain, Spells plainLines plain ∧ ∃ lines, Spells strings lines ∧
    (lines.all fun line => (splitOn ' ' line).all fun entry =>
      (Folding.read entry).endsPlain (plainTree plain)) = true

/-- The table is checked in parts, which take less memory one after another. -/
theorem foldings_endPlain :
    ∀ part < 5, Folding.EndPlain ((Folding.lines.drop (100 * part)).take 100)
  | 0, _ | 1, _ | 2, _ | 3, _ | 4, _ => by
      apply Exists.intro
      apply And.intro
      · repeat apply Spells.cons
        exact Spells.nil
      · apply Exists.intro
        apply And.intro
        · repeat apply Spells.cons
          exact Spells.nil
        · decide +kernel

private theorem isPlain_of_target? {f : Folding} (listed : f ∈ Folding.all) {code : Nat}
    {target : List Nat}
    (folded : f.target? code = some target) : ∀ c ∈ target, isPlain c = true := by
  obtain ⟨string, within, inside⟩ := List.mem_flatMap.mp listed
  obtain ⟨part, small, within⟩ := exists_mem_part 100 5 (by decide) within (by decide +kernel)
  obtain ⟨plain, spells, lines, spells', checked⟩ := foldings_endPlain part small
  obtain ⟨entry, member, rfl⟩ := List.mem_map.mp inside
  have known : string.toList ∈ lines := spells'.map_toList ▸ List.mem_map_of_mem within
  have ends := List.all_eq_true.mp (List.all_eq_true.mp checked _ known) entry member
  unfold Folding.target? at folded
  split at folded
  · next held =>
    simp only [Bool.and_eq_true, decide_eq_true_eq, beq_iff_eq] at held
    cases folded
    have each := List.all_eq_true.mp ends
    split
    · next shifts =>
      refine List.forall_mem_map.mpr fun t inTarget => ?_
      have own := each t inTarget
      rw [shifts, cond_true] at own
      cases single : Nat.beq (Folding.read entry).step 1 with
      | true =>
          rw [single, cond_true] at own
          exact isPlain_of_span spells own (by omega)
      | false =>
          rw [single, cond_false] at own
          have step := List.all_eq_true.mp own (code - (Folding.read entry).first)
            (List.mem_range.mpr (by omega))
          rw [held.2] at step
          exact isPlain_of_span spells step ⟨Nat.le_refl _, Nat.le_refl _⟩
    · next shifts =>
      intro t inTarget
      have own := each t inTarget
      rw [Bool.eq_false_iff.mpr shifts, cond_false] at own
      exact isPlain_of_span spells own ⟨Nat.le_refl _, Nat.le_refl _⟩
  · cases folded

/-- What a character is folded to stands for itself. -/
theorem isPlain_of_fold? {code : Nat} {folded : List Nat} (found : fold? code = some folded) :
    ∀ c ∈ folded, isPlain c = true := by
  unfold fold? at found
  split at found
  · next ascii =>
    cases found
    rw [List.forall_mem_singleton]
    split
    · next upper =>
      rw [Bool.and_eq_true, decide_eq_true_eq, decide_eq_true_eq] at upper
      rw [isPlain, if_pos (by omega)]
      simp only [Bool.not_eq_true', Bool.and_eq_false_iff, decide_eq_false_iff_not]
      omega
    · next lower =>
      rw [isPlain, if_pos ascii, Bool.eq_false_iff.mpr lower]
      rfl
  · split at found
    · next target run =>
      cases found
      obtain ⟨f, listed, own⟩ := List.exists_of_findSome?_eq_some run
      exact isPlain_of_target? listed own
    · split at found
      · next plain =>
        cases found
        exact List.forall_mem_singleton.mpr plain
      · cases found

/-! ## Composed characters -/

/-- Whether a character may be a syllable of Hangul or a part of one. -/
def isHangul (code : Nat) : Bool :=
  (Nat.ble 0x1100 code && Nat.blt code 0x1200) || (Nat.ble 0xAC00 code && Nat.blt code 0xD7A4)

/-- Composed characters as ranges of one code point each. -/
def points (entries : List Composed) : List CodeRange :=
  entries.map fun c => ⟨c.code, c.code⟩

/-- Composed characters of lines given as lists of characters. -/
def entries (lines : List Text) : List Composed :=
  lines.flatMap fun line => (splitOn ' ' line).map Composed.read

/-- Composed characters whose first part is composed, too. -/
def deepEntries (entries : List Composed) : List Composed :=
  let known := (Tree.build 10 (points entries)).1
  entries.filter fun c => known.holds c.base c.base

/-- What is checked of each composed character. -/
def Composed.isSound (known deep plain : Tree) (marks : List Tree) (c : Composed) : Bool :=
  Nat.ble 0xC0 c.code && Nat.ble 0x3C c.base && Nat.ble 0x300 c.mark && !isHangul c.code &&
    !isHangul c.mark && !known.holds c.mark c.mark && !deep.holds c.base c.base &&
    (Nat.blt c.base 0x300 || !marks.any fun tree => tree.holds c.base c.base) &&
    isPlainSpan plain c.code c.code && isPlainSpan plain c.base c.base &&
    isPlainSpan plain c.mark c.mark

/-- The syllables of Hangul, and their leading consonants, vowels and trailing consonants. -/
def hangulSpans : List (Nat × Nat) :=
  [(0xAC00, 0xD7A3), (0x1100, 0x1112), (0x1161, 0x1175), (0x11A8, 0x11C2)]

/-- Whether a range holds neither a leading consonant nor a syllable of Hangul. -/
def isApartFromHangul (range : CodeRange) : Bool :=
  Nat.blt range.last 0x1100 || (Nat.blt 0x1112 range.first && Nat.blt range.last 0xAC00) ||
    Nat.blt 0xD7A3 range.first

private theorem composed_inOrder :
    ∃ plain, Spells plainLines plain ∧ ∃ lines, Spells composedLines lines ∧
    ∃ marks, SpellsEach markLines marks ∧
      (hangulSpans.all (fun (first, last) => isPlainSpan (plainTree plain) first last) &&
        isSorted (points (entries lines)) && (Tree.build 10 (points (entries lines))).2.isEmpty &&
        (Tree.build 7 (points (deepEntries (entries lines)))).2.isEmpty &&
        (marks.all fun (_, lines) =>
          isSorted (readLines lines) && (Tree.build 9 (readLines lines)).2.isEmpty) &&
        (marks.all fun (_, lines) => (readLines lines).all isApartFromHangul)) = true := by
  apply Exists.intro
  apply And.intro
  · repeat apply Spells.cons
    exact Spells.nil
  · apply Exists.intro
    apply And.intro
    · repeat apply Spells.cons
      exact Spells.nil
    · apply Exists.intro
      apply And.intro
      · repeat
          apply SpellsEach.cons
          · repeat apply Spells.cons
            exact Spells.nil
        exact SpellsEach.nil
      · decide +kernel

/-- Lines whose composed characters are sound. -/
def Composed.AllSound (strings : List String) : Prop :=
  ∃ plain, Spells plainLines plain ∧ ∃ lines, Spells composedLines lines ∧
    ∃ marks, SpellsEach markLines marks ∧ ∃ own, Spells strings own ∧
      ((entries own).all (Composed.isSound (Tree.build 10 (points (entries lines))).1
        (Tree.build 7 (points (deepEntries (entries lines)))).1 (plainTree plain)
        (marks.map fun (_, lines) => (Tree.build 9 (readLines lines)).1))) = true

/-- This table, too, is checked in parts. -/
theorem composed_allSound :
    ∀ part < 2, Composed.AllSound ((composedLines.drop (40 * part)).take 40)
  | 0, _ | 1, _ => by
      apply Exists.intro
      apply And.intro
      · repeat apply Spells.cons
        exact Spells.nil
      · apply Exists.intro
        apply And.intro
        · repeat apply Spells.cons
          exact Spells.nil
        · apply Exists.intro
          apply And.intro
          · repeat
              apply SpellsEach.cons
              · repeat apply Spells.cons
                exact Spells.nil
            exact SpellsEach.nil
          · apply Exists.intro
            apply And.intro
            · repeat apply Spells.cons
              exact Spells.nil
            · decide +kernel

/-- What holds of each composed character: its parts stand for themselves, its mark is not taken
apart, and its first part has no class and is taken apart once at most. -/
structure Composed.Sound (c : Composed) : Prop where
  large : 0xC0 ≤ c.code
  low : 0x3C ≤ c.base
  foreign : isHangul c.code = false
  high : 0x300 ≤ c.mark
  whole : isHangul c.mark = false ∧ ∀ d ∈ composed, d.code ≠ c.mark
  shallow : ∀ d ∈ composed, d.code = c.base → ∀ e ∈ composed, e.code ≠ d.base
  start : markClass c.base = 0
  plain : isPlain c.code = true ∧ isPlain c.base = true ∧ isPlain c.mark = true

private theorem entries_of_spells {lines : List Text} (spells : Spells composedLines lines) :
    composed = entries lines := by
  rw [entries, ← spells.map_toList, List.flatMap_map]
  rfl

/-- The tree of the codes of composed characters finds each of them. -/
theorem holds_points {depth : Nat} {list : List Composed} (sorted : (points list).Pairwise Before)
    (whole : (Tree.build depth (points list)).2.isEmpty = true) (code : Nat) :
    (Tree.build depth (points list)).1.holds code code = true ↔ ∃ c ∈ list, c.code = code := by
  rw [Tree.holds_eq_anyHolds sorted whole, anyHolds, List.any_eq_true]
  constructor
  · rintro ⟨range, member, inside⟩
    obtain ⟨c, listed, rfl⟩ := List.mem_map.mp member
    simp only [CodeRange.holds, Bool.and_eq_true, decide_eq_true_eq] at inside
    exact ⟨c, listed, by omega⟩
  · rintro ⟨c, listed, rfl⟩
    exact ⟨_, List.mem_map_of_mem listed, by simp [CodeRange.holds]⟩

private theorem markClass_eq_zero {marks : List (Nat × List Text)}
    (spells : SpellsEach markLines marks)
    (sorted : ∀ lines ∈ marks, isSorted (readLines lines.2) = true ∧
      (Tree.build 9 (readLines lines.2)).2.isEmpty = true) {code : Nat}
    (absent : ∀ lines ∈ marks, (Tree.build 9 (readLines lines.2)).1.holds code code = false) :
    markClass code = 0 := by
  rw [markClass, markClasses, map_readAll_of_spellsEach spells, List.find?_eq_none.mpr]
  · split <;> rfl
  · refine List.forall_mem_map.mpr fun lines member => ?_
    obtain ⟨proper, whole⟩ := sorted lines member
    have missing := absent lines member
    rw [Tree.holds_eq_anyHolds (pairwise_of_isSorted proper).1 whole] at missing
    exact Bool.eq_false_iff.mp missing

/-- Each composed character is in one of the parts that are checked. -/
theorem isSound_of_mem {lines : List Text} (spells : Spells composedLines lines)
    {marks : List (Nat × List Text)} (spells' : SpellsEach markLines marks) {c : Composed}
    (member : c ∈ composed) :
    ∃ plain, Spells plainLines plain ∧
      Composed.isSound (Tree.build 10 (points (entries lines))).1
        (Tree.build 7 (points (deepEntries (entries lines)))).1 (plainTree plain)
        (marks.map fun (_, lines) => (Tree.build 9 (readLines lines)).1) c = true := by
  obtain ⟨string, within, inside⟩ := List.mem_flatMap.mp member
  obtain ⟨part, small, within⟩ := exists_mem_part 40 2 (by decide) within (by decide +kernel)
  obtain ⟨plain, plainSpells, lines', again, marks', again', own, ownSpells, checked⟩ :=
    composed_allSound part small
  have sameLines : lines' = lines := again.map_toList.symm.trans spells.map_toList
  have sameMarks : marks' = marks := again'.map_toList.symm.trans spells'.map_toList
  rw [sameLines, sameMarks] at checked
  have known : string.toList ∈ own := ownSpells.map_toList ▸ List.mem_map_of_mem within
  exact ⟨plain, plainSpells, List.all_eq_true.mp checked c
    (List.mem_flatMap.mpr ⟨_, known, inside⟩)⟩

/-- The codes of composed characters are all different, and each composed character is sound. -/
theorem composed_sound :
    (composed.map (·.code)).Pairwise (· < ·) ∧ ∀ c ∈ composed, c.Sound := by
  obtain ⟨_, -, lines, spells', marks, spells'', checked⟩ := composed_inOrder
  rw [Bool.and_eq_true, Bool.and_eq_true, Bool.and_eq_true, Bool.and_eq_true, Bool.and_eq_true,
    List.all_eq_true, List.all_eq_true, List.all_eq_true] at checked
  obtain ⟨⟨⟨⟨⟨-, inOrder⟩, whole⟩, whole'⟩, classes⟩, -⟩ := checked
  have sorted := (pairwise_of_isSorted inOrder).1
  have listed := entries_of_spells spells'
  rw [← listed] at sorted whole whole'
  refine ⟨?_, fun c member => ?_⟩
  · rw [points, List.pairwise_map] at sorted
    exact List.pairwise_map.mpr (sorted.imp fun before => before.2)
  · obtain ⟨plain, spells, sound⟩ := isSound_of_mem spells' spells'' member
    rw [← listed] at sound
    simp only [Composed.isSound, Bool.and_eq_true, Bool.not_eq_true', Nat.ble_eq,
      Bool.or_eq_true] at sound
    obtain ⟨⟨⟨⟨⟨⟨⟨⟨⟨⟨large, low⟩, high⟩, foreign⟩, foreign'⟩, last⟩, shallow⟩, start⟩, code⟩, base⟩,
      mark⟩ := sound
    have known := holds_points sorted whole
    refine ⟨large, low, foreign, high, ⟨foreign', fun d within same => ?_⟩, ?_, ?_, ?_⟩
    · exact absurd ((known c.mark).mpr ⟨d, within, same⟩) (Bool.eq_false_iff.mp last)
    · intro d within same e within' same'
      -- A first part that is taken apart twice would be in the tree of those.
      have isDeep : d ∈ deepEntries composed := by
        rw [deepEntries, List.mem_filter]
        exact ⟨within, (known d.base).mpr ⟨e, within', same'⟩⟩
      have sorted' : (points (deepEntries composed)).Pairwise Before :=
        sorted.sublist (List.filter_sublist.map _)
      have found := (holds_points sorted' whole' c.base).mpr ⟨d, isDeep, same⟩
      exact absurd found (Bool.eq_false_iff.mp shallow)
    · rcases start with low | absent
      · exact if_pos (Nat.le_of_ble_eq_true low)
      · refine markClass_eq_zero spells'' (fun lines member => ?_) fun lines member => ?_
        · exact (Bool.and_eq_true _ _).mp (classes lines member)
        · have missing := List.any_eq_false.mp absent
          exact Bool.eq_false_iff.mpr (missing _ (List.mem_map_of_mem member))
    · exact ⟨isPlain_of_span spells code ⟨Nat.le_refl _, Nat.le_refl _⟩,
        isPlain_of_span spells base ⟨Nat.le_refl _, Nat.le_refl _⟩,
        isPlain_of_span spells mark ⟨Nat.le_refl _, Nat.le_refl _⟩⟩

/-- The jamo and the syllables of Hangul are plain. -/
theorem isPlain_of_hangul (span : Nat × Nat) (listed : span ∈ hangulSpans) {code : Nat}
    (inside : span.1 ≤ code ∧ code ≤ span.2) : isPlain code = true := by
  obtain ⟨plain, spells, lines, -, marks, -, checked⟩ := composed_inOrder
  simp only [Bool.and_eq_true] at checked
  exact isPlain_of_span spells (List.all_eq_true.mp checked.1.1.1.1.1 span listed) inside

/-- Leading consonants and syllables of Hangul are no marks. -/
theorem markClass_of_hangul {code : Nat}
    (hangul : 0x1100 ≤ code ∧ code ≤ 0x1112 ∨ 0xAC00 ≤ code ∧ code ≤ 0xD7A3) :
      markClass code = 0 := by
  obtain ⟨plain, -, lines, -, marks, spells, checked⟩ := composed_inOrder
  simp only [Bool.and_eq_true] at checked
  rw [markClass, markClasses, map_readAll_of_spellsEach spells, List.find?_eq_none.mpr]
  · split <;> rfl
  · refine List.forall_mem_map.mpr fun own member inside => ?_
    obtain ⟨range, listed, holds⟩ := List.any_eq_true.mp inside
    have apart := List.all_eq_true.mp (List.all_eq_true.mp checked.2 own member) range listed
    simp only [CodeRange.holds, isApartFromHangul, Bool.or_eq_true, Bool.and_eq_true, Nat.blt_eq,
      decide_eq_true_eq] at holds apart
    omega

/-! ## Directions -/

private theorem backward_beyond_ascii :
    ∃ sections, SpellsEach Direction.lines sections ∧ (sections.all fun (direction, lines) =>
      !direction.isBackward || (readLines lines).all fun range => Nat.ble 0x80 range.first) =
        true := by
  apply Exists.intro
  apply And.intro
  · repeat
      apply SpellsEach.cons
      · repeat apply Spells.cons
        exact Spells.nil
    exact SpellsEach.nil
  · decide +kernel

/-- No character of ASCII is written from right to left. -/
theorem isBackward_of_ascii {code : Nat} (ascii : code < 0x80) :
    (Direction.ofCode code).isBackward = false := by
  obtain ⟨sections, spells, checked⟩ := backward_beyond_ascii
  rw [Direction.ofCode, Direction.table, map_readAll_of_spellsEach spells]
  generalize found : List.find? _ _ = own
  cases own with
  | none => rfl
  | some own =>
      obtain ⟨⟨direction, lines⟩, member, rfl⟩ := List.mem_map.mp (List.mem_of_find?_eq_some found)
      have inside := List.find?_some found
      obtain ⟨range, listed, holds⟩ := List.any_eq_true.mp inside
      rw [CodeRange.holds, Bool.and_eq_true, decide_eq_true_eq] at holds
      have beyond := List.all_eq_true.mp checked _ member
      cases back : direction.isBackward with
      | false => exact back
      | true =>
          simp only [back, Bool.not_true, Bool.false_or] at beyond
          have first := Nat.le_of_ble_eq_true (List.all_eq_true.mp beyond range listed)
          omega

end Url.Domain
end ArticleMarkdown
