import ArticleMarkdown.Text.Numeral
import Mathlib.Data.List.Basic

/-!
# Reading tables

Tables are written as strings and searched from their start. To check a whole table, its strings are
read as lists of characters once (`Text.Spells`), and its ranges are put in a search tree, which
finds the same code points (`CodeRange.Tree.holds_eq_anyHolds`).
-/

namespace ArticleMarkdown

namespace Text

/-- A table that is cut into parts of one size has each of its lines in one of them. -/
theorem exists_mem_part {α : Type} {lines : List α} (size count : Nat) (positive : 0 < size)
    {line : α} (member : line ∈ lines) (enough : lines.length ≤ size * count) :
    ∃ part < count, line ∈ (lines.drop (size * part)).take size := by
  obtain ⟨index, bound, rfl⟩ := List.getElem_of_mem member
  have parts := Nat.div_add_mod index size
  have within := Nat.mod_lt index positive
  refine ⟨index / size, ?_, ?_⟩
  · exact Nat.div_lt_of_lt_mul (Nat.lt_of_lt_of_le bound enough)
  · rw [List.mem_take_iff_getElem]
    refine ⟨index % size, ?_, ?_⟩
    · rw [List.length_drop]
      omega
    · rw [List.getElem_drop]
      simp only [parts]

/-- Lines as lists of characters. Reading them once keeps checks of whole tables small. -/
inductive Spells : List String → List Text → Prop
  | nil : Spells [] []
  | cons {line : Text} {strings : List String} {lines : List Text} (later : Spells strings lines) :
      Spells (String.ofList line :: strings) (line :: lines)

/-- The lines that are spelled are the strings as lists of characters. -/
theorem Spells.map_toList {strings : List String} {lines : List Text}
    (spells : Spells strings lines) : strings.map String.toList = lines := by
  induction spells with
  | nil => rfl
  | cons _ ih => rw [List.map_cons, String.toList_ofList, ih]

/-- Sections of lines, each with its key. -/
inductive SpellsEach {α : Type} : List (α × List String) → List (α × List Text) → Prop
  | nil : SpellsEach [] []
  | cons {key : α} {strings : List String} {lines : List Text} {sections : List (α × List String)}
      {read : List (α × List Text)} (own : Spells strings lines)
      (later : SpellsEach sections read) :
      SpellsEach ((key, strings) :: sections) ((key, lines) :: read)

/-- The sections that are spelled are those of the strings, key by key. -/
theorem SpellsEach.map_toList {α : Type} {sections : List (α × List String)}
    {read : List (α × List Text)} (spells : SpellsEach sections read) :
    (sections.map fun (key, strings) => (key, strings.map String.toList)) = read := by
  induction spells with
  | nil => rfl
  | cons own _ ih =>
      rw [List.map_cons, ih]
      simp only [own.map_toList]

end Text

open Text

namespace CodeRange

/-- The ranges of lines given as lists of characters. -/
def readLines (lines : List Text) : List CodeRange :=
  lines.flatMap fun line => (splitOn ' ' line).map read

/-- A table is read from its spelled lines. -/
theorem readAll_of_spells {strings : List String} {lines : List Text}
    (spells : Spells strings lines) :
    readAll strings = readLines lines := by
  rw [readLines, ← spells.map_toList, List.flatMap_map]
  rfl

/-- Sections of a table are read from their spelled lines. -/
theorem map_readAll_of_spellsEach {α : Type} {sections : List (α × List String)}
    {lines : List (α × List Text)} (spells : SpellsEach sections lines) :
    (sections.map fun (key, strings) => (key, readAll strings)) =
      lines.map fun (key, lines) => (key, readLines lines) := by
  induction spells with
  | nil => rfl
  | cons own _ ih =>
      rw [List.map_cons, List.map_cons, ih]
      simp only [readAll_of_spells own]

/-- A search tree of ranges. -/
inductive Tree where
  | leaf
  | node (left : Tree) (range : CodeRange) (right : Tree)

/-- Whether ranges are given from left to right, without overlaps. -/
def isSorted : List CodeRange → Bool
  | [] => true
  | [range] => Nat.ble range.first range.last
  | range :: next :: rest =>
    Nat.ble range.first range.last && Nat.blt range.last next.first && isSorted (next :: rest)

/-- A range that lies before another one. -/
def Before (range next : CodeRange) : Prop :=
  range.first ≤ range.last ∧ range.last < next.first

/-- Sorted ranges lie one before another, and none is empty. -/
theorem pairwise_of_isSorted {ranges : List CodeRange} (sorted : isSorted ranges = true) :
    ranges.Pairwise Before ∧ ∀ range ∈ ranges, range.first ≤ range.last := by
  fun_induction isSorted ranges with
  | case1 => exact ⟨.nil, List.forall_mem_nil _⟩
  | case2 range =>
      exact ⟨List.pairwise_singleton _ _, List.forall_mem_singleton.mpr
        (Nat.le_of_ble_eq_true sorted)⟩
  | case3 range next rest ih =>
      rw [Bool.and_eq_true, Bool.and_eq_true] at sorted
      obtain ⟨⟨proper, before⟩, later⟩ := sorted
      obtain ⟨pairwise, others⟩ := ih later
      have proper : range.first ≤ range.last := Nat.le_of_ble_eq_true proper
      have before : range.last < next.first := Nat.le_of_ble_eq_true before
      refine ⟨List.pairwise_cons.mpr ⟨List.forall_mem_cons.mpr ⟨⟨proper, before⟩, ?_⟩, pairwise⟩,
        List.forall_mem_cons.mpr ⟨proper, others⟩⟩
      intro other member
      obtain ⟨own, behind⟩ := (List.pairwise_cons.mp pairwise).1 other member
      have between : range.last < other.first := by omega
      exact ⟨proper, between⟩

namespace Tree

/-- The ranges of a tree, from left to right. -/
def toList : Tree → List CodeRange
  | .leaf => []
  | .node left range right => left.toList ++ range :: right.toList

/-- A tree of at most this depth, of the first ranges of a list, and the ranges that are left. -/
def build : (depth : Nat) → List CodeRange → Tree × List CodeRange
  | 0, ranges => (.leaf, ranges)
  | depth + 1, ranges =>
    match build depth ranges with
    | (left, []) => (left, [])
    | (left, range :: rest) =>
      let (right, rest) := build depth rest
      (.node left range right, rest)

/-- Whether one range of the tree holds all code points from one to another. -/
def holds (first last : Nat) : Tree → Bool
  | .leaf => false
  | .node left range right =>
    bif Nat.ble range.first first then
      bif Nat.ble last range.last then true else right.holds first last
    else left.holds first last

/-- A tree and what is left of the list make up the list. -/
theorem toList_build (depth : Nat) (ranges : List CodeRange) :
    (build depth ranges).1.toList ++ (build depth ranges).2 = ranges := by
  induction depth generalizing ranges with
  | zero => rfl
  | succ depth ih =>
      rw [build]
      have front := ih ranges
      split
      · next left built => rwa [built] at front
      · next left range rest built =>
        rw [built] at front
        have back := ih rest
        simp only [toList, List.append_assoc, List.cons_append, back]
        exact front

/-- What is found lies in one range of the tree. -/
theorem exists_of_holds {tree : Tree} {first last : Nat} (found : tree.holds first last = true) :
    ∃ range ∈ tree.toList, range.first ≤ first ∧ last ≤ range.last := by
  induction tree with
  | leaf => cases found
  | node left range right ihLeft ihRight =>
      rw [holds] at found
      cases start : Nat.ble range.first first with
      | false =>
          rw [start, cond_false] at found
          obtain ⟨other, member, inside⟩ := ihLeft found
          exact ⟨other, List.mem_append_left _ member, inside⟩
      | true =>
          rw [start, cond_true] at found
          cases stop : Nat.ble last range.last with
          | false =>
              rw [stop, cond_false] at found
              obtain ⟨other, member, inside⟩ := ihRight found
              exact ⟨other, List.mem_append_right _ (List.mem_cons_of_mem _ member), inside⟩
          | true =>
              exact ⟨range, List.mem_append_right _ List.mem_cons_self, Nat.le_of_ble_eq_true start,
                Nat.le_of_ble_eq_true stop⟩

private theorem holds_of_mem {tree : Tree} (sorted : tree.toList.Pairwise Before)
    {range : CodeRange}
    (member : range ∈ tree.toList) {code : Nat} (inside : range.first ≤ code ∧ code ≤ range.last) :
    tree.holds code code = true := by
  induction tree with
  | leaf => cases member
  | node left own right ihLeft ihRight =>
      obtain ⟨front, back, across⟩ := List.pairwise_append.mp sorted
      obtain ⟨behind, back⟩ := List.pairwise_cons.mp back
      rw [holds]
      rcases List.mem_append.mp member with before | here
      · have stop := across range before own List.mem_cons_self
        have start : Nat.ble own.first code = false :=
          Bool.eq_false_iff.mpr fun least => by
            have least := Nat.le_of_ble_eq_true least
            have least' := stop.2
            omega
        rw [start, cond_false]
        exact ihLeft front before
      · rcases List.mem_cons.mp here with rfl | after
        · rw [Nat.ble_eq_true_of_le inside.1, Nat.ble_eq_true_of_le inside.2]
          rfl
        · obtain ⟨proper, next⟩ := behind range after
          have start : Nat.ble own.first code = true := Nat.ble_eq_true_of_le (by omega)
          have stop : Nat.ble code own.last = false :=
            Bool.eq_false_iff.mpr fun most => by
              have most := Nat.le_of_ble_eq_true most
              omega
          rw [start, stop, cond_true, cond_false]
          exact ihRight back after

/-- The tree of a table finds the code points of the table. -/
theorem holds_eq_anyHolds {depth : Nat} {ranges : List CodeRange} (sorted : ranges.Pairwise Before)
    (whole : (build depth ranges).2.isEmpty = true) (code : Nat) :
    (build depth ranges).1.holds code code = anyHolds ranges code := by
  have listed := toList_build depth ranges
  rw [List.isEmpty_iff.mp whole, List.append_nil] at listed
  rw [Bool.eq_iff_iff, anyHolds, List.any_eq_true]
  constructor
  · intro found
    obtain ⟨range, member, first, last⟩ := exists_of_holds found
    exact ⟨range, listed ▸ member, by simp [CodeRange.holds, first, last]⟩
  · rintro ⟨range, member, inside⟩
    rw [CodeRange.holds, Bool.and_eq_true, decide_eq_true_eq, decide_eq_true_eq] at inside
    refine holds_of_mem ?_ (listed.symm ▸ member) inside
    rw [listed]
    exact sorted

end Tree
end CodeRange
end ArticleMarkdown
