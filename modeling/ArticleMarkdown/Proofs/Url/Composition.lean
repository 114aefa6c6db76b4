import ArticleMarkdown.Proofs.Url.Tables
import Mathlib.Data.List.Chain

/-!
# Composing twice

Taking a composed text apart gives the parts that it was composed of, in the same order, so
composing it again changes nothing (`compose_compose`). A character that composes with no other,
as the dot between labels, parts a text into texts that are composed one by one
(`compose_append_cons`).
-/

namespace ArticleMarkdown.Url.Domain

variable {code other mark base : Nat} {done codes rest marks : List Nat}

/-! ## The order of marks -/

/-- A character that is put before the last one. -/
def Passes (code last : Nat) : Prop :=
  markClass code ≠ 0 ∧ markClass code < markClass last

private theorem insertMark_of_passes {last : Nat} (passes : Passes code last) (before : List Nat) :
    insertMark code (last :: before) = last :: insertMark code before := by
  rw [insertMark, if_pos (by simpa [Passes] using passes)]

private theorem insertMark_of_stays {last : Nat} (stays : ¬Passes code last) (before : List Nat) :
    insertMark code (last :: before) = code :: last :: before := by
  rw [insertMark, if_neg (by simpa [Passes] using stays)]

/-- Marks of different classes do not touch each other. -/
theorem insertMark_comm (marks : markClass code ≠ 0 ∧ markClass other ≠ 0)
    (smaller : markClass code < markClass other) (done : List Nat) :
    insertMark other (insertMark code done) = insertMark code (insertMark other done) := by
  have passes : Passes code other := ⟨marks.1, smaller⟩
  have stays : ¬Passes other code := fun back => absurd back.2 (Nat.lt_asymm smaller)
  induction done with
  | nil =>
      rw [insertMark, insertMark, insertMark_of_stays stays, insertMark_of_passes passes,
        insertMark]
  | cons last before ih =>
      by_cases lower : Passes other last
      · have lower' : Passes code last := ⟨marks.1, Nat.lt_trans smaller lower.2⟩
        rw [insertMark_of_passes lower', insertMark_of_passes lower, insertMark_of_passes lower,
          insertMark_of_passes lower', ih]
      · rw [insertMark_of_stays lower, insertMark_of_passes passes]
        by_cases lower' : Passes code last
        · rw [insertMark_of_passes lower', insertMark_of_stays lower]
        · rw [insertMark_of_stays lower', insertMark_of_stays stays]

/-- Puts characters on others, the last of which stands first. -/
def stack (done codes : List Nat) : List Nat :=
  codes.foldl (fun done code => insertMark code done) done

private theorem orderMarks_eq (codes : List Nat) : orderMarks codes = (stack [] codes).reverse :=
  rfl

private theorem stack_append (done codes rest : List Nat) :
    stack done (codes ++ rest) = stack (stack done codes) rest :=
  List.foldl_append

/-- A mark may be put on before others of smaller classes. -/
theorem stack_move (smaller : ∀ m ∈ marks, markClass m ≠ 0 ∧ markClass m < markClass code)
    (done rest : List Nat) :
    stack done (marks ++ code :: rest) = stack done (code :: marks ++ rest) := by
  induction marks generalizing done with
  | nil => rfl
  | cons m marks ih =>
      obtain ⟨⟨own, less⟩, others⟩ := List.forall_mem_cons.mp smaller
      have swap : stack done (m :: code :: (marks ++ rest)) =
        stack done (code :: m :: (marks ++ rest)) :=
        congrArg (stack · (marks ++ rest)) (insertMark_comm ⟨own, by omega⟩ less done)
      exact (ih others (insertMark m done)).trans swap

/-- Characters with their marks in order, the last of which stands first. -/
def Stacked (done : List Nat) : Prop :=
  done.IsChain fun last before => ¬Passes last before

private theorem Stacked.insertMark (stacked : Stacked done) (code : Nat) :
    Stacked (insertMark code done) := by
  induction done with
  | nil => exact .singleton _
  | cons last before ih =>
      by_cases lower : Passes code last
      · rw [insertMark_of_passes lower]
        have own := ih stacked.tail
        have stays : ¬Passes last code := fun back => absurd back.2 (Nat.lt_asymm lower.2)
        cases before with
        | nil => exact .cons_cons stays own
        | cons next rest =>
            by_cases lower' : Passes code next
            · rw [insertMark_of_passes lower'] at own ⊢
              exact .cons_cons stacked.rel own
            · rw [insertMark_of_stays lower'] at own ⊢
              exact .cons_cons stays own
      · rw [insertMark_of_stays lower]
        exact .cons_cons lower stacked

private theorem Stacked.stack (stacked : Stacked done) (codes : List Nat) :
    Stacked (stack done codes) := by
  induction codes generalizing done with
  | nil => exact stacked
  | cons code codes ih => exact ih (stacked.insertMark code)

/-- Characters in order stay in order. -/
theorem stack_of_stacked (stacked : Stacked (codes.reverse ++ done)) :
    Domain.stack done codes = codes.reverse ++ done := by
  induction codes generalizing done with
  | nil => rfl
  | cons code codes ih =>
      rw [List.reverse_cons, List.append_assoc, List.singleton_append] at stacked ⊢
      have own : Domain.insertMark code done = code :: done := by
        have top : Stacked (code :: done) := stacked.right_of_append
        cases done with
        | nil => rfl
        | cons last before => exact insertMark_of_stays top.rel before
      have later := ih stacked
      rw [← own] at later
      exact later.trans (by rw [own])

private theorem orderMarks_orderMarks (codes : List Nat) :
    orderMarks (orderMarks codes) = orderMarks codes := by
  have stacked : Stacked (stack [] codes) := Stacked.stack .nil codes
  have kept : stack [] (stack [] codes).reverse = (stack [] codes).reverse.reverse ++ [] :=
    stack_of_stacked (by simpa using stacked)
  rw [orderMarks_eq, orderMarks_eq, kept, List.reverse_reverse, List.append_nil]

/-! ## Taking apart -/

private theorem not_hangul {code : Nat} (foreign : isHangul code = false) :
    (code < 0x1100 ∨ 0x1200 ≤ code) ∧ (code < 0xAC00 ∨ 0xD7A4 ≤ code) := by
  have outside := Bool.eq_false_iff.mp foreign
  simp only [isHangul, ne_eq, Bool.or_eq_true, Bool.and_eq_true, Nat.ble_eq, Nat.blt_eq] at outside
  omega

private theorem syllable?_eq_none (foreign : code < 0xAC00 ∨ 0xD7A4 ≤ code) :
    syllable? code = none := by
  have beyond :
    ¬(firstSyllable ≤ code ∧ code < firstSyllable + leadCount * vowelCount * trailCount) := by
    simp only [firstSyllable, leadCount, vowelCount, trailCount]
    omega
  rw [syllable?, if_neg (by simpa using beyond)]

set_option maxRecDepth 2000 in
private theorem takeApart_succ (depth code : Nat) :
    takeApart (depth + 1) code = if code < 0xC0 then [code]
    else
      match syllable? code with
      | some number => syllableParts number
      | none =>
        match composed.find? (·.code == code) with
        | some c => takeApart depth c.base ++ [c.mark]
        | none => [code] :=
  rfl

private theorem find?_code {c : Composed} (listed : c ∈ composed) :
    composed.find? (·.code == c.code) = some c := by
  obtain ⟨before, after, split⟩ := List.append_of_mem listed
  have rising := composed_sound.1
  rw [split, List.map_append, List.map_cons, List.pairwise_append] at rising
  have own : ((c :: after).find? (·.code == c.code)) = some c :=
    List.find?_cons_of_pos (p := fun d : Composed => d.code == c.code) (beq_self_eq_true c.code)
  rw [split, List.find?_append, own]
  have none : (before.find? (·.code == c.code)) = none := by
    refine List.find?_eq_none.mpr fun d within same => ?_
    have less := rising.2.2 d.code (List.mem_map_of_mem within) c.code List.mem_cons_self
    exact absurd (beq_iff_eq.mp same) (Nat.ne_of_lt less)
  rw [none, Option.none_or]

/-- A composed character is taken apart into its mark and the parts of what it is put on. -/
theorem takeApart_code {c : Composed} (listed : c ∈ composed) (depth : Nat) :
    takeApart (depth + 1) c.code = takeApart depth c.base ++ [c.mark] := by
  have sound := composed_sound.2 c listed
  have none := syllable?_eq_none (not_hangul sound.foreign).2
  have large := sound.large
  simp only [takeApart_succ, if_neg (Nat.not_lt.mpr large), none, find?_code listed]

private theorem find?_eq_none (alone : ∀ c ∈ composed, c.code ≠ code) :
    composed.find? (·.code == code) = none :=
  List.find?_eq_none.mpr fun c listed same => alone c listed (beq_iff_eq.mp same)

/-- A character that is not composed and no syllable is its only part. -/
theorem takeApart_of_single (foreign : code < 0xAC00 ∨ 0xD7A4 ≤ code)
    (alone : ∀ c ∈ composed, c.code ≠ code) (depth : Nat) : takeApart depth code = [code] := by
  cases depth with
  | zero => rfl
  | succ depth =>
      simp only [takeApart_succ, syllable?_eq_none foreign, find?_eq_none alone, ite_self]

private theorem alone_of_hangul (hangul : isHangul code = true) :
    ∀ c ∈ composed, c.code ≠ code := by
  rintro c listed rfl
  exact Bool.false_ne_true ((composed_sound.2 c listed).foreign.symm.trans hangul)

private theorem takeApart_jamo (depth : Nat) (jamo : 0x1100 ≤ code ∧ code < 0x1200) :
    takeApart depth code = [code] := by
  refine takeApart_of_single (by omega) (alone_of_hangul ?_) depth
  simp only [isHangul, Bool.or_eq_true, Bool.and_eq_true, Nat.ble_eq, Nat.blt_eq]
  omega

private theorem takeApart_mark {c : Composed} (listed : c ∈ composed) (depth : Nat) :
    takeApart depth c.mark = [c.mark] := by
  have sound := composed_sound.2 c listed
  exact takeApart_of_single (not_hangul sound.whole.1).2 sound.whole.2 depth

private theorem takeApart_syllable {number : Nat} (syllable : syllable? code = some number)
    (depth : Nat) :
    takeApart (depth + 1) code = syllableParts number := by
  have large : ¬code < 0xC0 := by
    intro small
    rw [syllable?_eq_none (by omega)] at syllable
    cases syllable
  simp only [takeApart_succ, if_neg large, syllable]

/-- Taking apart further makes no difference to a character that is not composed. -/
theorem takeApart_of_alone (alone : ∀ c ∈ composed, c.code ≠ code) (depth : Nat) :
    takeApart (depth + 1) code = takeApart 1 code := by
  simp only [takeApart_succ, find?_eq_none alone]

/-- Composed characters are taken apart twice at most, so it does not matter how far the first part
is taken apart from then on. -/
theorem takeApart_base {c : Composed} (listed : c ∈ composed) (depth : Nat) :
    takeApart (depth + 2) c.base = takeApart 2 c.base := by
  by_cases composedBase : ∃ d ∈ composed, d.code = c.base
  · obtain ⟨d, within, same⟩ := composedBase
    have alone := (composed_sound.2 c listed).shallow d within same
    rw [← same, takeApart_code within, takeApart_code within, takeApart_of_alone alone]
  · have alone : ∀ d ∈ composed, d.code ≠ c.base := fun d within same =>
      composedBase ⟨d, within, same⟩
    rw [takeApart_of_alone alone (depth + 1), takeApart_of_alone alone 1]

private theorem syllable?_eq_some {code number : Nat} :
    syllable? code = some number ↔ code = 0xAC00 + number ∧ number < 11172 := by
  have range :
      (firstSyllable ≤ code && code < firstSyllable + leadCount * vowelCount * trailCount) =
      true ↔ 0xAC00 ≤ code ∧ code < 0xAC00 + 11172 := by
    rw [Bool.and_eq_true, decide_eq_true_eq, decide_eq_true_eq]
    rfl
  rw [syllable?]
  split
  · next inside =>
    have bounds := range.mp inside
    rw [Option.some.injEq]
    show code - 0xAC00 = number ↔ _
    omega
  · next outside =>
    have bounds := mt range.mpr outside
    exact iff_of_false nofun (by omega)

private theorem jamo_of_mem_syllableParts {number part : Nat} (small : number < 11172)
    (member : part ∈ syllableParts number) : 0x1100 ≤ part ∧ part < 0x1200 := by
  have listed : part ∈ [0x1100 + number / 588, 0x1161 + number % 588 / 28] ++
      (if number % 28 = 0 then [] else [0x11A7 + number % 28]) := member
  rcases List.mem_append.mp listed with start | trail
  · simp only [List.mem_cons, List.not_mem_nil, or_false] at start
    omega
  · split at trail
    · cases trail
    · rw [List.mem_singleton.mp trail]
      omega

private theorem takeApart_part_of_alone (alone : ∀ c ∈ composed, c.code ≠ code) {depth part : Nat}
    (member : part ∈ takeApart (depth + 1) code) : takeApart maxDepth part = [part] := by
  cases syllable : syllable? code with
  | some number =>
      rw [takeApart_syllable syllable] at member
      exact takeApart_jamo _ (jamo_of_mem_syllableParts (syllable?_eq_some.mp syllable).2 member)
  | none =>
      have foreign : code < 0xAC00 ∨ 0xD7A4 ≤ code := by
        by_contra inside
        have found : syllable? code = some (code - 0xAC00) := syllable?_eq_some.mpr (by omega)
        rw [syllable] at found
        cases found
      have single := takeApart_of_single foreign alone
      rw [single] at member
      rw [List.mem_singleton.mp member, single]

/-- The parts of a character are not taken apart. -/
theorem takeApart_part {part : Nat} (member : part ∈ takeApart maxDepth code) :
    takeApart maxDepth part = [part] := by
  have further {c : Composed} (listed : c ∈ composed) {depth : Nat}
      (base : part ∈ takeApart depth c.base → takeApart maxDepth part = [part])
      (member : part ∈ takeApart (depth + 1) c.code) : takeApart maxDepth part = [part] := by
    rw [takeApart_code listed] at member
    rcases List.mem_append.mp member with inside | mark
    · exact base inside
    · rw [List.mem_singleton.mp mark, takeApart_mark listed]
  by_cases composedCode : ∃ c ∈ composed, c.code = code
  · obtain ⟨c, listed, rfl⟩ := composedCode
    refine further listed (fun inside => ?_) member
    by_cases composedBase : ∃ d ∈ composed, d.code = c.base
    · obtain ⟨d, within, same⟩ := composedBase
      rw [← same] at inside
      exact further within
        (takeApart_part_of_alone ((composed_sound.2 c listed).shallow d within same)) inside
    · exact takeApart_part_of_alone (fun d within same => composedBase ⟨d, within, same⟩) inside
  · exact takeApart_part_of_alone (fun c listed same => composedCode ⟨c, listed, same⟩) member

/-- A syllable of two parts, given by the numbers of its consonant and its vowel. -/
theorem syllableParts_open {lead vowel : Nat} (small : vowel < 21) :
    syllableParts ((lead * 21 + vowel) * 28) = [0x1100 + lead, 0x1161 + vowel] := by
  have first : (lead * 21 + vowel) * 28 / 588 = lead := by omega
  have second : (lead * 21 + vowel) * 28 % 588 / 28 = vowel := by omega
  have third : (lead * 21 + vowel) * 28 % 28 = 0 := by omega
  show [0x1100 + (lead * 21 + vowel) * 28 / 588, 0x1161 + (lead * 21 + vowel) * 28 % 588 / 28] ++
    (if (lead * 21 + vowel) * 28 % 28 = 0 then [] else _) = _
  rw [first, second, if_pos third, List.append_nil]

/-- A trailing consonant is the last part of a syllable that was open before. -/
theorem syllableParts_closed {number trail : Nat} (isOpen : number % 28 = 0)
    (small : 0 < trail ∧ trail < 28) :
    syllableParts (number + trail) = syllableParts number ++ [0x11A7 + trail] := by
  have first : (number + trail) / 588 = number / 588 := by omega
  have second : (number + trail) % 588 / 28 = number % 588 / 28 := by omega
  have third : (number + trail) % 28 = trail := by omega
  show [0x1100 + (number + trail) / 588, 0x1161 + (number + trail) % 588 / 28] ++
      (if (number + trail) % 28 = 0 then [] else [0x11A7 + (number + trail) % 28]) =
    [0x1100 + number / 588, 0x1161 + number % 588 / 28] ++
      (if number % 28 = 0 then [] else [0x11A7 + number % 28]) ++ [0x11A7 + trail]
  rw [first, second, third, if_neg (by omega), if_pos isOpen, List.append_nil]

private theorem joinSyllable?_eq_some {first second whole : Nat}
    (joined : joinSyllable? first second = some whole) :
    (∃ lead vowel, lead < 19 ∧ vowel < 21 ∧ first = 0x1100 + lead ∧ second = 0x1161 + vowel ∧
      whole = 0xAC00 + (lead * 21 + vowel) * 28) ∨
    ∃ number trail, syllable? first = some number ∧ number % 28 = 0 ∧ 0 < trail ∧ trail < 28 ∧
      second = 0x11A7 + trail ∧ whole = first + trail := by
  unfold joinSyllable? at joined
  split at joined
  · next parts =>
    have bounds : ((0x1100 ≤ first ∧ first < 0x1100 + 19) ∧ 0x1161 ≤ second) ∧
      second < 0x1161 + 21 := by
      simp only [Bool.and_eq_true, decide_eq_true_eq] at parts
      exact parts
    have joined : 0xAC00 + ((first - 0x1100) * 21 + (second - 0x1161)) * 28 = whole :=
      Option.some.inj joined
    exact .inl ⟨first - 0x1100, second - 0x1161, by omega, by omega, by omega, by omega,
      joined.symm⟩
  · split at joined
    · next number syllable =>
      split at joined
      · next parts =>
        have bounds : (number % 28 = 0 ∧ 0x11A7 < second) ∧ second < 0x11A7 + 28 := by
          simp only [Bool.and_eq_true, decide_eq_true_eq] at parts
          exact parts
        have joined : first + (second - 0x11A7) = whole := Option.some.inj joined
        exact .inr ⟨number, second - 0x11A7, syllable, by omega, by omega, by omega, by omega,
          joined.symm⟩
      · cases joined
    · cases joined

private theorem takeApart_joinSyllable? {first second whole : Nat}
    (joined : joinSyllable? first second = some whole) :
    takeApart maxDepth whole = takeApart maxDepth first ++ [second] := by
  rcases joinSyllable?_eq_some joined with
    ⟨lead, vowel, leads, vowels, rfl, rfl, same⟩ |
      ⟨number, trail, syllable, isOpen, some, small, rfl, same⟩
  · have number : syllable? whole = .some ((lead * 21 + vowel) * 28) :=
      syllable?_eq_some.mpr ⟨same, by omega⟩
    rw [maxDepth, takeApart_syllable number, syllableParts_open vowels, takeApart_jamo 4 (by omega)]
    rfl
  · obtain ⟨start, bound⟩ := syllable?_eq_some.mp syllable
    have longer : syllable? whole = .some (number + trail) :=
      syllable?_eq_some.mpr ⟨by omega, by omega⟩
    rw [maxDepth, takeApart_syllable longer, takeApart_syllable syllable,
      syllableParts_closed isOpen ⟨some, small⟩]

/-- What two characters compose is taken apart into the parts of the first one and the second. -/
theorem takeApart_compose? {first second whole : Nat}
    (composes : compose? first second = some whole) :
    takeApart maxDepth whole = takeApart maxDepth first ++ [second] := by
  unfold compose? at composes
  split at composes
  · next syllable joined =>
    rw [← Option.some.inj composes]
    exact takeApart_joinSyllable? joined
  · obtain ⟨c, found, rfl⟩ := Option.map_eq_some_iff.mp composes
    have listed := List.mem_of_find?_eq_some found
    have parts := List.find?_some found
    rw [Bool.and_eq_true, beq_iff_eq, beq_iff_eq] at parts
    rw [maxDepth, takeApart_code listed, takeApart_base listed 1, ← takeApart_base listed 2,
      parts.1,
      parts.2]

/-! ## Composing and taking apart -/

/-- Characters that are not taken apart. -/
def Atomic (codes : List Nat) : Prop :=
  ∀ code ∈ codes, takeApart maxDepth code = [code]

private theorem Atomic.flatMap (atomic : Atomic codes) :
    codes.flatMap (takeApart maxDepth) = codes := by
  induction codes with
  | nil => rfl
  | cons code codes ih =>
      obtain ⟨own, others⟩ := List.forall_mem_cons.mp atomic
      rw [List.flatMap_cons, own, ih others, List.singleton_append]

/-- A character that is free to compose has a greater class than all marks that wait. -/
theorem lt_of_isFree (sorted : marks.Pairwise fun m n => markClass m ≤ markClass n)
    (free : (match marks.getLast? with
      | none => true
      | some last => decide (markClass last < markClass code)) = true) :
    ∀ m ∈ marks, markClass m < markClass code := by
  intro m member
  split at free
  · next ends => exact absurd member (List.getLast?_eq_none_iff.mp ends ▸ List.not_mem_nil)
  · next last ends =>
    obtain ⟨before, rfl⟩ := List.getLast?_eq_some_iff.mp ends
    have less := of_decide_eq_true free
    rcases List.mem_append.mp member with inside | own
    · exact ((List.pairwise_append.mp sorted).2.2 m inside last List.mem_cons_self).trans_lt less
    · rwa [List.mem_singleton.mp own]

/-- Taking apart what was composed gives the parts back. The marks that wait have no greater class
than `previous`, the character before `rest`. -/
theorem stack_composeFrom {previous : Nat} (atomicMarks : Atomic marks) (atomic : Atomic rest)
    (classes : ∀ m ∈ marks, markClass m ≠ 0 ∧ markClass m ≤ markClass previous)
    (sorted : marks.Pairwise fun m n => markClass m ≤ markClass n)
    (ordered : (previous :: rest).IsChain fun before next => ¬Passes next before)
      (done : List Nat) :
    stack done ((composeFrom base marks rest).flatMap (takeApart maxDepth)) =
      stack done (takeApart maxDepth base ++ (marks ++ rest)) := by
  fun_induction composeFrom base marks rest generalizing previous done with
  | case1 base marks => rw [List.flatMap_cons, atomicMarks.flatMap, List.append_nil]
  | case2 base marks code rest isFree whole composes =>
      rename_i ih
      obtain ⟨own, others⟩ := List.forall_mem_cons.mp atomic
      split at composes
      · next free =>
        have smaller : ∀ m ∈ marks, markClass m ≠ 0 ∧ markClass m < markClass code :=
          fun m member =>
          ⟨(classes m member).1, lt_of_isFree sorted free m member⟩
        have bounded : ∀ m ∈ marks, markClass m ≠ 0 ∧ markClass m ≤ markClass code :=
          fun m member =>
          ⟨(smaller m member).1, (smaller m member).2.le⟩
        calc
          _ = stack done (takeApart maxDepth whole ++ (marks ++ rest)) :=
            ih atomicMarks others bounded sorted ordered.tail done
          _ = stack (stack done (takeApart maxDepth base)) (code :: marks ++ rest) := by
            rw [takeApart_compose? composes, List.append_assoc, stack_append]
            rfl
          _ = stack (stack done (takeApart maxDepth base)) (marks ++ code :: rest) :=
            (stack_move smaller _ rest).symm
          _ = stack done (takeApart maxDepth base ++ (marks ++ code :: rest)) :=
            (stack_append _ _ _).symm
      · cases composes
  | case3 base marks code rest isFree apart starter =>
      rename_i ih
      obtain ⟨own, others⟩ := List.forall_mem_cons.mp atomic
      have later := ih (List.forall_mem_nil _) others (List.forall_mem_nil _) .nil ordered.tail
      rw [own] at later
      rw [List.flatMap_append, List.flatMap_cons, atomicMarks.flatMap, stack_append, later,
        ← stack_append]
      simp
  | case4 base marks code rest isFree apart isMark =>
      rename_i ih
      obtain ⟨own, others⟩ := List.forall_mem_cons.mp atomic
      have above : markClass previous ≤ markClass code := by
        have stays := ordered.rel
        simp only [Passes, not_and, Nat.not_lt] at stays
        exact stays isMark
      have least : ∀ m ∈ marks, markClass m ≤ markClass code := fun m member =>
        (classes m member).2.trans above
      have atomicMarks' : Atomic (marks ++ [code]) :=
        List.forall_mem_append.mpr ⟨atomicMarks, List.forall_mem_singleton.mpr own⟩
      have classes' : ∀ m ∈ marks ++ [code], markClass m ≠ 0 ∧ markClass m ≤ markClass code :=
        List.forall_mem_append.mpr ⟨fun m member => ⟨(classes m member).1, least m member⟩,
          List.forall_mem_singleton.mpr ⟨isMark, Nat.le_refl _⟩⟩
      have sorted' : (marks ++ [code]).Pairwise fun m n => markClass m ≤ markClass n := by
        refine List.pairwise_append.mpr
          ⟨sorted, List.pairwise_singleton _ _, fun m member n last => ?_⟩
        rw [List.mem_singleton.mp last]
        exact least m member
      rw [ih atomicMarks' others classes' sorted' ordered.tail, List.append_assoc,
        List.singleton_append]

/-- A text taken apart, with its marks in order. -/
def apart (codes : List Nat) : List Nat :=
  orderMarks (codes.flatMap (takeApart maxDepth))

/-- Composes the parts of a text. -/
def assemble : List Nat → List Nat
  | [] => []
  | first :: rest => composeFrom first [] rest

private theorem compose_eq (codes : List Nat) : compose codes = assemble (apart codes) := by
  rw [compose, apart]
  split <;> next same => rw [same, assemble]

private theorem mem_insertMark {x : Nat} : x ∈ insertMark code done ↔ x = code ∨ x ∈ done := by
  induction done with
  | nil => exact List.mem_cons
  | cons last before ih =>
      by_cases lower : Passes code last
      · rw [insertMark_of_passes lower, List.mem_cons, ih, List.mem_cons]
        exact or_left_comm
      · rw [insertMark_of_stays lower, List.mem_cons]

private theorem mem_stack {x : Nat} : x ∈ stack done codes ↔ x ∈ codes ∨ x ∈ done := by
  induction codes generalizing done with
  | nil => simp [stack]
  | cons code codes ih =>
      have later : x ∈ stack done (code :: codes) ↔ x ∈ codes ∨ x ∈ insertMark code done := ih
      rw [later, mem_insertMark, List.mem_cons, or_assoc, or_left_comm]

private theorem mem_apart {x : Nat} :
    x ∈ apart codes ↔ ∃ code ∈ codes, x ∈ takeApart maxDepth code := by
  rw [apart, orderMarks_eq, List.mem_reverse, mem_stack, List.mem_flatMap]
  simp

private theorem atomic_apart (codes : List Nat) : Atomic (apart codes) := by
  intro part member
  obtain ⟨code, -, inside⟩ := mem_apart.mp member
  exact takeApart_part inside

private theorem isChain_apart (codes : List Nat) :
    (apart codes).IsChain fun before next => ¬Passes next before := by
  have stacked : Stacked (stack [] (codes.flatMap (takeApart maxDepth))) := Stacked.stack .nil _
  rw [apart, orderMarks_eq, List.isChain_reverse]
  exact stacked

/-- Taking apart a composed text gives the parts that it was composed of. -/
theorem apart_compose (codes : List Nat) : apart (compose codes) = apart codes := by
  rw [compose_eq]
  have atomic := atomic_apart codes
  have ordered := isChain_apart codes
  have kept : orderMarks (apart codes) = apart codes := orderMarks_orderMarks _
  cases parts : apart codes with
  | nil => rfl
  | cons first rest =>
      rw [parts] at atomic ordered kept
      obtain ⟨own, others⟩ := List.forall_mem_cons.mp atomic
      have whole : stack [] ((composeFrom first [] rest).flatMap (takeApart maxDepth)) =
          stack [] (takeApart maxDepth first ++ ([] ++ rest)) :=
        stack_composeFrom (List.forall_mem_nil _) others (List.forall_mem_nil _) .nil ordered []
      rw [assemble, apart, orderMarks_eq, whole, own]
      exact kept

/-- Composing twice is composing once. -/
theorem compose_compose (codes : List Nat) : compose (compose codes) = compose codes := by
  rw [compose_eq (compose codes), apart_compose, compose_eq]

/-! ## Parts that are composed one by one -/

/-- A character that is not taken apart and composes with no other. -/
structure Parting (code : Nat) : Prop where
  starter : markClass code = 0
  single : takeApart maxDepth code = [code]
  first : ∀ other, compose? code other = none
  second : ∀ other, compose? other code = none

variable {dot : Nat}

private theorem insertMark_of_starter (starter : markClass code = 0) (done : List Nat) :
    insertMark code done = code :: done := by
  cases done with
  | nil => rfl
  | cons last before => exact insertMark_of_stays (fun passes => passes.1 starter) before

private theorem insertMark_append (parting : markClass dot = 0) (above : List Nat)
    (done : List Nat) :
    insertMark code (above ++ dot :: done) = insertMark code above ++ dot :: done := by
  induction above with
  | nil =>
      refine insertMark_of_stays (fun passes => ?_) done
      exact absurd passes.2 (by omega)
  | cons last before ih =>
      by_cases lower : Passes code last
      · rw [List.cons_append, insertMark_of_passes lower, insertMark_of_passes lower, ih,
          List.cons_append]
      · rw [List.cons_append, insertMark_of_stays lower, insertMark_of_stays lower]
        rfl

private theorem stack_append_cons (parting : markClass dot = 0) (above done codes : List Nat) :
    stack (above ++ dot :: done) codes = stack above codes ++ dot :: done := by
  induction codes generalizing above with
  | nil => rfl
  | cons code codes ih =>
      have step : stack (above ++ dot :: done) (code :: codes) =
          stack (insertMark code (above ++ dot :: done)) codes := rfl
      rw [step, insertMark_append parting, ih]
      rfl

private theorem apart_append_cons (parting : Parting dot) (codes rest : List Nat) :
    apart (codes ++ dot :: rest) = apart codes ++ dot :: apart rest := by
  have own : stack (stack [] (codes.flatMap (takeApart maxDepth))) [dot] =
      dot :: stack [] (codes.flatMap (takeApart maxDepth)) :=
    insertMark_of_starter parting.starter _
  rw [apart, List.flatMap_append, List.flatMap_cons, parting.single, orderMarks_eq, stack_append,
    stack_append, own]
  have barrier :=
    stack_append_cons parting.starter [] (stack [] (codes.flatMap (takeApart maxDepth)))
    (rest.flatMap (takeApart maxDepth))
  rw [List.nil_append] at barrier
  rw [barrier]
  simp [apart, orderMarks_eq]

private theorem composeFrom_append_cons (parting : Parting dot) (base : Nat)
    (marks codes rest : List Nat) :
    composeFrom base marks (codes ++ dot :: rest) =
      composeFrom base marks codes ++ composeFrom dot [] rest := by
  have parted (base : Nat) (marks : List Nat) :
      composeFrom base marks (dot :: rest) = base :: marks ++ composeFrom dot [] rest := by
    simp only [composeFrom, parting.second, ite_self, parting.starter, if_true]
  fun_induction composeFrom base marks codes with
  | case1 base marks => exact parted base marks
  | case2 base marks code codes isFree whole composes ih =>
      rw [List.cons_append, composeFrom]
      simp only [isFree] at composes
      simp only [composes, ih]
  | case3 base marks code codes isFree apart starter ih =>
      rw [List.cons_append, composeFrom]
      simp only [isFree] at apart
      simp only [apart]
      rw [if_pos starter, ih, List.append_assoc]
  | case4 base marks code codes isFree apart isMark ih =>
      rw [List.cons_append, composeFrom]
      simp only [isFree] at apart
      simp only [apart, if_neg isMark, ih]

/-- What is composed behind a character that composes with none: its marks stay as they are. -/
def behindInert (rest : List Nat) : List Nat :=
  rest.takeWhile (markClass · != 0) ++ assemble (rest.dropWhile (markClass · != 0))

private theorem composeFrom_of_inert {base : Nat} (inert : ∀ other, compose? base other = none)
    (marks rest : List Nat) : composeFrom base marks rest = base :: marks ++ behindInert rest := by
  induction rest generalizing marks with
  | nil => simp [composeFrom, behindInert, assemble]
  | cons code rest ih =>
      simp only [composeFrom, inert, ite_self]
      by_cases starter : markClass code = 0
      · rw [if_pos starter, behindInert, List.takeWhile_cons_of_neg (by simp [starter]),
          List.dropWhile_cons_of_neg (by simp [starter]), assemble, List.nil_append]
      · rw [if_neg starter, ih, behindInert, behindInert,
          List.takeWhile_cons_of_pos (by simp [starter]),
          List.dropWhile_cons_of_pos (by simp [starter])]
        simp

/-- No mark composes with what follows it. -/
theorem compose?_of_mark {first : Nat} (isMark : markClass first ≠ 0) (second : Nat) :
    compose? first second = none := by
  rw [compose?]
  cases joined : joinSyllable? first second with
  | some whole =>
      refine absurd (markClass_of_hangul ?_) isMark
      rcases joinSyllable?_eq_some joined with
        ⟨lead, -, leads, -, rfl, -⟩ | ⟨number, -, syllable, -⟩
      · exact .inl (by omega)
      · have range := syllable?_eq_some.mp syllable
        exact .inr (by omega)
  | none =>
      cases found : composed.find? fun c => c.base == first && c.mark == second with
      | none => rfl
      | some c =>
          have parts := List.find?_some found
          rw [Bool.and_eq_true, beq_iff_eq] at parts
          have starts := (composed_sound.2 c (List.mem_of_find?_eq_some found)).start
          exact absurd (parts.1 ▸ starts) isMark

private theorem composeFrom_parting (parting : Parting dot) (rest : List Nat) :
    composeFrom dot [] rest = dot :: assemble rest := by
  rw [composeFrom_of_inert parting.first]
  cases rest with
  | nil => rfl
  | cons code rest =>
      by_cases starter : markClass code = 0
      · simp [behindInert, starter]
      · have own := composeFrom_of_inert (compose?_of_mark starter) [] rest
        rw [assemble, own, behindInert, List.takeWhile_cons_of_pos (by simp [starter]),
          List.dropWhile_cons_of_pos (by simp [starter])]
        rfl

/-- What stands on the two sides of a parting character is composed on its own. -/
theorem compose_append_cons (parting : Parting dot) (codes rest : List Nat) :
    compose (codes ++ dot :: rest) = compose codes ++ dot :: compose rest := by
  rw [compose_eq, compose_eq, compose_eq, apart_append_cons parting]
  cases parts : apart codes with
  | nil => exact composeFrom_parting parting _
  | cons first others =>
      rw [List.cons_append, assemble, composeFrom_append_cons parting, composeFrom_parting parting]
      rfl

private theorem compose?_low {first second whole : Nat}
    (composes : compose? first second = some whole) :
    0x3C ≤ first ∧ 0x300 ≤ second ∧ 0xC0 ≤ whole := by
  rw [compose?] at composes
  split at composes
  · next syllable joined =>
    have same := Option.some.inj composes
    rcases joinSyllable?_eq_some joined with
      ⟨lead, vowel, -, -, rfl, rfl, result⟩ | ⟨number, trail, syllable, -, -, -, rfl, result⟩
    · omega
    · have range := syllable?_eq_some.mp syllable
      omega
  · obtain ⟨c, found, rfl⟩ := Option.map_eq_some_iff.mp composes
    have parts := List.find?_some found
    have sound := composed_sound.2 c (List.mem_of_find?_eq_some found)
    rw [Bool.and_eq_true, beq_iff_eq, beq_iff_eq] at parts
    exact ⟨parts.1 ▸ sound.low, parts.2 ▸ sound.high, sound.large⟩

/-- The dot between labels is a parting character. -/
theorem parting_dot : Parting 0x2E where
  starter := if_pos (by decide)
  single := by rw [maxDepth, takeApart_succ, if_pos (by decide)]
  first other := by
    cases composes : compose? 0x2E other with
    | none => rfl
    | some whole => exact absurd (compose?_low composes).1 (by decide)
  second other := by
    cases composes : compose? other 0x2E with
    | none => rfl
    | some whole => exact absurd (compose?_low composes).2.1 (by decide)

/-! ## Characters of composed texts -/

/-- What is closed under taking apart and composing holds of a composed text. -/
theorem forall_mem_compose {p : Nat → Prop} (held : ∀ code ∈ codes, p code)
    (parts : ∀ code, p code → ∀ part ∈ takeApart maxDepth code, p part)
    (wholes : ∀ first second whole, compose? first second = some whole → p whole) :
    ∀ code ∈ compose codes, p code := by
  have joined : ∀ (base : Nat) (marks rest : List Nat), p base → (∀ m ∈ marks, p m) →
      (∀ c ∈ rest, p c) → ∀ c ∈ composeFrom base marks rest, p c := by
    intro base marks rest own waiting later
    fun_induction composeFrom base marks rest with
    | case1 base marks => exact List.forall_mem_cons.mpr ⟨own, waiting⟩
    | case2 base marks code rest isFree whole composes ih =>
        obtain ⟨-, later⟩ := List.forall_mem_cons.mp later
        split at composes
        · exact ih (wholes _ _ _ composes) waiting later
        · cases composes
    | case3 base marks code rest isFree apart starter ih =>
        obtain ⟨next, later⟩ := List.forall_mem_cons.mp later
        exact List.forall_mem_append.mpr
          ⟨List.forall_mem_cons.mpr ⟨own, waiting⟩, ih next (List.forall_mem_nil _) later⟩
    | case4 base marks code rest isFree apart isMark ih =>
        obtain ⟨next, later⟩ := List.forall_mem_cons.mp later
        exact ih own (List.forall_mem_append.mpr ⟨waiting, List.forall_mem_singleton.mpr next⟩)
          later
  have inside : ∀ part ∈ apart codes, p part := by
    intro part member
    obtain ⟨code, within, own⟩ := mem_apart.mp member
    exact parts code (held code within) part own
  rw [compose_eq]
  cases apartCodes : apart codes with
  | nil => exact List.forall_mem_nil _
  | cons first rest =>
      rw [apartCodes] at inside
      obtain ⟨own, others⟩ := List.forall_mem_cons.mp inside
      exact joined first [] rest own (List.forall_mem_nil _) others

/-- The smallest characters are no parts of others. -/
theorem eq_or_le_of_mem_takeApart {depth part : Nat} (member : part ∈ takeApart depth code) :
    part = code ∨ 0x3C ≤ part := by
  induction depth generalizing code with
  | zero => exact .inl (List.mem_singleton.mp member)
  | succ depth ih =>
      rw [takeApart_succ] at member
      split at member
      · exact .inl (List.mem_singleton.mp member)
      · split at member
        · next number syllable =>
          have jamo := jamo_of_mem_syllableParts (syllable?_eq_some.mp syllable).2 member
          omega
        · split at member
          · next c found =>
            have sound := composed_sound.2 c (List.mem_of_find?_eq_some found)
            have low := sound.low
            have high := sound.high
            rcases List.mem_append.mp member with inside | mark
            · have base := ih inside
              omega
            · rw [List.mem_singleton.mp mark]
              omega
          · exact .inl (List.mem_singleton.mp member)

/-- Composing makes no dots. -/
theorem dot_notMem_compose (absent : 0x2E ∉ codes) : 0x2E ∉ compose codes := by
  have other : ∀ code ∈ compose codes, code ≠ 0x2E := by
    refine forall_mem_compose (fun code member same => absent (same ▸ member)) ?_ ?_
    · intro code own part member
      have low := eq_or_le_of_mem_takeApart member
      omega
    · intro first second whole composes
      have high := (compose?_low composes).2.2
      omega
  exact fun member => other 0x2E member rfl

private theorem isPlain_syllableParts {number : Nat} (small : number < 11172) :
    ∀ part ∈ syllableParts number, isPlain part = true := by
  have lead : isPlain (0x1100 + number / 588) = true :=
    isPlain_of_hangul (0x1100, 0x1112) (by decide) ⟨by omega, by omega⟩
  have vowel : isPlain (0x1161 + number % 588 / 28) = true :=
    isPlain_of_hangul (0x1161, 0x1175) (by decide) ⟨by omega, by omega⟩
  have trail : ∀ part ∈ (if number % 28 = 0 then [] else [0x11A7 + number % 28]),
      isPlain part = true := by
    split
    · exact List.forall_mem_nil _
    · exact List.forall_mem_singleton.mpr
        (isPlain_of_hangul (0x11A8, 0x11C2) (by decide) ⟨by omega, by omega⟩)
  exact List.forall_mem_append.mpr
    ⟨List.forall_mem_cons.mpr ⟨lead, List.forall_mem_singleton.mpr vowel⟩, trail⟩

private theorem isPlain_takeApart (plain : isPlain code = true) (depth : Nat) :
    ∀ part ∈ takeApart depth code, isPlain part = true := by
  induction depth generalizing code with
  | zero => exact List.forall_mem_singleton.mpr plain
  | succ depth ih =>
      rw [takeApart_succ]
      split
      · exact List.forall_mem_singleton.mpr plain
      · split
        · next number syllable => exact isPlain_syllableParts (syllable?_eq_some.mp syllable).2
        · split
          · next c found =>
            have sound := (composed_sound.2 c (List.mem_of_find?_eq_some found)).plain
            exact List.forall_mem_append.mpr ⟨ih sound.2.1, List.forall_mem_singleton.mpr sound.2.2⟩
          · exact List.forall_mem_singleton.mpr plain

/-- What is composed of characters that stand for themselves is made of such characters. -/
theorem isPlain_compose (plain : ∀ code ∈ codes, isPlain code = true) :
    ∀ code ∈ compose codes, isPlain code = true := by
  refine forall_mem_compose plain (fun code own => isPlain_takeApart own maxDepth) ?_
  intro first second whole composes
  rw [compose?] at composes
  split at composes
  · next syllable joined =>
    rw [← Option.some.inj composes]
    refine isPlain_of_hangul (0xAC00, 0xD7A3) (by decide) ?_
    rcases joinSyllable?_eq_some joined with
      ⟨lead, vowel, leads, vowels, -, -, same⟩ |
        ⟨number, trail, syllable, isOpen, -, small, -, same⟩
    · constructor <;> (simp only; omega)
    · have range := syllable?_eq_some.mp syllable
      constructor <;> (simp only; omega)
  · obtain ⟨c, found, rfl⟩ := Option.map_eq_some_iff.mp composes
    exact (composed_sound.2 c (List.mem_of_find?_eq_some found)).plain.1

/-- Composing leaves ASCII as it is. -/
theorem compose_of_ascii (ascii : ∀ code ∈ codes, code < 0x80) : compose codes = codes := by
  have starter {code : Nat} (own : code < 0x80) : markClass code = 0 := if_pos (by omega)
  have atomic : Atomic codes := fun code member => by
    rw [maxDepth, takeApart_succ, if_pos]
    have own := ascii code member
    omega
  have stacked (done : List Nat) : stack done codes = codes.reverse ++ done := by
    induction codes generalizing done with
    | nil => rfl
    | cons code codes ih =>
        obtain ⟨own, others⟩ := List.forall_mem_cons.mp ascii
        have step : stack done (code :: codes) = stack (insertMark code done) codes := rfl
        rw [step, insertMark_of_starter (starter own),
          ih others (List.forall_mem_cons.mp atomic).2, List.reverse_cons, List.append_assoc]
        rfl
  have joined (first : Nat) (rest : List Nat) (others : ∀ code ∈ rest, code < 0x80) :
      composeFrom first [] rest = first :: rest := by
    induction rest generalizing first with
    | nil => rfl
    | cons code rest ih =>
        obtain ⟨own, later⟩ := List.forall_mem_cons.mp others
        have none : compose? first code = .none := by
          cases composes : compose? first code with
          | none => rfl
          | some whole =>
              have high := (compose?_low composes).2.1
              omega
        simp only [composeFrom, none, ite_self]
        rw [if_pos (starter own), ih code later]
        rfl
  rw [compose_eq, apart, atomic.flatMap, orderMarks_eq, stacked, List.append_nil,
    List.reverse_reverse]
  cases codes with
  | nil => rfl
  | cons first rest => exact joined first rest (List.forall_mem_cons.mp ascii).2

end ArticleMarkdown.Url.Domain
