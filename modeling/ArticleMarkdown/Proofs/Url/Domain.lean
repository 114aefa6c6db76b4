import ArticleMarkdown.Proofs.Url.Composition
import ArticleMarkdown.Proofs.Url.Host
import ArticleMarkdown.Proofs.Url.Punycode

/-!
# Domains that are read again

The ASCII form of a domain is read again as itself (`toAscii?_toAscii?`): each label is read from
its ASCII text as the same label (`Label.Settled`), be it ASCII, encoded in the domain, or encoded
by the writer.
-/

namespace ArticleMarkdown

open Text

namespace Url.Domain

variable {t domain piece : Text} {label : Label} {labels : List Label} {cs : List Nat}

/-! ## Code points and their texts -/

private theorem ofCodes_codes (t : Text) : ofCodes (codes t) = t := by
  rw [ofCodes, codes, List.map_map]
  exact (List.map_congr_left fun c _ => Char.ofNat_toNat c).trans (List.map_id t)

private theorem isValidChar_of_mem_codes : ∀ code ∈ codes t, code.isValidChar :=
  List.forall_mem_map.mpr fun c _ => c.valid

private theorem codes_ofCodes (valid : ∀ code ∈ cs, code.isValidChar) : codes (ofCodes cs) = cs :=
  Punycode.map_toNat_ofNat valid

private theorem codes_join_cons (piece : Text) {pieces : List Text} (filled : pieces ≠ []) :
    codes (join ['.'] (piece :: pieces)) = codes piece ++ 0x2E :: codes (join ['.'] pieces) := by
  rw [join_cons_of_ne_nil _ _ filled, codes, List.map_append, List.map_append, List.append_assoc]
  rfl

private theorem isAscii_codes (ascii : ∀ c ∈ t, c.toNat < 0x80) : isAscii (codes t) = true :=
  List.all_eq_true.mpr (List.forall_mem_map.mpr fun c member => decide_eq_true (ascii c member))

private theorem dot_notMem_codes (absent : '.' ∉ t) : 0x2E ∉ codes t := by
  intro member
  obtain ⟨c, inside, same⟩ := List.mem_map.mp member
  exact absent ((Char.toNat_inj.mp same : c = '.') ▸ inside)

/-! ## Composed labels -/

/-- A list is cut in one way only where an element stands first. -/
theorem cut_unique {mark : Nat} {before before' after after' : List Nat} (absent : mark ∉ before)
    (absent' : mark ∉ before') (same : before ++ mark :: after = before' ++ mark :: after') :
    before = before' ∧ after = after' := by
  induction before generalizing before' with
  | nil =>
      cases before' with
      | nil => exact ⟨rfl, (List.cons.inj same).2⟩
      | cons code before' =>
          exact absurd ((List.cons.inj same).1 ▸ List.mem_cons_self) absent'
  | cons code before ih =>
      cases before' with
      | nil => exact absurd ((List.cons.inj same).1 ▸ List.mem_cons_self) absent
      | cons code' before' =>
          obtain ⟨rfl, later⟩ := List.cons.inj same
          obtain ⟨rfl, rest⟩ := ih (fun member => absent (List.mem_cons_of_mem _ member))
            (fun member => absent' (List.mem_cons_of_mem _ member)) later
          exact ⟨rfl, rest⟩

/-- Each label of a composed domain is composed. -/
theorem compose_of_mem_pieces {pieces : List Text} (whole : ∀ piece ∈ pieces, '.' ∉ piece)
    (composed : compose (codes (join ['.'] pieces)) = codes (join ['.'] pieces)) :
    ∀ piece ∈ pieces, compose (codes piece) = codes piece := by
  induction pieces with
  | nil => exact List.forall_mem_nil _
  | cons piece pieces ih =>
      cases pieces with
      | nil => exact List.forall_mem_singleton.mpr composed
      | cons next others =>
          obtain ⟨own, later⟩ := List.forall_mem_cons.mp whole
          rw [codes_join_cons piece (List.cons_ne_nil next others),
            compose_append_cons parting_dot] at composed
          have bounded : 0x2E ∉ codes piece := dot_notMem_codes own
          obtain ⟨same, rest⟩ := cut_unique (dot_notMem_compose bounded) bounded composed
          exact List.forall_mem_cons.mpr ⟨same, ih later rest⟩

/-! ## Labels -/

/-- A character of a domain that is read again. -/
def IsDomainChar (c : Char) : Prop :=
  (c.toNat < 0x80 ∧ isPlain c.toNat = true) ∧ isForbidden c = false

instance (c : Char) : Decidable (IsDomainChar c) :=
  inferInstanceAs (Decidable ((_ ∧ _) ∧ _))

/-- A label that is read again from its ASCII text. -/
structure Label.Settled (label : Label) : Prop where
  chars : ∀ c ∈ label.ascii, IsDomainChar c
  whole : '.' ∉ label.ascii
  again : Label.ofCodes? (Domain.codes label.ascii) = some label

private theorem ofCodes?_of_ascii (ascii : ∀ c ∈ piece, c.toNat < 0x80)
    (plain : dropPrefix? encodedStart piece = none) :
    Label.ofCodes? (codes piece) = some ⟨codes piece, piece⟩ := by
  simp only [Label.ofCodes?, ofCodes_codes, plain, if_pos (isAscii_codes ascii)]

private theorem ofCodes?_of_encoded {encoded : Text} (ascii : ∀ c ∈ encoded, c.toNat < 0x80) :
    Label.ofCodes? (codes (encodedStart ++ encoded)) = Label.ofEncoded? encoded := by
  have start : ∀ c ∈ encodedStart ++ encoded, c.toNat < 0x80 :=
    List.forall_mem_append.mpr ⟨List.all_iff_forall_prop.mp (by decide), ascii⟩
  simp only [Label.ofCodes?, ofCodes_codes, dropPrefix?_append, if_pos (isAscii_codes start)]

/-- A label in folded and composed form settles. -/
theorem settled_of_ofCodes? (plain : ∀ c ∈ piece, isPlain c.toNat = true)
    (clear : ∀ c ∈ piece, isForbidden c = false) (whole : '.' ∉ piece)
    (composed : compose (codes piece) = codes piece)
    (found : Label.ofCodes? (codes piece) = some label) : label.Settled := by
  have written (ascii : isAscii (codes piece) = true) (same : label.ascii = piece) :
    label.Settled := by
    have small := List.forall_mem_map.mp (List.all_eq_true.mp ascii)
    refine ⟨?_, same ▸ whole, same ▸ found⟩
    rw [same]
    exact fun c member => ⟨⟨of_decide_eq_true (small c member), plain c member⟩, clear c member⟩
  have read := found
  simp only [Label.ofCodes?, ofCodes_codes] at read
  split at read
  · next encoded dropped =>
    split at read
    · next ascii =>
      refine written ascii ?_
      obtain ⟨cs, -, made⟩ := Option.bind_eq_some_iff.mp read
      split at made
      · cases made
      · cases made
        exact (append_of_dropPrefix? dropped).symm
    · cases read
  · next dropped =>
    cases read
    by_cases ascii : isAscii (codes piece) = true
    · exact written ascii (if_pos ascii)
    · have inStart : ∀ c ∈ encodedStart, IsDomainChar c ∧ c ≠ '.' :=
        List.all_iff_forall_prop.mp (by decide)
      have inEncoded : ∀ c ∈ Punycode.encode (codes piece), IsDomainChar c ∧ c ≠ '.' := by
        refine Punycode.forall_mem_encode (List.forall_mem_map.mpr fun c member small => ?_)
          (by decide) (List.all_iff_forall_prop.mp (by decide))
        rw [Char.ofNat_toNat]
        exact ⟨⟨⟨small, plain c member⟩, clear c member⟩, fun same => whole (same ▸ member)⟩
      have inside := List.forall_mem_append.mpr ⟨inStart, inEncoded⟩
      rw [if_neg ascii]
      refine ⟨fun c member => (inside c member).1, fun member => (inside '.' member).2 rfl, ?_⟩
      have plain' : (codes piece).all isPlain = true :=
        List.all_eq_true.mpr (List.forall_mem_map.mpr plain)
      rw [ofCodes?_of_encoded fun c member => (inEncoded c member).1.1.1, Label.ofEncoded?,
        Punycode.decode?_encode isValidChar_of_mem_codes, Option.bind_some, if_neg]
      simp [ascii, plain', composed]

/-! ## Domains -/

private theorem fold?_of_ascii {code : Nat} (small : code < 0x80) (plain : isPlain code = true) :
    fold? code = some [code] := by
  have lower : ¬(decide (0x41 ≤ code) && decide (code ≤ 0x5A)) = true := by
    rw [isPlain, if_pos small, Bool.not_eq_true'] at plain
    exact Bool.eq_false_iff.mp plain
  rw [fold?, if_pos small, if_neg lower]

private theorem isDomainChar_of_settled (settled : ∀ label ∈ labels, label.Settled) :
    ∀ c ∈ join ['.'] (labels.map (·.ascii)), IsDomainChar c := by
  intro c member
  rcases mem_join member with dot | ⟨piece, listed, inside⟩
  · rw [List.mem_singleton.mp dot]
    decide
  · obtain ⟨label, own, rfl⟩ := List.mem_map.mp listed
    exact (settled label own).chars c inside

/-- A domain of settled labels is read as itself. -/
theorem toAscii?_of_settled (filled : labels ≠ []) (settled : ∀ label ∈ labels, label.Settled)
    (allowed : areAllowed labels = true) :
    toAscii? (join ['.'] (labels.map (·.ascii))) = some (join ['.'] (labels.map (·.ascii))) := by
  have chars := isDomainChar_of_settled settled
  have split : splitOn '.' (join ['.'] (labels.map (·.ascii))) = labels.map (·.ascii) :=
    splitBy_join (p := (· == '.')) rfl (mt List.map_eq_nil_iff.mp filled) <|
      List.forall_mem_map.mpr fun label member c inside =>
        beq_eq_false_iff_ne.mpr fun same => (settled label member).whole (same ▸ inside)
  set domain := join ['.'] (labels.map (·.ascii))
  have folded : (codes domain).mapM fold? = some ((codes domain).map fun code => [code]) := by
    rw [mapM_eq_some_iff, List.map_map]
    refine List.map_congr_left (List.forall_mem_map.mpr fun c member => ?_)
    exact fold?_of_ascii (chars c member).1.1 (chars c member).1.2
  have composed : compose ((codes domain).map fun code => [code]).flatten = codes domain := by
    have single : ((codes domain).map fun code => [code]).flatten = codes domain := by
      rw [← List.flatMap_def, List.flatMap_singleton']
    rw [single]
    exact compose_of_ascii (List.forall_mem_map.mpr fun c member => (chars c member).1.1)
  have clear : ¬domain.any isForbidden = true := by
    rw [List.any_eq_true]
    rintro ⟨c, member, forbidden⟩
    exact Bool.false_ne_true ((chars c member).2.symm.trans forbidden)
  have read : labels? (codes domain) = some labels := by
    rw [labels?, ofCodes_codes, split, mapM_eq_some_iff, List.map_map, List.map_map]
    exact List.map_congr_left fun label member => (settled label member).again
  simp only [toAscii?, folded, Option.bind_some, composed, ofCodes_codes, if_neg clear, read,
    if_pos allowed]
  rfl

/-- The ASCII form of a domain consists of settled labels. -/
theorem exists_labels_of_toAscii? (found : toAscii? t = some domain) :
    ∃ labels : List Label, labels ≠ [] ∧ (∀ label ∈ labels, label.Settled) ∧
      areAllowed labels = true ∧
      domain = join ['.'] (labels.map (·.ascii)) := by
  obtain ⟨folded, folding, rest⟩ := Option.bind_eq_some_iff.mp found
  have plain : ∀ code ∈ compose folded.flatten, isPlain code = true := by
    refine isPlain_compose fun code member => ?_
    obtain ⟨target, listed, inside⟩ := List.mem_flatten.mp member
    have reached := mapM_eq_some_iff.mp folding ▸ List.mem_map_of_mem (f := some) listed
    obtain ⟨source, -, folds⟩ := List.mem_map.mp reached
    exact isPlain_of_fold? folds code inside
  have composed := compose_compose folded.flatten
  simp only at rest
  set whole := compose folded.flatten
  have same : codes (ofCodes whole) = whole :=
    codes_ofCodes fun code member => isValidChar_of_isPlain (plain code member)
  split at rest
  · cases rest
  · next clear =>
    obtain ⟨labels, read, rest⟩ := Option.bind_eq_some_iff.mp rest
    split at rest
    · next allowed =>
      cases rest
      rw [labels?, mapM_eq_some_iff, List.map_map] at read
      refine ⟨labels, ?_, fun label member => ?_, allowed, rfl⟩
      · rintro rfl
        exact splitBy_ne_nil _ _ (List.map_eq_nil_iff.mp read)
      · obtain ⟨piece, listed, own⟩ :=
          List.mem_map.mp (read ▸ List.mem_map_of_mem (f := some) member)
        have inside : ∀ c ∈ piece, c ∈ ofCodes whole := fun c member =>
          (infix_of_mem_splitBy listed).subset member
        have pieces : join ['.'] (splitOn '.' (ofCodes whole)) = ofCodes whole := join_splitOn _ _
        refine settled_of_ofCodes? (fun c member => ?_) (fun c member => ?_)
          (mark_notMem_of_mem_splitOn listed) ?_ own
        · exact plain c.toNat (same ▸ List.mem_map_of_mem (inside c member))
        · exact Bool.eq_false_iff.mpr fun forbidden =>
            clear (List.any_eq_true.mpr ⟨c, inside c member, forbidden⟩)
        · refine compose_of_mem_pieces (fun piece => mark_notMem_of_mem_splitOn) ?_ piece listed
          rw [pieces, same, composed]
    · cases rest

/-- A domain in ASCII holds no character that a domain may not hold. -/
theorem toAscii?_clear (found : toAscii? t = some domain) :
    ∀ c ∈ domain, c.toNat < 0x80 ∧ isForbidden c = false := by
  obtain ⟨labels, -, settled, -, rfl⟩ := exists_labels_of_toAscii? found
  exact fun c member => ⟨(isDomainChar_of_settled settled c member).1.1,
    (isDomainChar_of_settled settled c member).2⟩

/-- The ASCII form of a domain is its own ASCII form. -/
theorem toAscii?_toAscii? (found : toAscii? t = some domain) : toAscii? domain = some domain := by
  obtain ⟨labels, filled, settled, allowed, rfl⟩ := exists_labels_of_toAscii? found
  exact toAscii?_of_settled filled settled allowed

/-! ## Domains of numbers -/

private theorem joinersSeen_of_ascii (ascii : ∀ code ∈ cs, code < 0x80) (before : List Nat) :
    joinersSeen before cs = true := by
  induction cs generalizing before with
  | nil => rfl
  | cons code cs ih =>
      obtain ⟨own, others⟩ := List.forall_mem_cons.mp ascii
      rw [joinersSeen, if_neg (by rw [joiner]; omega), if_neg (by rw [nonJoiner]; omega), ih others]
      rfl

private theorem isReadable_of_ascii {label : Label} (ascii : ∀ code ∈ label.codes, code < 0x80) :
    label.isReadable = true := by
  have low : ¬label.codes.head?.any isCombining = true := by
    rw [Option.any_eq_true]
    rintro ⟨code, first, combining⟩
    have own := ascii code (List.mem_of_head? first)
    rw [isCombining, Bool.and_eq_true, decide_eq_true_eq] at combining
    omega
  rw [Label.isReadable, joinersSeen_of_ascii ascii, Bool.eq_false_iff.mpr low]
  rfl

private theorem areAllowed_of_ascii (ascii : ∀ label ∈ labels, ∀ code ∈ label.codes, code < 0x80) :
    areAllowed labels = true := by
  have readable : labels.all Label.isReadable = true :=
    List.all_eq_true.mpr fun label member => isReadable_of_ascii (ascii label member)
  have forward : ¬labels.any (fun label => label.directions.any Direction.isBackward) = true := by
    rw [List.any_eq_true]
    rintro ⟨label, member, backward⟩
    obtain ⟨direction, listed, own⟩ := List.any_eq_true.mp backward
    obtain ⟨code, inside, rfl⟩ := List.mem_map.mp listed
    exact Bool.false_ne_true ((isBackward_of_ascii (ascii label member code inside)).symm.trans own)
  rw [areAllowed, readable, Bool.eq_false_iff.mpr forward]
  rfl

/-- An address of numbers is its own ASCII form. -/
theorem toAscii?_of_numeric (numeric : ∀ c ∈ t, isAsciiDigit c = true ∨ c = '.') :
    toAscii? t = some t := by
  have digits : ∀ piece ∈ splitOn '.' t, ∀ c ∈ piece, isAsciiDigit c = true := by
    intro piece listed c member
    rcases numeric c ((infix_of_mem_splitBy listed).subset member) with digit | rfl
    · exact digit
    · exact absurd member (mark_notMem_of_mem_splitOn listed)
  have chars : ∀ piece ∈ splitOn '.' t, ∀ c ∈ piece, IsDomainChar c := fun piece listed c member =>
    forall_ascii (p := fun c => isAsciiDigit c = true → IsDomainChar c) (by decide)
      (ascii_of_hexDigitValue? (by rw [hexDigitValue?, if_pos (digits piece listed c member)]; rfl))
      (digits piece listed c member)
  set labels := (splitOn '.' t).map fun piece => Label.mk (codes piece) piece with labelsEq
  have texts : labels.map (·.ascii) = splitOn '.' t := by
    rw [labelsEq, List.map_map]
    exact List.map_id _
  have settled : ∀ label ∈ labels, label.Settled := by
    refine List.forall_mem_map.mpr fun piece listed =>
      ⟨chars piece listed, mark_notMem_of_mem_splitOn listed, ?_⟩
    refine ofCodes?_of_ascii (fun c member => (chars piece listed c member).1.1) ?_
    cases dropped : dropPrefix? encodedStart piece with
    | none => rfl
    | some rest =>
        have first : 'x' ∈ piece := by
          rw [append_of_dropPrefix? dropped]
          exact List.mem_append_left _ (by decide)
        exact absurd (digits piece listed 'x' first) (by decide)
  have allowed : areAllowed labels = true := areAllowed_of_ascii <|
    List.forall_mem_map.mpr fun piece listed =>
      List.forall_mem_map.mpr fun c member => (chars piece listed c member).1.1
  have filled : labels ≠ [] := mt List.map_eq_nil_iff.mp (splitBy_ne_nil _ _)
  have read := toAscii?_of_settled filled settled allowed
  rwa [texts, join_splitOn] at read

end Url.Domain
end ArticleMarkdown
