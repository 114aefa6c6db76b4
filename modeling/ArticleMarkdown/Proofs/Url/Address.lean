import ArticleMarkdown.Proofs.Text.Ink
import ArticleMarkdown.Proofs.Url.Authority
import Mathlib.Data.List.TakeDrop

/-!
# Addresses that are read again

The written form of an address is read as the same address, whatever query or fragment follows it
(`Address.read?_write_append`).
-/

namespace ArticleMarkdown

open Text

namespace Text

private theorem dropEndWhile_of_getLast? {p : Char → Bool} {t : Text}
    (ends : ∀ c ∈ t.getLast?, p c = false) :
    dropEndWhile p t = t := by
  rcases List.eq_nil_or_concat t with rfl | ⟨s, c, rfl⟩
  · rfl
  · rw [List.concat_eq_append] at ends ⊢
    have stays : p c = false := ends c List.getLast?_concat
    rw [dropEndWhile, List.reverse_append, List.reverse_singleton, List.singleton_append,
      List.dropWhile_cons_of_neg (by simp [stays]), List.reverse_cons, List.reverse_reverse]

private theorem dropWhile_of_head? {p : Char → Bool} {t : Text}
    (starts : ∀ c ∈ t.head?, p c = false) :
    t.dropWhile p = t := by
  cases t with
  | nil => rfl
  | cons c rest => exact List.dropWhile_cons_of_neg (by simp [starts c rfl])

private theorem takeWhile_append_of_head? {p : Char → Bool} {s t : Text}
    (inside : ∀ c ∈ s, p c = true)
    (ends : ∀ c ∈ t.head?, p c = false) : (s ++ t).takeWhile p = s := by
  rw [List.takeWhile_append_of_pos inside]
  cases t with
  | nil => exact List.append_nil s
  | cons c rest => rw [List.takeWhile_cons_of_neg (by simp [ends c rfl]), List.append_nil]

private theorem dropWhile_append_of_head? {p : Char → Bool} {s t : Text}
    (inside : ∀ c ∈ s, p c = true)
    (ends : ∀ c ∈ t.head?, p c = false) : (s ++ t).dropWhile p = t := by
  rw [List.dropWhile_append_of_pos inside, dropWhile_of_head? ends]

end Text

namespace Url

/-! ## Printed texts -/

/-- A text of ASCII without control characters, and without spaces at its ends. -/
structure Printed (t : Text) : Prop where
  chars : ∀ c ∈ t, 0x20 ≤ c.toNat ∧ c.toNat < 0x80
  first : ∀ c ∈ t.head?, c ≠ ' '
  last : ∀ c ∈ t.getLast?, c ≠ ' '

/-- What stands behind the path of an address: nothing, or a query or a fragment. -/
def IsTail (t : Text) : Prop :=
  ∀ c ∈ t.head?, endsPath c = true

private theorem IsTail.nil : IsTail [] :=
  fun _ none => (Option.not_mem_none _ none).elim

namespace Printed

variable {t tail : Text}

private theorem isSpace_eq_false {c : Char} (printed : 0x20 ≤ c.toNat ∧ c.toNat < 0x80)
    (solid : c ≠ ' ') :
    isSpace c = false := by
  have other : c.toNat ≠ 0x20 := fun same => solid (Char.toNat_inj.mp same)
  simp only [isSpace, Bool.or_eq_false_iff, Bool.and_eq_false_iff, beq_eq_false_iff_ne,
    decide_eq_false_iff_not]
  omega

private theorem trim_eq (printed : Printed t) : trim t = t := by
  have first : ∀ c ∈ t.head?, isSpace c = false := fun c starts =>
    isSpace_eq_false (printed.chars c (List.mem_of_head? starts)) (printed.first c starts)
  have last : ∀ c ∈ t.getLast?, isSpace c = false := fun c ends =>
    isSpace_eq_false (printed.chars c (List.mem_of_getLast? ends)) (printed.last c ends)
  rw [trim, trimStart, dropWhile_of_head? first, trimEnd, dropEndWhile_of_getLast? last]

private theorem of_solid (solid : ∀ c ∈ t, 0x20 < c.toNat ∧ c.toNat < 0x80) : Printed t where
  chars c member := ⟨(solid c member).1.le, (solid c member).2⟩
  first c starts := by
    rintro rfl
    exact absurd (solid ' ' (List.mem_of_head? starts)).1 (by decide)
  last c ends := by
    rintro rfl
    exact absurd (solid ' ' (List.mem_of_getLast? ends)).1 (by decide)

/-- Preparing an address changes nothing before its query or fragment. -/
theorem prepare_append (printed : Printed t) (filled : t ≠ []) (ends : IsTail tail) :
    ∃ tail', IsTail tail' ∧ Address.prepare (t ++ tail) = t ++ tail' := by
  have solid : ∀ c ∈ t, c ≠ ' ' → decide (c.toNat ≤ 0x20) = false := fun c member other => by
    have printed := printed.chars c member
    have code : c.toNat ≠ 0x20 := fun same => other (Char.toNat_inj.mp same)
    exact decide_eq_false (by omega)
  have start : (t ++ tail).dropWhile (fun c => decide (c.toNat ≤ 0x20)) = t ++ tail := by
    refine dropWhile_of_head? fun c starts => ?_
    rw [List.head?_append_of_ne_nil _ filled] at starts
    exact solid c (List.mem_of_head? starts) (printed.first c starts)
  have stop : dropEndWhile (fun c => decide (c.toNat ≤ 0x20)) (t ++ tail) =
      t ++ dropEndWhile (fun c => decide (c.toNat ≤ 0x20)) tail := by
    rw [dropEndWhile_append]
    split
    · next gone =>
      rw [List.isEmpty_iff.mp gone, List.append_nil]
      exact dropEndWhile_of_getLast? fun c ends =>
        solid c (List.mem_of_getLast? ends) (printed.last c ends)
    · rfl
  have kept : t.filter (fun c => !Address.isIgnored c) = t := by
    refine List.filter_eq_self.mpr fun c member => ?_
    have printed := (printed.chars c member).1
    have other : ∀ d : Char, d.toNat < 0x20 → c ≠ d := by
      rintro d small rfl
      omega
    simp [Address.isIgnored, other]
  refine ⟨(dropEndWhile (fun c => decide (c.toNat ≤ 0x20)) tail).filter fun c =>
    !Address.isIgnored c, ?_, ?_⟩
  · cases tail with
    | nil => exact .nil
    | cons c rest =>
        have mark := ends c rfl
        have shown : (!Address.isIgnored c) = true := by
          rcases (Bool.or_eq_true _ _).mp mark with same | same <;> rw [beq_iff_eq.mp same] <;> rfl
        rcases dropEndWhile_cons_cases (fun c => decide (c.toNat ≤ 0x20)) c rest with
          gone | ⟨left, stays⟩
        · rw [gone]
          exact .nil
        · rw [stays, List.filter_cons_of_pos (p := fun c => !Address.isIgnored c) shown]
          rintro _ ⟨⟩
          exact mark
  · show (dropEndWhile _ ((t ++ tail).dropWhile _)).filter _ = _
    rw [start, stop, List.filter_append, kept]

end Printed

namespace Address

/-! ## Schemes -/

/-- A character that a scheme may hold. -/
def isSchemeChar (c : Char) : Bool :=
  isAsciiAlphanumeric c || c == '+' || c == '-' || c == '.'

/-- A scheme in lower case. -/
structure IsScheme (scheme : Text) : Prop where
  chars : ∀ c ∈ scheme, isSchemeChar c = true
  letter : ∃ first rest, scheme = first :: rest ∧ isAsciiLetter first = true
  lower : Text.lower scheme = scheme

variable {t rest tail scheme : Text} {family : Family} {authority : Authority}
  {segments : List Text}

private theorem solid_of_isAuthorityChar {c : Char} (clear : isAuthorityChar c = true) :
    0x20 < c.toNat ∧ c.toNat < 0x80 := by
  rw [isAuthorityChar, Bool.and_eq_true, Bool.and_eq_true, decide_eq_true_eq,
    decide_eq_true_eq] at clear
  exact clear.1

private theorem isSeparator_of_isAuthorityChar (family : Family) {c : Char}
    (clear : isAuthorityChar c = true) :
    family.isSeparator c = false := by
  refine forall_ascii (p := fun c => isAuthorityChar c = true → family.isSeparator c = false) ?_
    (solid_of_isAuthorityChar clear).2 clear
  cases family <;> decide +kernel

private theorem endsPath_of_isAuthorityChar {c : Char} (clear : isAuthorityChar c = true) :
    endsPath c = false := by
  refine forall_ascii (p := fun c => isAuthorityChar c = true → endsPath c = false) ?_
    (solid_of_isAuthorityChar clear).2 clear
  decide +kernel

private theorem ascii_of_isSchemeChar {c : Char} (inScheme : isSchemeChar c = true) :
    c.toNat < 0x80 := by
  by_contra beyond
  have past := not_le_of_beyond beyond
  have other (d : Char) (ascii : d.toNat < 0x80) : c ≠ d := by
    rintro rfl
    exact beyond ascii
  simp [isSchemeChar, isAsciiAlphanumeric, isAsciiLetter, isAsciiDigit, past, other] at inScheme

private theorem isSchemeChar_lowerChar {c : Char} (inScheme : isSchemeChar c = true) :
    isSchemeChar (lowerChar c) = true ∧ lowerChar (lowerChar c) = lowerChar c ∧
      (isAsciiLetter c = true → isAsciiLetter (lowerChar c) = true) := by
  refine forall_ascii (p := fun c => isSchemeChar c = true → isSchemeChar (lowerChar c) = true ∧
    lowerChar (lowerChar c) = lowerChar c ∧
      (isAsciiLetter c = true → isAsciiLetter (lowerChar c) = true)) ?_
    (ascii_of_isSchemeChar inScheme) inScheme
  decide +kernel

private theorem splitScheme?_eq (t : Text) :
    splitScheme? t = match t.takeWhile isSchemeChar, t.dropWhile isSchemeChar with
    | first :: _, ':' :: rest =>
      if isAsciiLetter first then some (Text.lower (t.takeWhile isSchemeChar), rest) else none
    | _, _ => none :=
  rfl

private theorem isScheme_of_splitScheme? (split : splitScheme? t = some (scheme, rest)) :
    IsScheme scheme := by
  have taken : ∀ c ∈ t.takeWhile isSchemeChar, isSchemeChar c = true :=
    List.all_eq_true.mp List.all_takeWhile
  rw [splitScheme?_eq] at split
  split at split
  · next first others left given behind =>
    split at split
    · next letter =>
      cases split
      have inScheme := taken first (given ▸ List.mem_cons_self)
      refine ⟨List.forall_mem_map.mpr fun c member => (isSchemeChar_lowerChar (taken c member)).1,
        ⟨lowerChar first, others.map lowerChar, ?_, (isSchemeChar_lowerChar inScheme).2.2 letter⟩,
        ?_⟩
      · rw [given]
        rfl
      · rw [Text.lower, Text.lower, List.map_map]
        exact List.map_congr_left fun c member => (isSchemeChar_lowerChar (taken c member)).2.1
    · cases split
  · cases split

private theorem IsScheme.splitScheme?_append (named : IsScheme scheme) (rest : Text) :
    splitScheme? (scheme ++ ':' :: rest) = some (scheme, rest) := by
  obtain ⟨first, others, rfl, letter⟩ := named.letter
  have taken : (first :: others ++ ':' :: rest).takeWhile isSchemeChar = first :: others :=
    takeWhile_append_of_head? named.chars fun c starts => by cases starts; decide
  have left : (first :: others ++ ':' :: rest).dropWhile isSchemeChar = ':' :: rest :=
    dropWhile_append_of_head? named.chars fun c starts => by cases starts; decide
  rw [splitScheme?_eq, taken, left]
  simp only [letter, if_true, named.lower]

/-! ## Paths -/

private theorem endsPath_of_written (written : Path.Written family segments) :
    ∀ c ∈ (Path.segments segments).write, endsPath c = false := by
  have other : ∀ mark, isPathReserved mark = true → ∀ segment ∈ segments, mark ∉ segment := by
    intro mark reserved
    exact written.notMem (by rw [Path.isWritten, reserved]; rfl)
  intro c member
  obtain ⟨segment, listed, inside⟩ := List.mem_flatMap.mp member
  rcases List.mem_cons.mp inside with rfl | inside
  · rfl
  · rw [endsPath, Bool.or_eq_false_iff, beq_eq_false_iff_ne, beq_eq_false_iff_ne]
    constructor
    · rintro rfl
      exact other '?' (by decide) segment listed inside
    · rintro rfl
      exact other '#' (by decide) segment listed inside

/-! ## Addresses with an authority -/

private theorem readWithAuthority?_spec {a : Address}
    (read : readWithAuthority? scheme family t = some a) :
    ∃ authority segments, a = ⟨scheme, some authority, .segments segments⟩ ∧
      authority.Settled scheme family ∧ Path.Settled family segments ∧
      Path.Written family segments ∧
      (segments = [] → family = .other) := by
  simp only [readWithAuthority?] at read
  obtain ⟨⟨authority, skipped⟩, found, rfl⟩ := Option.map_eq_some_iff.mp read
  refine ⟨authority, _, rfl, Authority.settled_of_read? found, ?_⟩
  split
  · next bare =>
    rw [Bool.and_eq_true, beq_iff_eq] at bare
    exact ⟨.nil, .nil, fun _ => bare.2⟩
  · exact ⟨Path.settled_readSegments _ _, Path.written_readSegments _ _,
      fun none => absurd none (Path.readSegments_ne_nil _ _)⟩

private theorem readWithAuthority?_write (reached : authority.Settled scheme family)
    (settled : Path.Settled family segments) (written : Path.Written family segments)
    (filled : segments = [] → family = .other) (ends : IsTail tail) :
    readWithAuthority? scheme family
        (authority.write ++ ((Path.segments segments).write ++ tail)) =
      some ⟨scheme, some authority, .segments segments⟩ := by
  have slash := Path.isSeparator_slash family
  have inside : ∀ c ∈ authority.write, (!family.isSeparator c && !endsPath c) = true := by
    intro c member
    have clear := Authority.write_clear reached c member
    rw [isSeparator_of_isAuthorityChar family clear, endsPath_of_isAuthorityChar clear]
    rfl
  have behind : ∀ c ∈ ((Path.segments segments).write ++ tail).head?,
      (!family.isSeparator c && !endsPath c) = false := by
    cases segments with
    | nil =>
        intro c starts
        rw [ends c starts]
        simp
    | cons segment others =>
        rintro _ ⟨⟩
        rw [slash]
        rfl
  have span : spanAuthority family (authority.write ++ ((Path.segments segments).write ++ tail)) =
      (authority.write, (Path.segments segments).write ++ tail) := by
    rw [spanAuthority, List.span_eq_takeWhile_dropWhile, takeWhile_append_of_head? inside behind,
      dropWhile_append_of_head? inside behind]
  have path : ((Path.segments segments).write ++ tail).takeWhile (fun c => !endsPath c) =
      (Path.segments segments).write :=
    takeWhile_append_of_head? (fun c member => by rw [endsPath_of_written written c member]; rfl)
      fun c starts => by rw [ends c starts]; rfl
  simp only [readWithAuthority?, span, path, Authority.read?_write reached, Option.map_some,
    List.nil_append]
  cases segments with
  | nil =>
      rw [if_pos]
      simp [Path.write, filled rfl]
  | cons segment others =>
      have written' : (Path.segments (segment :: others)).write ≠ [] := List.cons_ne_nil _ _
      rw [if_neg (by simp [written']),
        Path.readSegments_write (List.cons_ne_nil _ _) settled written]

/-! ## Addresses of files -/

/-- The host and the path of a file, which are read as they are written. -/
structure Stored (host : Option Host) (segments : List Text) : Prop where
  named : ∀ h ∈ host, h.Proper ∧ Authority.readDomain? h.write = some h ∧
    h ≠ .name "localhost".toList
  away : host = none ∨ segments.head?.any Path.isDriveLetter = false
  filled : segments ≠ []
  settled : Path.Settled .file segments
  written : Path.Written .file segments
  pruned : dropLeadingEmpty segments = segments

private theorem stored_ofFilePath (scheme : Text) {host : Option Host}
    (proper : ∀ h ∈ host,
      h.Proper ∧ Authority.readDomain? h.write = some h ∧ h ≠ .name "localhost".toList) (t : Text) :
    ∃ host' segments,
      ofFilePath scheme host t = ⟨scheme, some ⟨[], [], host', none⟩, .segments segments⟩ ∧
      Stored host' segments := by
  have filled := dropLeadingEmpty_ne_nil (Path.readSegments_ne_nil .file t)
  have settled := settled_dropLeadingEmpty (Path.settled_readSegments .file t)
  have written := written_dropLeadingEmpty (Path.written_readSegments .file t)
  have pruned := dropLeadingEmpty_dropLeadingEmpty (Path.readSegments .file t)
  refine ⟨_, _, rfl, ?_, ?_, filled, settled, written, pruned⟩
  · split
    · exact fun _ none => (Option.not_mem_none _ none).elim
    · exact proper
  · split
    · exact .inl rfl
    · next home => exact .inr (Bool.eq_false_iff.mpr home)

private theorem stored_of_readFile? {a : Address} (read : readFile? scheme t = some a) :
    ∃ host segments, a = ⟨scheme, some ⟨[], [], host, none⟩, .segments segments⟩ ∧
      Stored host segments := by
  have local_ : ∀ h ∈ (none : Option Host),
      h.Proper ∧ Authority.readDomain? h.write = some h ∧ h ≠ .name "localhost".toList :=
    fun _ none => (Option.not_mem_none _ none).elim
  simp only [readFile?] at read
  split at read
  · split at read
    · split at read
      · cases read
        exact stored_ofFilePath scheme local_ _
      · obtain ⟨h, found, rfl⟩ := Option.map_eq_some_iff.mp read
        obtain ⟨proper, again⟩ := Host.readDomain?_spec found
        refine stored_ofFilePath scheme ?_ _
        split
        · exact local_
        · next remote =>
          rintro _ ⟨⟩
          exact ⟨proper, again, fun same => remote (beq_iff_eq.mpr same)⟩
    · cases read
      exact stored_ofFilePath scheme local_ _
  · cases read
    exact stored_ofFilePath scheme local_ _

private theorem ofFilePath_write {host : Option Host} (stored : Stored host segments)
    (scheme : Text) :
    ofFilePath scheme host (Path.dropSeparator .file (Path.segments segments).write) =
      ⟨scheme, some ⟨[], [], host, none⟩, .segments segments⟩ := by
  simp only [ofFilePath, Path.readSegments_write stored.filled stored.settled stored.written,
    stored.pruned]
  rcases stored.away with rfl | remote
  · rw [ite_self]
  · rw [remote, if_neg Bool.false_ne_true]

private theorem readFile?_write {host : Option Host} (stored : Stored host segments)
    (ends : IsTail tail) :
    readFile? scheme ('/' :: '/' :: ((host.map Host.write).getD [] ++
        ((Path.segments segments).write ++ tail))) =
      some ⟨scheme, some ⟨[], [], host, none⟩, .segments segments⟩ := by
  have inside : ∀ c ∈ (host.map Host.write).getD [],
      (!Family.file.isSeparator c) = true ∧ (!endsPath c) = true := by
    cases host with
    | none => exact List.forall_mem_nil _
    | some h =>
        intro c member
        have clear := ((stored.named h rfl).1.clear c member).1
        rw [isSeparator_of_isAuthorityChar .file clear, endsPath_of_isAuthorityChar clear]
        exact ⟨rfl, rfl⟩
  have path : ∀ c ∈ (Path.segments segments).write, (!endsPath c) = true := fun c member => by
    rw [endsPath_of_written stored.written c member]
    rfl
  have cut : ('/' :: '/' :: ((host.map Host.write).getD [] ++
      ((Path.segments segments).write ++ tail))).takeWhile (fun c => !endsPath c) =
      '/' :: '/' :: ((host.map Host.write).getD [] ++ (Path.segments segments).write) := by
    rw [← List.append_assoc]
    refine takeWhile_append_of_head? (s := '/' :: '/' :: (_ ++ _)) ?_ fun c starts => by
      rw [ends c starts]
      rfl
    refine List.forall_mem_cons.mpr ⟨rfl, List.forall_mem_cons.mpr ⟨rfl, ?_⟩⟩
    exact List.forall_mem_append.mpr ⟨fun c member => (inside c member).2, path⟩
  have span : ((host.map Host.write).getD [] ++ (Path.segments segments).write).span
      (fun c => !Family.file.isSeparator c) =
      ((host.map Host.write).getD [], (Path.segments segments).write) := by
    have slash : ∀ c ∈ (Path.segments segments).write.head?, (!Family.file.isSeparator c) =
      false := by
      rw [Path.write_segments stored.filled]
      rintro _ ⟨⟩
      rfl
    have own c (member : c ∈ (host.map Host.write).getD []) := (inside c member).1
    rw [List.span_eq_takeWhile_dropWhile, takeWhile_append_of_head? own slash,
      dropWhile_append_of_head? own slash]
  simp only [readFile?, cut, span]
  rw [if_pos (by decide)]
  cases host with
  | none => exact congrArg some (ofFilePath_write stored scheme)
  | some h =>
      obtain ⟨proper, again, remote⟩ := stored.named h rfl
      have named : (h.write.isEmpty || Path.isDriveLetter h.write) = false := by
        rw [proper.named, List.isEmpty_eq_false_iff.mpr proper.filled]
        rfl
      have own : (h == Host.name "localhost".toList) = false := beq_false_of_ne remote
      simp only [Option.map_some, Option.getD_some, named, again, own, if_neg Bool.false_ne_true]
      exact congrArg some (ofFilePath_write stored scheme)

/-! ## Addresses without an authority -/

/-- Text without structure, which is read as it is written. -/
structure Opaque (text : Text) : Prop where
  clear : Clear isControl text
  whole : ∀ c ∈ text, endsPath c = false
  start : ∀ c ∈ text.head?, c ≠ '/'
  stop : ∀ c ∈ text.getLast?, c ≠ ' '

private theorem opaque_of_readOther? (solid : ∀ c ∈ t.head?, c ≠ '/') :
    Opaque (dropEndWhile (· == ' ')
      (percentEncode isControl (t.takeWhile fun c => !endsPath c))) := by
  have free : ∀ c ∈ encodedChars, isControl c = false := List.all_iff_forall_prop.mp (by decide)
  have kept : ∀ c ∈ dropEndWhile (· == ' ')
      (percentEncode isControl (t.takeWhile fun c => !endsPath c)),
      c ∈ percentEncode isControl (t.takeWhile fun c => !endsPath c) := by
    intro c member
    exact (List.dropWhile_sublist _).subset (List.mem_reverse.mp member) |> List.mem_reverse.mp
  refine ⟨fun c member => clear_percentEncode free _ c (kept c member), fun c member => ?_, ?_, ?_⟩
  · rcases percentEncode_cases isControl _ c (kept c member) with encoded | ⟨inside, -⟩
    · have solid : ∀ c ∈ encodedChars, endsPath c = false := List.all_iff_forall_prop.mp (by decide)
      exact solid c encoded
    · exact (Bool.not_eq_true' _).mp (List.all_eq_true.mp List.all_takeWhile c inside)
  · cases taken : t.takeWhile fun c => !endsPath c with
    | nil => exact fun _ none => (Option.not_mem_none _ none).elim
    | cons c rest =>
        have own : c ∈ t.head? := by
          have first := congrArg List.head? taken
          rw [List.head?_takeWhile, List.head?_cons, Option.filter_eq_some_iff] at first
          exact first.1
        obtain ⟨first, others, encoded, same⟩ := percentEncode_cons isControl c rest
        have other : first ≠ '/' := by
          rcases same with rfl | rfl
          · decide
          · exact solid first own
        rw [encoded]
        rcases dropEndWhile_cons_cases (· == ' ') first others with gone | ⟨left, stays⟩
        · rw [gone]
          exact fun _ none => (Option.not_mem_none _ none).elim
        · rw [stays]
          rintro _ ⟨⟩
          exact other
  · exact fun c last => ne_of_beq_false (getLast?_dropEndWhile (p := (· == ' ')) last)

private theorem readOther?_plain {text : Text} (plain : Opaque text) (ends : IsTail tail) :
    readOther? scheme (text ++ tail) = some ⟨scheme, none, .plain text⟩ := by
  have solid : ∀ c ∈ (text ++ tail).head?, c ≠ '/' := by
    intro c starts
    cases text with
    | nil =>
        have mark := ends c starts
        rintro rfl
        exact absurd mark (by decide)
    | cons first rest => exact plain.start c starts
  have taken : (text ++ tail).takeWhile (fun c => !endsPath c) = text :=
    takeWhile_append_of_head? (fun c member => by rw [plain.whole c member]; rfl)
      fun c starts => by rw [ends c starts]; rfl
  have kept : dropEndWhile (· == ' ') text = text :=
    dropEndWhile_of_getLast? fun c last => beq_false_of_ne (plain.stop c last)
  unfold readOther?
  split
  · next same => exact absurd rfl (solid '/' (by rw [same]; rfl))
  · next same => exact absurd rfl (solid '/' (by rw [same]; rfl))
  · simp only [taken, percentEncode_of_clear plain.clear, kept]

/-- A dot before the path makes no difference. -/
theorem readSegments_dot (family : Family) (t : Text) :
    Path.readSegments family ('.' :: '/' :: t) = Path.readSegments family t := by
  have stays : ∀ c ∈ ['.'], family.isSeparator c = false :=
    List.forall_mem_singleton.mpr (by cases family <;> decide)
  have pieces := splitBy_append_cons (Path.isSeparator_slash family) stays t
  have filled : (splitBy family.isSeparator t).map (percentEncode isPathReserved) ≠ [] :=
    mt List.map_eq_nil_iff.mp (splitBy_ne_nil _ t)
  have dot : percentEncode isPathReserved ['.'] = ['.'] := by decide
  rw [Path.readSegments, ← List.singleton_append, pieces, List.map_cons, dot, Path.resolve,
    if_neg (by decide), if_pos (by decide), List.isEmpty_eq_false_iff.mpr filled,
    if_neg Bool.false_ne_true, List.append_nil]
  rfl

/-- The mark before a path that would read as an authority. -/
def pathMark : List Text → Text
  | [] :: _ :: _ => ['/', '.']
  | _ => []

private theorem readOther?_rooted (filled : segments ≠ []) (settled : Path.Settled .other segments)
    (written : Path.Written .other segments) (ends : IsTail tail) :
    readOther? scheme (pathMark segments ++ ((Path.segments segments).write ++ tail)) =
      some ⟨scheme, none, .segments segments⟩ := by
  have path : ∀ c ∈ (Path.segments segments).write, (!endsPath c) = true := fun c member => by
    rw [endsPath_of_written written c member]
    rfl
  have stop : ∀ c ∈ tail.head?, (!endsPath c) = false := fun c starts => by
    rw [ends c starts]
    rfl
  rw [Path.write_segments filled] at path ⊢
  have inside := List.forall_mem_cons.mp path
  have read := Path.readSegments_join filled settled written
  have bare (solid : ∀ c ∈ (join ['/'] segments ++ tail).head?, c ≠ '/') :
      readOther? scheme ('/' :: (join ['/'] segments ++ tail)) =
        some ⟨scheme, none, .segments segments⟩ := by
    unfold readOther?
    split
    · next same =>
      exact absurd rfl (solid '/' (by rw [(List.cons.inj same).2]; rfl))
    · next same =>
      rw [← (List.cons.inj same).2, takeWhile_append_of_head? inside.2 stop, read]
    · next slash => exact absurd rfl (slash _)
  obtain ⟨first, others, rfl⟩ := List.exists_cons_of_ne_nil filled
  cases first with
  | cons c rest =>
      have other : c ≠ '/' := by
        rintro rfl
        exact Bool.false_ne_true (written.unsplit _ List.mem_cons_self '/' List.mem_cons_self).symm
      refine bare ?_
      obtain ⟨behind, joined⟩ := prefix_join ['/'] (c :: rest) others
      rw [← joined]
      rintro _ ⟨⟩
      exact other
  | nil =>
      cases others with
      | nil =>
          refine bare fun c starts => ?_
          rintro rfl
          exact absurd (ends '/' starts) (by decide)
      | cons next others =>
          have dotted := (readSegments_dot .other (join ['/'] ([] :: next :: others))).trans read
          have whole : ∀ c ∈ '.' :: '/' :: join ['/'] ([] :: next :: others),
            (!endsPath c) = true :=
            List.forall_mem_cons.mpr ⟨rfl, path⟩
          have taken := takeWhile_append_of_head? whole stop
          have step : readOther? scheme (pathMark ([] :: next :: others) ++
              ('/' :: join ['/'] ([] :: next :: others) ++ tail)) =
                some ⟨scheme, none, .segments (Path.readSegments .other
                  (('.' :: '/' :: join ['/'] ([] :: next :: others) ++ tail).takeWhile
                    fun c => !endsPath c))⟩ := rfl
          rw [step, taken, dotted]

/-! ## All addresses -/

/-- An address whose parts are read as they are written. -/
inductive Settled : Address → Prop
  | reached {scheme : Text} {authority : Authority} {segments : List Text} (named : IsScheme scheme)
      (apart : Family.ofScheme scheme ≠ .file)
      (settledAuthority : authority.Settled scheme (Family.ofScheme scheme))
      (settled : Path.Settled (Family.ofScheme scheme) segments)
      (written : Path.Written (Family.ofScheme scheme) segments)
      (filled : segments = [] → Family.ofScheme scheme = .other) :
      Settled ⟨scheme, some authority, .segments segments⟩
  | stored {scheme : Text} {host : Option Host} {segments : List Text} (named : IsScheme scheme)
      (belongs : Family.ofScheme scheme = .file) (stored : Stored host segments) :
      Settled ⟨scheme, some ⟨[], [], host, none⟩, .segments segments⟩
  | rooted {scheme : Text} {segments : List Text} (named : IsScheme scheme)
      (belongs : Family.ofScheme scheme = .other) (filled : segments ≠ [])
      (settled : Path.Settled .other segments) (written : Path.Written .other segments) :
      Settled ⟨scheme, none, .segments segments⟩
  | plain {scheme text : Text} (named : IsScheme scheme) (belongs : Family.ofScheme scheme = .other)
      (plain : Opaque text) : Settled ⟨scheme, none, .plain text⟩

private theorem settled_of_read? {a : Address} (read : read? t = some a) : a.Settled := by
  obtain ⟨⟨scheme, rest⟩, split, read⟩ := Option.bind_eq_some_iff.mp read
  have named := isScheme_of_splitScheme? split
  cases belongs : Family.ofScheme scheme with
  | web =>
      simp only [belongs] at read
      obtain ⟨authority, segments, rfl, reached, settled, written, filled⟩ :=
        readWithAuthority?_spec read
      exact .reached named (by rw [belongs]; decide) (belongs ▸ reached) (belongs ▸ settled)
        (belongs ▸ written) (belongs ▸ filled)
  | file =>
      simp only [belongs] at read
      obtain ⟨host, segments, rfl, stored⟩ := stored_of_readFile? read
      exact .stored named belongs stored
  | other =>
      simp only [belongs] at read
      unfold readOther? at read
      split at read
      · obtain ⟨authority, segments, rfl, reached, settled, written, filled⟩ :=
          readWithAuthority?_spec read
        exact .reached named (by rw [belongs]; decide) (belongs ▸ reached) (belongs ▸ settled)
          (belongs ▸ written) (belongs ▸ filled)
      · cases read
        exact .rooted named belongs (Path.readSegments_ne_nil _ _) (Path.settled_readSegments _ _)
          (Path.written_readSegments _ _)
      · next slashes slash =>
        cases read
        refine .plain named belongs (opaque_of_readOther? fun c starts same => ?_)
        obtain ⟨others, rfl⟩ := List.head?_eq_some_iff.mp (same ▸ starts)
        exact slash others rfl

/-- What follows the scheme of an address. -/
def body (a : Address) : Text :=
  (match a.authority, a.path with
    | some authority, _ => '/' :: '/' :: authority.write
    | none, .segments segments => pathMark segments
    | none, _ => []) ++ a.path.write

private theorem write_eq (a : Address) : a.write = a.scheme ++ ':' :: a.body := by
  obtain ⟨scheme, authority, path⟩ := a
  cases authority with
  | some authority => simp [write, body]
  | none =>
      rcases path with text | segments
      · simp [write, body]
      · rcases segments with _ | ⟨_ | ⟨c, rest⟩, _ | ⟨next, others⟩⟩ <;>
          simp [write, body, pathMark]

/-- Reads what follows a scheme. -/
def readBody? (scheme rest : Text) : Option Address :=
  match Family.ofScheme scheme with
  | .web => readWithAuthority? scheme .web (rest.dropWhile Family.web.isSeparator)
  | .file => readFile? scheme rest
  | .other => readOther? scheme rest

private theorem Settled.isScheme {a : Address} (settled : a.Settled) : IsScheme a.scheme := by
  cases settled with
  | reached named => exact named
  | stored named => exact named
  | rooted named => exact named
  | plain named => exact named

private theorem Settled.readBody?_append {a : Address} (settled : a.Settled) (ends : IsTail tail) :
    readBody? a.scheme (a.body ++ tail) = some a := by
  cases settled with
  | @reached scheme authority segments named apart reached settled written filled =>
      have whole := readWithAuthority?_write reached settled written filled ends
      have shape : body ⟨scheme, some authority, .segments segments⟩ ++ tail =
          '/' :: '/' :: (authority.write ++ ((Path.segments segments).write ++ tail)) := by
        simp [body]
      rw [shape, readBody?]
      cases belongs : Family.ofScheme scheme with
      | web =>
          rw [belongs] at whole reached
          have start : ∀ c ∈ (authority.write ++ ((Path.segments segments).write ++ tail)).head?,
              Family.web.isSeparator c = false := by
            intro c starts
            cases named : authority.host with
            | none => exact absurd rfl (reached.alone named).1
            | some host =>
                rw [List.head?_append_of_ne_nil _ (Authority.write_ne_nil reached named)] at starts
                exact (isSeparator_of_isAuthorityChar .web
                  (Authority.write_clear reached c (List.mem_of_head? starts)))
          simp only [List.dropWhile_cons_of_pos (Path.isSeparator_slash .web),
            dropWhile_of_head? start]
          exact whole
      | file => exact absurd belongs apart
      | other =>
          rw [belongs] at whole
          exact whole
  | @stored scheme host segments named belongs stored =>
      have shape : body ⟨scheme, some ⟨[], [], host, none⟩, .segments segments⟩ ++ tail =
          '/' :: '/' :: ((host.map Host.write).getD [] ++
            ((Path.segments segments).write ++ tail)) := by
        simp [body, Authority.write]
      simp only [readBody?, belongs, shape]
      exact readFile?_write stored ends
  | rooted named belongs filled settled written =>
      simp only [readBody?, belongs, body, List.append_assoc]
      exact readOther?_rooted filled settled written ends
  | plain named belongs plain =>
      simp only [readBody?, belongs, body, List.nil_append]
      exact readOther?_plain plain ends

private theorem IsScheme.solid (named : IsScheme scheme) :
    ∀ c ∈ scheme, 0x20 < c.toNat ∧ c.toNat < 0x80 := by
  intro c member
  have inScheme := named.chars c member
  refine forall_ascii (p := fun c => isSchemeChar c = true → 0x20 < c.toNat ∧ c.toNat < 0x80) ?_
    (ascii_of_isSchemeChar inScheme) inScheme
  decide +kernel

private theorem solid_of_written (written : Path.Written family segments) :
    ∀ c ∈ (Path.segments segments).write, 0x20 < c.toNat ∧ c.toNat < 0x80 := by
  intro c member
  obtain ⟨segment, listed, inside⟩ := List.mem_flatMap.mp member
  rcases List.mem_cons.mp inside with rfl | inside
  · decide
  · obtain ⟨free, ascii⟩ := written.clear segment listed c inside
    refine forall_ascii
      (p := fun c => isPathReserved c = false → 0x20 < c.toNat ∧ c.toNat < 0x80) ?_
      ascii free
    decide +kernel

private theorem Settled.printed {a : Address} (settled : a.Settled) : Printed a.write := by
  have named := settled.isScheme
  have authority {a : Authority} {scheme : Text} {family : Family}
      (reached : a.Settled scheme family) :
      ∀ c ∈ a.write, 0x20 < c.toNat ∧ c.toNat < 0x80 := fun c member =>
    solid_of_isAuthorityChar (Authority.write_clear reached c member)
  have slashes {t : Text} (solid : ∀ c ∈ t, 0x20 < c.toNat ∧ c.toNat < 0x80) :
      ∀ c ∈ '/' :: '/' :: t, 0x20 < c.toNat ∧ c.toNat < 0x80 :=
    List.forall_mem_cons.mpr ⟨by decide, List.forall_mem_cons.mpr ⟨by decide, solid⟩⟩
  have whole {a : Address} (named : IsScheme a.scheme)
      (solid : ∀ c ∈ a.body, 0x20 < c.toNat ∧ c.toNat < 0x80) : Printed a.write := by
    rw [write_eq]
    exact .of_solid (List.forall_mem_append.mpr
      ⟨named.solid, List.forall_mem_cons.mpr ⟨by decide, solid⟩⟩)
  cases settled with
  | reached _ _ reached _ written _ =>
      exact whole named (List.forall_mem_append.mpr
        ⟨slashes (authority reached), solid_of_written written⟩)
  | @stored _ host _ _ _ stored =>
      refine whole named (List.forall_mem_append.mpr ⟨slashes ?_, solid_of_written stored.written⟩)
      cases host with
      | none => exact List.forall_mem_nil _
      | some h =>
          intro c member
          have own : c ∈ h.write := by simpa [Authority.write] using member
          exact solid_of_isAuthorityChar ((stored.named h rfl).1.clear c own).1
  | @rooted _ segments _ _ _ _ written =>
      refine whole named (List.forall_mem_append.mpr ⟨?_, solid_of_written written⟩)
      show ∀ c ∈ pathMark segments, _
      unfold pathMark
      split
      · exact List.all_iff_forall_prop.mp (by decide)
      · exact List.forall_mem_nil _
  | @plain scheme text _ _ plain =>
      obtain ⟨first, others, same, letter⟩ := named.letter
      have shape : write ⟨scheme, none, .plain text⟩ = scheme ++ ':' :: text := write_eq _
      rw [shape]
      refine ⟨List.forall_mem_append.mpr ⟨fun c member => ?_, ?_⟩, ?_, fun c ends => ?_⟩
      · exact ⟨(named.solid c member).1.le, (named.solid c member).2⟩
      · refine List.forall_mem_cons.mpr ⟨by decide, fun c member => ?_⟩
        obtain ⟨free, ascii⟩ := plain.clear c member
        rw [isControl, Bool.or_eq_false_iff, decide_eq_false_iff_not] at free
        exact ⟨by omega, ascii⟩
      · rw [show scheme = first :: others from same]
        rintro _ ⟨⟩ rfl
        exact absurd letter (by decide)
      · rw [List.getLast?_append_of_ne_nil _ (List.cons_ne_nil _ _)] at ends
        cases text with
        | nil =>
            cases ends
            decide
        | cons c rest =>
            rw [List.getLast?_cons_cons] at ends
            exact plain.stop _ ends

/-- An address is read as it was written, whatever query or fragment follows it. -/
theorem read?_write_append {a : Address} (settled : a.Settled) (ends : IsTail tail) :
    read? (a.write ++ tail) = some a := by
  have filled : a.write ≠ [] := by
    rw [write_eq]
    exact List.append_ne_nil_of_right_ne_nil _ (List.cons_ne_nil _ _)
  obtain ⟨tail', ends', prepared⟩ := settled.printed.prepare_append filled ends
  have split := settled.isScheme.splitScheme?_append (a.body ++ tail')
  rw [read?, prepared, write_eq, List.append_assoc, List.cons_append, split, Option.bind_some]
  exact settled.readBody?_append ends'

end Address

/-! ## Keys of resources -/

private theorem canonical_of_read? {raw : Text} {a : Address}
    (read : Address.read? (trim raw) = some a) :
    canonical raw = a.write := by
  rw [canonical, read]

/-- A trimmed text up to its query or fragment. -/
def beforeTail (raw : Text) : Text :=
  (trim raw).takeWhile fun c => !endsPath c

private theorem canonical_of_unread {raw : Text} (unread : Address.read? (trim raw) = none) :
    canonical raw = beforeTail raw := by
  rw [canonical, unread, beforeTail]

/-- The key of an address is its own key. -/
theorem canonical_write {a : Address} (settled : a.Settled) : canonical a.write = a.write := by
  refine canonical_of_read? ?_
  have whole := Address.read?_write_append settled .nil
  rwa [List.append_nil, ← settled.printed.trim_eq] at whole

/-- A key is its own key exactly if the address was read, or if what stands before the query and the
fragment has no whitespace at its ends and is not read either. -/
theorem canonical_canonical_iff (raw : Text) :
    canonical (canonical raw) = canonical raw ↔
      (Address.read? (trim raw)).isSome ∨
        trim (beforeTail raw) = beforeTail raw ∧ Address.read? (beforeTail raw) = none := by
  cases read : Address.read? (trim raw) with
  | some a =>
      rw [canonical_of_read? read]
      exact iff_of_true (canonical_write (Address.settled_of_read? read)) (.inl rfl)
  | none =>
      have parts : beforeTail raw ++ _ = trim raw :=
        List.takeWhile_append_dropWhile (p := fun c => !endsPath c) (l := trim raw)
      have ends : IsTail ((trim raw).dropWhile fun c => !endsPath c) := by
        intro c starts
        have stops := List.head?_dropWhile_not (fun c => !endsPath c) (trim raw)
        rw [Option.mem_def.mp starts] at stops
        simpa using stops
      have whole : ∀ c ∈ trim (beforeTail raw), (!endsPath c) = true := fun c member =>
        List.all_eq_true.mp List.all_takeWhile c ((infix_trim _).subset member)
      rw [canonical_of_unread read, Option.isSome_none]
      cases again : Address.read? (trim (beforeTail raw)) with
      | none =>
          have kept : canonical (beforeTail raw) = trim (beforeTail raw) := by
            rw [canonical_of_unread again, beforeTail, List.takeWhile_eq_self_iff.mpr whole]
          rw [kept]
          refine ⟨fun same => .inr ⟨same, same ▸ again⟩, ?_⟩
          rintro (never | ⟨same, -⟩)
          · exact absurd never Bool.false_ne_true
          · exact same
      | some a =>
          rw [canonical_of_read? again]
          refine iff_of_false (fun same => ?_) ?_
          · -- What is the key of an address would have been read with its query and fragment.
            have longer := Address.read?_write_append (Address.settled_of_read? again) ends
            rw [same, parts, read] at longer
            cases longer
          · rintro (never | ⟨same, unread⟩)
            · exact absurd never Bool.false_ne_true
            · rw [same, unread] at again
              cases again

/-- Whitespace before the cut is left at the end of the key. -/
theorem canonical_canonical_spaced :
    canonical (canonical "images/a.png #center".toList) ≠
      canonical "images/a.png #center".toList := by
  decide +kernel

end Url
end ArticleMarkdown
