import ArticleMarkdown.Proofs.Url.Domain

/-!
# Authorities that are read again

A host is written with characters that end neither the host nor the authority, and is read as it was
written (`Host.Settled`). So is the authority around it (`Authority.read?_write`).
-/

namespace ArticleMarkdown

open Text

namespace Url

/-- A character that a written authority may hold. -/
def isAuthorityChar (c : Char) : Bool :=
  0x20 < c.toNat && c.toNat < 0x80 && !"/\\?#".toList.contains c

/-- A character that a written host may hold outside brackets. -/
def isNameChar (c : Char) : Bool :=
  isAuthorityChar c && !"@:[|".toList.contains c

private theorem isNameChar_of_hexDigitValue? {c : Char} (digit : (hexDigitValue? c).isSome) :
    isNameChar c = true := by
  refine forall_ascii (p := fun c => (hexDigitValue? c).isSome → isNameChar c = true) ?_
    (ascii_of_hexDigitValue? digit) digit
  decide +kernel

private theorem isNameChar_of_isAsciiDigit {c : Char} (digit : isAsciiDigit c = true) :
    isNameChar c = true :=
  isNameChar_of_hexDigitValue? (by rw [hexDigitValue?, if_pos digit]; rfl)

namespace Authority

private theorem splitPort_append {s : Text} (outside : ∀ c ∈ s, c ≠ ':' ∧ c ≠ '[') (t : Text) :
    splitPort false (s ++ t) = (s ++ (splitPort false t).1, (splitPort false t).2) := by
  induction s with
  | nil => rfl
  | cons c s ih =>
      obtain ⟨⟨colon, bracket⟩, later⟩ := List.forall_mem_cons.mp outside
      have stays : (if c == '[' then true else if c == ']' then false else false) = false := by
        simp [bracket]
      rw [List.cons_append, splitPort, if_neg (by simp [colon])]
      simp only [stays, ih later, List.cons_append]

private theorem splitPort_inside {s : Text} (inside : ']' ∉ s) (t : Text) :
    splitPort true (s ++ t) = (s ++ (splitPort true t).1, (splitPort true t).2) := by
  induction s with
  | nil => rfl
  | cons c s ih =>
      rw [List.mem_cons, not_or] at inside
      have stays : (if c == '[' then true else if c == ']' then false else true) = true := by
        simp [Ne.symm inside.1]
      rw [List.cons_append, splitPort, if_neg (by simp)]
      simp only [stays, ih inside.2, List.cons_append]

end Authority

namespace Host

open Authority

/-- The host is written with characters of a host, and a colon after it starts the port. -/
structure Proper (host : Host) : Prop where
  filled : host.write ≠ []
  clear : ∀ c ∈ host.write, isAuthorityChar c = true ∧ c ≠ '@'
  closed : ∀ t, splitPort false (host.write ++ t) =
    (host.write ++ (splitPort false t).1, (splitPort false t).2)
  named : Path.isDriveLetter host.write = false

private theorem Proper.of_names {host : Host} (filled : host.write ≠ [])
    (names : ∀ c ∈ host.write, isNameChar c = true) : host.Proper where
  filled
  clear c member := by
    have name := names c member
    rw [isNameChar, Bool.and_eq_true] at name
    refine ⟨name.1, ?_⟩
    rintro rfl
    exact absurd name.2 (by decide)
  closed := splitPort_append fun c member => by
    have name := names c member
    constructor <;> (rintro rfl; exact absurd name (by decide))
  named := by
    unfold Path.isDriveLetter
    split
    · next letter mark same =>
      have name := names mark (same ▸ by simp)
      have colon : mark ≠ ':' := by rintro rfl; exact absurd name (by decide)
      have bar : mark ≠ '|' := by rintro rfl; exact absurd name (by decide)
      simp [colon, bar]
    · rfl

private theorem mem_writeIpv4 {value : Nat} {c : Char} (member : c ∈ writeIpv4 value) :
    isAsciiDigit c = true ∨ c = '.' := by
  rw [writeIpv4_eq] at member
  rcases mem_join member with dot | ⟨part, listed, inside⟩
  · exact .inr (List.mem_singleton.mp dot)
  · obtain ⟨n, -, rfl⟩ := List.mem_map.mp listed
    exact .inl (isAsciiDigit_iff.mpr (isDigit_of_mem_ofNat inside))

private theorem writeIpv4_ne_nil (value : Nat) : writeIpv4 value ≠ [] := by
  intro none
  obtain ⟨rest, joined⟩ := prefix_join ['.'] (ofNat (value / Nat.pow 256 3 % 256))
    (((bytes value).drop 1).map ofNat)
  have whole : ofNat (value / Nat.pow 256 3 % 256) ++ rest = [] := joined.trans none
  exact Nat.toDigits_ne_nil (List.append_eq_nil_iff.mp whole).1

private theorem proper_ipv4 (value : Nat) : (Host.ipv4 value).Proper := by
  refine .of_names (writeIpv4_ne_nil value) fun c member => ?_
  rcases mem_writeIpv4 member with digit | rfl
  · exact isNameChar_of_isAsciiDigit digit
  · decide

private theorem mem_writeIpv6 {pieces : List Nat} {c : Char} (member : c ∈ writeIpv6 pieces) :
    c = ':' ∨ (hexDigitValue? c).isSome := by
  have joined (ps : List Nat) (inside : c ∈ join [':'] (ps.map writePiece)) :
      c = ':' ∨ (hexDigitValue? c).isSome := by
    rcases mem_join inside with colon | ⟨part, listed, within⟩
    · exact .inl (List.mem_singleton.mp colon)
    · obtain ⟨n, -, rfl⟩ := List.mem_map.mp listed
      exact .inr (isSome_of_mem_toDigits (by omega) (by omega) c within)
  simp only [writeIpv6] at member
  split at member
  · exact joined _ member
  · rcases List.mem_append.mp member with front | back
    · rcases List.mem_append.mp front with before | gap
      · exact joined _ before
      · simp only [List.mem_cons, List.not_mem_nil, or_false, or_self] at gap
        exact .inl gap
    · exact joined _ back

private theorem proper_ipv6 (pieces : List Nat) : (Host.ipv6 pieces).Proper where
  filled := List.cons_ne_nil _ _
  clear c member := by
    rcases List.mem_append.mp member with inner | last
    · rcases List.mem_cons.mp inner with rfl | inner
      · decide
      · rcases mem_writeIpv6 inner with rfl | digit
        · decide
        · have name := isNameChar_of_hexDigitValue? digit
          rw [isNameChar, Bool.and_eq_true] at name
          refine ⟨name.1, ?_⟩
          rintro rfl
          exact absurd name.2 (by decide)
    · cases List.mem_singleton.mp last
      decide
  closed t := by
    have inside : ']' ∉ writeIpv6 pieces := by
      intro member
      rcases mem_writeIpv6 member with same | digit
      · exact absurd same (by decide)
      · exact absurd digit (by decide)
    have last : splitPort true (']' :: t) = (']' :: (splitPort false t).1, (splitPort false t).2) :=
      rfl
    have whole := splitPort_inside inside (']' :: t)
    rw [last] at whole
    rw [Host.write, List.cons_append, List.cons_append, List.append_assoc, List.singleton_append,
      splitPort, if_neg (by decide)]
    simp only [beq_self_eq_true, if_true, whole]
    simp
  named := by
    rw [Host.write]
    cases writeIpv6 pieces with
    | nil => rfl
    | cons c rest => cases rest <;> rfl

/-! ## Hosts that are read -/

private theorem readBracketed?_spec {t : Text} {host : Host} (read : readBracketed? t = some host) :
    host.Proper ∧ host.write.head? = some '[' ∧ readBracketed? host.write = some host := by
  unfold readBracketed? at read
  split at read
  · obtain ⟨inner, -, read⟩ := Option.bind_eq_some_iff.mp read
    obtain ⟨pieces, found, rfl⟩ := Option.map_eq_some_iff.mp read
    obtain ⟨eight, small⟩ := ipv6?_bounded found
    refine ⟨proper_ipv6 pieces, rfl, ?_⟩
    have last : dropLast? ']' (writeIpv6 pieces ++ [']']) = some (writeIpv6 pieces) := by
      rw [dropLast?, List.getLast?_concat, if_pos rfl, List.dropLast_concat]
    rw [Host.write, List.cons_append, readBracketed?, last, Option.bind_some,
      ipv6?_writeIpv6 eight small, Option.map_some]
  · cases read

private theorem isNameChar_of_domain {c : Char}
    (clear : c.toNat < 0x80 ∧ Domain.isForbidden c = false) :
    isNameChar c = true := by
  refine forall_ascii (p := fun c => Domain.isForbidden c = false → isNameChar c = true) ?_
    clear.1 clear.2
  decide +kernel

/-- A domain in its ASCII form is read as it stands. -/
theorem readDomain?_of_toAscii? {domain : Text} (same : Domain.toAscii? domain = some domain) :
    readDomain? domain =
      if domain.isEmpty then none
      else if endsInNumber domain then (ipv4? domain).map .ipv4
      else some (.name domain) := by
  have clear := Domain.toAscii?_clear same
  have bracket : domain.head? ≠ some '[' := fun first =>
    absurd (clear '[' (List.mem_of_head? first)).2 (by decide)
  have percent : '%' ∉ domain := fun member => absurd (clear '%' member).2 (by decide)
  rw [readDomain?, if_neg (by simpa using bracket), percentDecode_of_notMem percent, ofUtf8?_utf8,
    Option.bind_some, same, Option.bind_some]

/-- A domain that was read can be written, and is read again as the same host. -/
theorem readDomain?_spec {t : Text} {host : Host} (read : readDomain? t = some host) :
    host.Proper ∧ readDomain? host.write = some host := by
  unfold readDomain? at read
  split at read
  · obtain ⟨proper, bracket, again⟩ := readBracketed?_spec read
    exact ⟨proper, by rw [readDomain?, if_pos (beq_iff_eq.mpr bracket), again]⟩
  · obtain ⟨decoded, -, read⟩ := Option.bind_eq_some_iff.mp read
    obtain ⟨domain, found, read⟩ := Option.bind_eq_some_iff.mp read
    split at read
    · cases read
    · next filled =>
      split at read
      · next numeric =>
        obtain ⟨value, found', rfl⟩ := Option.map_eq_some_iff.mp read
        refine ⟨proper_ipv4 value, ?_⟩
        have same : Domain.toAscii? (writeIpv4 value) = some (writeIpv4 value) :=
          Domain.toAscii?_of_numeric fun c member => mem_writeIpv4 member
        have filled' : (writeIpv4 value).isEmpty = false :=
          List.isEmpty_eq_false_iff.mpr (writeIpv4_ne_nil value)
        rw [Host.write, readDomain?_of_toAscii? same, filled', if_neg Bool.false_ne_true,
          if_pos (endsInNumber_writeIpv4 value), ipv4?_writeIpv4 (ipv4?_lt found'), Option.map_some]
      · next numeric =>
        cases read
        have same := Domain.toAscii?_toAscii? found
        refine ⟨.of_names (mt List.isEmpty_iff.mpr filled)
          fun c member => isNameChar_of_domain (Domain.toAscii?_clear found c member), ?_⟩
        rw [Host.write, readDomain?_of_toAscii? same, if_neg filled, if_neg numeric]

private theorem readName?_spec {t : Text} {host : Host} (filled : t ≠ [])
    (read : readName? t = some host) :
    host.Proper ∧ readName? host.write = some host := by
  unfold readName? at read
  split at read
  · obtain ⟨proper, bracket, again⟩ := readBracketed?_spec read
    exact ⟨proper, by rw [readName?, if_pos (beq_iff_eq.mpr bracket), again]⟩
  · split at read
    · cases read
    · next allowed =>
      cases read
      have free : ∀ c ∈ encodedChars, isControl c = false := List.all_iff_forall_prop.mp (by decide)
      have names : ∀ c ∈ percentEncode isControl t,
          isNameChar c = true ∧ isForbiddenInName c = false := by
        intro c member
        rcases percentEncode_cases isControl t c member with encoded | ⟨inside, control, ascii⟩
        · have proper : ∀ c ∈ encodedChars, isNameChar c = true ∧ isForbiddenInName c = false :=
            List.all_iff_forall_prop.mp (by decide)
          exact proper c encoded
        · have permitted : isForbiddenInName c = false :=
            Bool.eq_false_iff.mpr fun forbidden =>
              allowed (List.any_eq_true.mpr ⟨c, inside, forbidden⟩)
          refine ⟨?_, permitted⟩
          refine forall_ascii
            (p := fun c => isControl c = false → isForbiddenInName c = false →
              isNameChar c = true) ?_
            ascii control permitted
          decide +kernel
      refine ⟨.of_names ?_ fun c member => (names c member).1, ?_⟩
      · obtain ⟨c, rest, rfl⟩ := List.exists_cons_of_ne_nil filled
        obtain ⟨first, others, encoded, -⟩ := percentEncode_cons isControl c rest
        exact encoded ▸ List.cons_ne_nil first others
      · have bracket : ¬((percentEncode isControl t).head? == some '[') = true := by
          intro first
          have name := (names '[' (List.mem_of_head? (beq_iff_eq.mp first))).1
          exact absurd name (by decide)
        have permitted : ¬(percentEncode isControl t).any isForbiddenInName = true := by
          intro some
          obtain ⟨c, member, forbidden⟩ := List.any_eq_true.mp some
          exact absurd ((names c member).2.symm.trans forbidden) Bool.false_ne_true
        rw [Host.write, readName?, if_neg bracket, if_neg permitted,
          percentEncode_percentEncode free]

end Host

namespace Authority

variable {scheme : Text} {family : Family} {a : Authority}

/-- How the host of an authority is read. -/
def readHost? (family : Family) (t : Text) : Option Host :=
  if family == .web then readDomain? t else readName? t

private theorem readHost?_spec {t : Text} {host : Host} (filled : t ≠ [])
    (read : readHost? family t = some host) :
    host.Proper ∧ readHost? family host.write = some host := by
  unfold readHost? at read ⊢
  split at read
  · next web => simpa only [if_pos web] using Host.readDomain?_spec read
  · next other => simpa only [if_neg other] using Host.readName?_spec filled read

/-- An authority whose parts are read as they are written. -/
structure Settled (scheme : Text) (family : Family) (a : Authority) : Prop where
  user : Clear isUserReserved a.user
  password : Clear isUserReserved a.password
  host : ∀ host ∈ a.host, host.Proper ∧ readHost? family host.write = some host
  alone : a.host = none → family ≠ .web ∧ a = ⟨[], [], none, none⟩
  port : ∀ n ∈ a.port, n ≤ 65535 ∧ some n ≠ defaultPort? scheme

private theorem readPort?_bounded {t rest : Text} {n : Nat}
    (read : readPort? t = some (some n, rest)) :
    n ≤ 65535 := by
  simp only [readPort?] at read
  split at read
  · cases read
  · next bounded =>
    split at read
    · have same := (Prod.mk.inj (Option.some.inj read)).1
      split at same
      · cases same
      · cases same
        exact Nat.le_of_not_lt bounded
    · cases read

private theorem readPort?_ofNat {n : Nat} (bounded : n ≤ 65535) :
    readPort? (ofNat n) = some (some n, []) := by
  have digits : ∀ c ∈ ofNat n, isAsciiDigit c = true :=
    fun c member => isAsciiDigit_iff.mpr (isDigit_of_mem_ofNat member)
  have value : Host.digitsValue 10 ((ofNat n).map fun d => d.toNat - 48) = n := by
    rw [Host.digitsValue, List.foldl_map]
    calc
      (ofNat n).foldl (fun m d => m * 10 + (d.toNat - 48)) 0 = Nat.ofDigitChars 10 (ofNat n) 0 := by
        rw [Nat.ofDigitChars_eq_foldl]
        simp only [Nat.mul_comm 10]
        rfl
      _ = n := Nat.ofDigitChars_ten_toDigits
  have filled : (ofNat n).isEmpty = false := List.isEmpty_eq_false_iff.mpr Nat.toDigits_ne_nil
  have all := List.takeWhile_eq_self_iff.mpr digits
  have none := List.dropWhile_eq_nil_iff.mpr digits
  simp only [readPort?, all, none, value, filled, if_neg (Nat.not_lt.mpr bounded)]
  rfl

private theorem clear_readUser (t : Text) :
    Clear isUserReserved (readUser t).1 ∧ Clear isUserReserved (readUser t).2 := by
  have free : ∀ c ∈ encodedChars, isUserReserved c = false :=
    List.all_iff_forall_prop.mp (by decide)
  exact ⟨clear_percentEncode free _, clear_percentEncode free _⟩

/-- An authority that was read is settled. -/
theorem settled_of_read? {beforePath : Bool} {t rest : Text}
    (read : read? scheme family beforePath t = some (a, rest)) : a.Settled scheme family := by
  simp only [read?] at read
  split at read
  · cases read
  · next users =>
    split at read
    · split at read
      · cases read
      · next web =>
        cases read
        simp only [Bool.or_eq_true, not_or, beq_iff_eq] at web
        exact ⟨List.forall_mem_nil _, List.forall_mem_nil _, fun _ none =>
          (Option.not_mem_none _ none).elim,
          fun _ => ⟨web.1.1.1, rfl⟩, fun _ none => (Option.not_mem_none _ none).elim⟩
    · next filled =>
      obtain ⟨host, foundHost, read⟩ := Option.bind_eq_some_iff.mp read
      obtain ⟨⟨port, behind⟩, foundPort, read⟩ := Option.bind_eq_some_iff.mp read
      cases read
      obtain ⟨proper, again⟩ := readHost?_spec (mt List.isEmpty_iff.mpr filled) foundHost
      refine ⟨(clear_readUser _).1, (clear_readUser _).2, ?_, fun none =>
        absurd none (Option.some_ne_none host), ?_⟩
      · rintro _ ⟨⟩
        exact ⟨proper, again⟩
      · intro n member
        split at member
        · cases member
        · next other =>
          cases member
          refine ⟨?_, fun same => other (beq_iff_eq.mpr same)⟩
          split at foundPort
          · cases foundPort
          · exact readPort?_bounded foundPort

/-- The user and password as they are written, without the at sign. -/
def userText (a : Authority) : Text :=
  a.user ++ if a.password.isEmpty then [] else ':' :: a.password

/-- The host and port as they are written. -/
def hostPart (a : Authority) : Text :=
  (a.host.map Host.write).getD [] ++ (a.port.map fun n => ':' :: ofNat n).getD []

private theorem write_eq (a : Authority) :
    a.write = if a.userText.isEmpty then a.hostPart else a.userText ++ '@' :: a.hostPart := by
  obtain ⟨user, password, host, port⟩ := a
  cases user <;> cases password <;> cases port <;> simp [write, userText, hostPart]

private theorem Settled.readUser_userText (settled : a.Settled scheme family) :
    readUser a.userText = (a.user, a.password) := by
  have reserved : isUserReserved ':' = true := by decide
  have absent : ':' ∉ a.user := fun member =>
    absurd ((settled.user ':' member).1.symm.trans reserved) Bool.false_ne_true
  have user := percentEncode_of_clear settled.user
  have password := percentEncode_of_clear settled.password
  rw [readUser, userText]
  cases given : a.password with
  | nil =>
      rw [List.isEmpty_nil, if_pos rfl, List.append_nil, splitFirst?_of_notMem absent]
      simp only [Option.getD_none, user]
      rfl
  | cons c rest =>
      rw [List.isEmpty_cons, if_neg Bool.false_ne_true, splitFirst?_append absent, ← given]
      simp only [Option.getD_some, user, password]

private theorem Settled.clear_hostPart (settled : a.Settled scheme family) :
    ∀ c ∈ a.hostPart, isAuthorityChar c = true ∧ c ≠ '@' := by
  refine List.forall_mem_append.mpr ⟨?_, ?_⟩
  · cases named : a.host with
    | none => exact List.forall_mem_nil _
    | some host => exact (settled.host host named).1.clear
  · cases a.port with
    | none => exact List.forall_mem_nil _
    | some n =>
        refine List.forall_mem_cons.mpr ⟨by decide, fun c member => ?_⟩
        have name := isNameChar_of_isAsciiDigit (isAsciiDigit_iff.mpr (isDigit_of_mem_ofNat member))
        rw [isNameChar, Bool.and_eq_true] at name
        refine ⟨name.1, ?_⟩
        rintro rfl
        exact absurd name.2 (by decide)

private theorem splitPort_hostPart {host : Host} (proper : host.Proper)
    (named : a.host = some host) :
    splitPort false a.hostPart = (host.write, a.port.map ofNat) := by
  rw [hostPart, named, Option.map_some, Option.getD_some, proper.closed]
  cases a.port with
  | none => exact congrArg (·, none) (List.append_nil _)
  | some n => exact congrArg (·, some (ofNat n)) (List.append_nil _)

/-- A settled authority is read back from what is written. -/
theorem read?_write (settled : a.Settled scheme family) (beforePath : Bool) :
    read? scheme family beforePath a.write = some (a, []) := by
  have noSign : '@' ∉ a.hostPart := fun member => (settled.clear_hostPart '@' member).2 rfl
  have users := settled.readUser_userText
  rw [read?]
  generalize split : Option.getD (Option.map _ _) _ = parts
  obtain ⟨userText, hostText⟩ := parts
  have parts : hostText = a.hostPart ∧ userText ≠ some [] ∧ userText.getD [] = a.userText := by
    rw [write_eq] at split
    split at split
    · next none =>
      rw [splitLast?_of_notMem noSign] at split
      cases split
      exact ⟨rfl, (Option.some_ne_none _).symm, (List.isEmpty_iff.mp none).symm⟩
    · next filled =>
      rw [splitLast?_append noSign] at split
      cases split
      exact ⟨rfl, fun same => filled (by rw [Option.some.inj same]; rfl), rfl⟩
  obtain ⟨rfl, filled, given⟩ := parts
  have start : ¬(userText == some [] && a.hostPart.isEmpty && beforePath) = true := by
    simp [filled]
  simp only [given, users, if_neg start]
  cases named : a.host with
  | none =>
      obtain ⟨web, rfl⟩ := settled.alone named
      simp [hostPart, splitPort, web]
  | some host =>
      obtain ⟨proper, again⟩ := settled.host host named
      rw [splitPort_hostPart proper named]
      rw [readHost?] at again
      simp only [List.isEmpty_eq_false_iff.mpr proper.filled, if_neg Bool.false_ne_true, again,
        Option.bind_some]
      obtain ⟨user, password, _, port⟩ := a
      cases named
      cases port with
      | none => simp only [Option.map_none, Option.bind_some, ite_self]
      | some n =>
          obtain ⟨bounded, other⟩ := settled.port n rfl
          simp only [Option.map_some, readPort?_ofNat bounded, Option.bind_some,
            beq_iff_eq, if_neg other]

/-- A settled authority is written with characters of authorities only. -/
theorem write_clear (settled : a.Settled scheme family) :
    ∀ c ∈ a.write, isAuthorityChar c = true := by
  have user : ∀ t, Clear isUserReserved t → ∀ c ∈ t, isAuthorityChar c = true := by
    intro t clear c member
    refine forall_ascii (p := fun c => isUserReserved c = false → isAuthorityChar c = true) ?_
      (clear c member).2 (clear c member).1
    decide +kernel
  have host c (member : c ∈ a.hostPart) := (settled.clear_hostPart c member).1
  rw [write_eq]
  split
  · exact host
  · refine List.forall_mem_append.mpr ⟨List.forall_mem_append.mpr ⟨user _ settled.user, ?_⟩,
      List.forall_mem_cons.mpr ⟨by decide, host⟩⟩
    split
    · exact List.forall_mem_nil _
    · exact List.forall_mem_cons.mpr ⟨by decide, user _ settled.password⟩

/-- An authority with a host is written. -/
theorem write_ne_nil {host : Host} (settled : a.Settled scheme family)
    (named : a.host = some host) :
    a.write ≠ [] := by
  have filled : a.hostPart ≠ [] := by
    rw [hostPart, named]
    exact List.append_ne_nil_of_left_ne_nil (settled.host host named).1.filled _
  rw [write_eq]
  split
  · exact filled
  · exact List.append_ne_nil_of_right_ne_nil _ (List.cons_ne_nil _ _)

end Authority
end Url
end ArticleMarkdown
