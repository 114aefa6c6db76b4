import ArticleMarkdown.Proofs.Json.Value
import ArticleMarkdown.Settings.Json

/-!
# Settings, written and read

A settings object may name its fields in any order, leave some out and name things that are no
fields. What is read of it holds the values of the fields that it names and the defaults of the
others; a whole object gives the settings back, without their depth
(`Settings.settings_read_back`).
-/

namespace ArticleMarkdown.Settings

open Json (Value)

namespace Field

/-- The value of a field of settings. -/
def value : Field → Settings → Value
  | .assetDirectory, s => .text s.assetDirectory
  | .assetPrefix, s => .text s.assetPrefix
  | .tableOfContents, s => .flag s.tableOfContents
  | .localizeAssets, s => .flag s.localizeAssets
  | .centerImages, s => .flag s.centerImages
  | .keepImageSizes, s => .flag s.keepImageSizes
  | .keepColors, s => .flag s.keepColors
  | .stripSearchLinks, s => .flag s.stripSearchLinks

/-- Settings with a field of other settings. -/
def copy (source : Settings) (s : Settings) : Field → Settings
  | .assetDirectory => { s with assetDirectory := source.assetDirectory }
  | .assetPrefix => { s with assetPrefix := source.assetPrefix }
  | .tableOfContents => { s with tableOfContents := source.tableOfContents }
  | .localizeAssets => { s with localizeAssets := source.localizeAssets }
  | .centerImages => { s with centerImages := source.centerImages }
  | .keepImageSizes => { s with keepImageSizes := source.keepImageSizes }
  | .keepColors => { s with keepColors := source.keepColors }
  | .stripSearchLinks => { s with stripSearchLinks := source.stripSearchLinks }

private theorem write_eq (field : Field) (s : Settings) :
    field.write s = (field.value s).write := by
  cases field <;> rfl

private theorem value_copy (source s : Settings) (field other : Field) :
    other.value (copy source s field) =
      if other = field then other.value source else other.value s := by
  cases field <;> cases other <;> rfl

private theorem listDepth_copy (source s : Settings) (field : Field) :
    (copy source s field).listDepth = s.listDepth := by
  cases field <;> rfl

private theorem ofName?_eq_some_iff {name : Text} {field : Field} :
    ofName? name = some field ↔ name = field.name.toList := by
  constructor
  · intro found
    have same := List.find?_some found
    exact (beq_iff_eq.mp same).symm
  · rintro rfl
    cases field <;> decide

/-- A text is read back. -/
theorem text_written (t rest : Text) : Json.text (Json.writeText t ++ rest) = .ok (t, rest) := by
  rw [Json.writeText_append, Json.text, Json.skipSpace_cons rfl]
  exact Json.string_written t rest

/-- A truth value is read back. -/
theorem flag_written (b : Bool) (rest : Text) :
    Json.flag (Json.writeFlag b ++ rest) = .ok (b, rest) := by
  cases b <;> rfl

/-- A field is read back into settings. -/
theorem read_written (field : Field) (source s : Settings) (rest : Text) :
    field.read s ((field.value source).write ++ rest) = .ok (copy source s field, rest) := by
  cases field <;> simp only [read, value, Value.write, text_written, flag_written] <;> rfl

end Field

/-- Settings are the same if their fields and their depths are. -/
theorem eq_of_values {a b : Settings} (values : ∀ field : Field, field.value a = field.value b)
    (depth : a.listDepth = b.listDepth) : a = b := by
  obtain ⟨_, _, _, _, _, _, _, _, _⟩ := a
  obtain ⟨_, _, _, _, _, _, _, _, _⟩ := b
  cases values .assetDirectory
  cases values .assetPrefix
  cases values .tableOfContents
  cases values .localizeAssets
  cases values .centerImages
  cases values .keepImageSizes
  cases values .keepColors
  cases values .stripSearchLinks
  cases depth
  rfl

/-- The fields that members name. -/
def namedFields (members : List (Text × Value)) : List Field :=
  members.filterMap fun member => Field.ofName? member.1

/-- Members with names of fields have the values of settings. -/
def Matches (source : Settings) (members : List (Text × Value)) : Prop :=
  ∀ member ∈ members, ∀ field, Field.ofName? member.1 = some field →
    member.2 = field.value source

variable {source s : Settings} {seen : List Field}

/-- A member is read: a field that has not been seen, or something to skip. -/
theorem readMember_written {name : Text} {value : Value} {rest : Text} (closes : Json.Closes rest)
    (fits : ∀ field, Field.ofName? name = some field →
      field ∉ seen ∧ value = field.value source) :
    readMember seen s name (':' :: (value.write ++ rest)) =
      .ok ((Field.ofName? name).toList ++ seen,
        (Field.ofName? name).toList.foldl (Field.copy source) s, rest) := by
  rw [readMember, Json.skipSpace_cons rfl]
  cases known : Field.ofName? name with
  | none =>
      simp only [Option.any_none, Bool.false_eq_true, if_false, Json.skip_write value closes]
      rfl
  | some field =>
      obtain ⟨fresh, rfl⟩ := fits field known
      have unseen : (some field).any seen.contains = false := by simpa using fresh
      simp only [unseen, Bool.false_eq_true, if_false, Field.read_written]
      rfl

/-- What stands behind a member of an object. -/
def behind (members : List (Text × Value)) : Text :=
  if Value.writeMembers members = [] then ['\x7d']
  else ',' :: (Text.join [','] (Value.writeMembers members) ++ ['\x7d'])

/-- The members of an object, from the first on. -/
theorem join_members (member : Text × Value) (others : List (Text × Value)) :
    Text.join [','] (Value.writeMembers (member :: others)) ++ ['\x7d'] =
      Json.writeText member.1 ++ ':' :: (member.2.write ++ behind others) := by
  rw [Value.writeMembers, Json.join_comma_append, ← behind, Value.writeMember, List.append_assoc,
    List.cons_append]

private theorem behind_cons (member : Text × Value) (others : List (Text × Value)) :
    behind (member :: others) =
      ',' :: (Json.writeText member.1 ++ ':' :: (member.2.write ++ behind others)) := by
  have filled : Value.writeMembers (member :: others) ≠ [] := List.cons_ne_nil _ _
  rw [← join_members, behind, if_neg filled]

private theorem closes_behind (members : List (Text × Value)) : Json.Closes (behind members) :=
  Json.closes_behind (Value.writeMembers members) (.inr rfl) []

/-- One member is read, and then the others; a comma stands in front of all but the first. -/
theorem readMembers_member (first : Bool) (member : Text × Value)
    (others : List (Text × Value)) (fuel : Nat)
    (fits : ∀ field, Field.ofName? member.1 = some field →
      field ∉ seen ∧ member.2 = field.value source) :
    readMembers (fuel + 1) first seen s ((if first then [] else [',']) ++
        (Json.writeText member.1 ++ ':' :: (member.2.write ++ behind others))) =
      readMembers fuel false ((Field.ofName? member.1).toList ++ seen)
        ((Field.ofName? member.1).toList.foldl (Field.copy source) s) (behind others) := by
  have read := readMember_written (s := s) (closes_behind others) fits
  rw [Json.writeText_append, readMembers]
  cases first <;>
    simp [Json.skipSpace_cons, Json.isSpace, Json.string_written, Except.bind, read]

private theorem namedFields_cons (member : Text × Value) (others : List (Text × Value)) :
    namedFields (member :: others) = (Field.ofName? member.1).toList ++ namedFields others := by
  rw [namedFields, List.filterMap_cons, namedFields]
  cases Field.ofName? member.1 <;> rfl

/-- A field that members name once has not been seen when it is read. -/
theorem Matches.fits {member : Text × Value} {others : List (Text × Value)}
    (matched : Matches source (member :: others))
    (once : (namedFields (member :: others) ++ seen).Nodup) :
    ∀ field, Field.ofName? member.1 = some field →
      field ∉ seen ∧ member.2 = field.value source := by
  intro field named
  refine ⟨fun again => ?_, matched member List.mem_cons_self field named⟩
  rw [namedFields_cons, named] at once
  exact (List.nodup_cons.mp once).1 (List.mem_append_right _ again)

private theorem Matches.tail {member : Text × Value} {others : List (Text × Value)}
    (matched : Matches source (member :: others)) : Matches source others :=
  fun other later => matched other (List.mem_cons_of_mem _ later)

/-- Fields that are named once are named once after the first member is read. -/
theorem named_once_tail {member : Text × Value} {others : List (Text × Value)}
    (once : (namedFields (member :: others) ++ seen).Nodup) :
    (namedFields others ++ ((Field.ofName? member.1).toList ++ seen)).Nodup := by
  rw [namedFields_cons, List.append_assoc] at once
  exact (List.perm_append_comm_assoc _ _ _).nodup_iff.mp once

/-- The members behind the first are read. -/
theorem readMembers_behind {members : List (Text × Value)} {fuel : Nat}
    (matched : Matches source members) (once : (namedFields members ++ seen).Nodup)
    (enough : (behind members).length ≤ fuel) :
    readMembers fuel false seen s (behind members) =
      .ok ((namedFields members).foldl (Field.copy source) s, []) := by
  induction members generalizing seen s fuel with
  | nil =>
      obtain ⟨fuel, rfl⟩ := Nat.exists_eq_add_of_le' enough
      rfl
  | cons member others ih =>
      rw [behind_cons, List.length_cons, List.length_append, List.length_cons,
        List.length_append] at enough
      obtain ⟨fuel, rfl⟩ : ∃ more, fuel = more + 1 :=
        Nat.exists_eq_succ_of_ne_zero (by omega)
      have step := readMembers_member (s := s) false member others fuel (matched.fits once)
      rw [behind_cons]
      refine step.trans ?_
      rw [ih matched.tail (named_once_tail once) (by omega), namedFields_cons, List.foldl_append]

/-- An object is read if its members are, up to the end of the text. -/
theorem read_of_readMembers {t : Text}
    (members : readMembers (t.length + 1) true [] {} t = .ok (s, [])) :
    read ('\x7b' :: t) = .ok s := by
  have opened : Json.skipSpace ('\x7b' :: t) = '\x7b' :: t := Json.skipSpace_cons rfl t
  simp only [read, opened, members]
  rfl

/-- An object is read: the fields that it names are copied to the default settings. -/
theorem read_object {members : List (Text × Value)} (matched : Matches source members)
    (once : (namedFields members).Nodup) :
    read (Value.object members).write =
      .ok ((namedFields members).foldl (Field.copy source) {}) := by
  cases members with
  | nil => rfl
  | cons member others =>
      have once' : (namedFields (member :: others) ++ []).Nodup := by rwa [List.append_nil]
      have written : (Value.object (member :: others)).write =
          '\x7b' :: (Json.writeText member.1 ++ ':' :: (member.2.write ++ behind others)) := by
        rw [Value.write, ← join_members]
        rfl
      rw [written]
      apply read_of_readMembers
      generalize length : (Json.writeText member.1 ++
        ':' :: (member.2.write ++ behind others)).length = fuel
      rw [List.length_append, List.length_cons, List.length_append] at length
      have first := readMembers_member (s := {}) true member others fuel (matched.fits once')
      have all := first.trans
        (readMembers_behind matched.tail (named_once_tail once') (by omega))
      rwa [← List.foldl_append, ← namedFields_cons, if_pos rfl, List.nil_append] at all

/-- The fields that are copied have the values of the source, and the others are as they were. -/
theorem value_foldl_copy (fields : List Field) (field : Field) :
    field.value (fields.foldl (Field.copy source) s) =
      if field ∈ fields then field.value source else field.value s := by
  induction fields generalizing s with
  | nil => rfl
  | cons first rest ih =>
      rw [List.foldl_cons, ih, Field.value_copy]
      by_cases later : field ∈ rest
      · rw [if_pos later, if_pos (List.mem_cons_of_mem _ later)]
      · simp [later]

private theorem listDepth_foldl_copy (fields : List Field) :
    (fields.foldl (Field.copy source) s).listDepth = s.listDepth := by
  induction fields generalizing s with
  | nil => rfl
  | cons first rest ih => rw [List.foldl_cons, ih, Field.listDepth_copy]

private theorem mem_namedFields_iff {members : List (Text × Value)} {field : Field} :
    field ∈ namedFields members ↔ field.name.toList ∈ members.map (·.1) := by
  simp only [namedFields, List.mem_filterMap, Field.ofName?_eq_some_iff, List.mem_map]

private theorem count_namedFields (members : List (Text × Value)) (field : Field) :
    (namedFields members).count field = (members.map (·.1)).count field.name.toList := by
  rw [namedFields, List.count_filterMap, List.count_eq_countP, List.countP_map]
  refine List.countP_congr fun member _ => ?_
  simp only [Function.comp_apply, beq_iff_eq, Field.ofName?_eq_some_iff]

/-- Settings as the members of an object. -/
def members (s : Settings) : List (Text × Value) :=
  Field.all.map fun field => (field.name.toList, field.value s)

private theorem write_eq_object (s : Settings) : write s = (Value.object (members s)).write := by
  have written : ∀ fields : List Field,
      Value.writeMembers (fields.map fun field => (field.name.toList, field.value s)) =
        fields.map fun field => Json.writeText field.name.toList ++ ':' :: field.write s := by
    intro fields
    induction fields with
    | nil => rfl
    | cons field rest ih =>
        rw [List.map_cons, Value.writeMembers, Value.writeMember, ih, ← Field.write_eq,
          List.map_cons]
  rw [write, Value.write, members, written]

private theorem namedFields_members (s : Settings) : namedFields (members s) = Field.all := by
  have named : ∀ field : Field, Field.ofName? field.name.toList = some field := fun field =>
    Field.ofName?_eq_some_iff.mpr rfl
  rw [namedFields, members, List.filterMap_map]
  exact (List.filterMap_congr fun field _ => named field).trans List.filterMap_some

private theorem Field.mem_all (field : Field) : field ∈ all := by
  cases field <;> decide

/-- Written settings are read back without their depth. -/
theorem read_write (s : Settings) : read (write s) = .ok { s with listDepth := 0 } := by
  have matched : Matches s (members s) := by
    intro member inside field named
    obtain ⟨own, -, rfl⟩ := List.mem_map.mp inside
    have same := Field.ofName?_eq_some_iff.mpr (rfl : own.name.toList = own.name.toList)
    cases named.symm.trans same
    rfl
  have once : (namedFields (members s)).Nodup := by
    rw [namedFields_members]
    decide
  rw [write_eq_object, read_object matched once, namedFields_members]
  refine congrArg _ (eq_of_values (fun field => ?_) (listDepth_foldl_copy _))
  rw [value_foldl_copy, if_pos field.mem_all]
  cases field <;> rfl

/-- Written settings are read back without their depth. Of an object that names any of the fields
once, in any order and among members with other names, the fields that it names are read, and the
others have their defaults. -/
theorem settings_read_back (s : Settings) :
    read (write s) = .ok { s with listDepth := 0 } ∧
      ∀ members : List (Text × Value),
        (∀ field : Field, (members.map (·.1)).count field.name.toList ≤ 1) →
        (∀ field : Field, ∀ value, (field.name.toList, value) ∈ members →
          value = field.value s) →
        ∃ r, read (Value.object members).write = .ok r ∧ r.listDepth = 0 ∧
          ∀ field : Field, field.value r =
            if field.name.toList ∈ members.map (·.1) then field.value s else field.value {} := by
  refine ⟨read_write s, fun members single values => ?_⟩
  have matched : Matches s members := by
    rintro ⟨name, value⟩ member field named
    cases Field.ofName?_eq_some_iff.mp named
    exact values field value member
  have once : (namedFields members).Nodup := by
    rw [List.nodup_iff_count]
    intro field
    rw [count_namedFields]
    exact single field
  refine ⟨_, read_object matched once, listDepth_foldl_copy _, fun field => ?_⟩
  rw [value_foldl_copy, if_congr mem_namedFields_iff rfl rfl]

/-- Members of which two name fields, with a value of every kind among the others. -/
def mixedMembers : List (Text × Value) :=
  [("enableTOC".toList, .flag false),
    ("listNestingDepth".toList, .list [.number { whole := 3 },
      .object [("a\n".toList, .null), ("".toList, .list [])],
      .number { negative := true, whole := 0, fraction := [5, 0], exponent := some (-7) }]),
    ("assetFilePrefix".toList, .text "\"post\u0001 é".toList), ("enable_toc".toList, .flag true)]

/-- The settings that these members are of. -/
def mixedSettings : Settings :=
  { assetPrefix := "\"post\u0001 é".toList, tableOfContents := false, keepColors := true,
    listDepth := 2 }

/-- Members in another order, with some missing and one that is no setting. -/
theorem settings_read_back_mixedMembers :
    (∀ field : Field, (mixedMembers.map (·.1)).count field.name.toList ≤ 1) ∧
      (∀ field : Field, ∀ value, (field.name.toList, value) ∈ mixedMembers →
        value = field.value mixedSettings) ∧
      read (Value.object mixedMembers).write =
        .ok { assetPrefix := "\"post\u0001 é".toList, tableOfContents := false } := by
  have single : ∀ field : Field, (mixedMembers.map (·.1)).count field.name.toList ≤ 1 := by
    intro field
    cases field <;> decide
  have values : ∀ field : Field, ∀ value, (field.name.toList, value) ∈ mixedMembers →
      value = field.value mixedSettings := by
    have each : ∀ member ∈ mixedMembers, ∀ field : Field, field.name.toList = member.1 →
        member.2 = field.value mixedSettings := by
      rw [mixedMembers, List.forall_mem_cons, List.forall_mem_cons, List.forall_mem_cons,
        List.forall_mem_singleton]
      refine ⟨?_, ?_, ?_, ?_⟩ <;> intro field same <;> cases field <;>
        first | rfl | exact absurd same (by decide)
    exact fun field value member => each _ member field rfl
  obtain ⟨r, read, depth, fields⟩ := (settings_read_back mixedSettings).2 mixedMembers single values
  refine ⟨single, values, read.trans (congrArg _ (eq_of_values (fun field => ?_) depth))⟩
  rw [fields]
  cases field <;> rfl

end ArticleMarkdown.Settings
