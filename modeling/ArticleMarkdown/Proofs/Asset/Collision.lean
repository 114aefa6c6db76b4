import ArticleMarkdown.Proofs.Asset.Extension
import ArticleMarkdown.Proofs.Asset.FileName
import ArticleMarkdown.Proofs.Asset.Naming

/-!
# When files collide

Owners count their files independently, and a file's name is its owner's prefix, its number and its
extension written one after another and cleaned. So files of different owners in one directory can
get one name: the prefix of one may end in digits that the other counts
(`Traffic.eleventh_file_collides`), and cleaning may take away what tells prefixes apart. Two
entries lie at one path exactly if their owners have one directory and their names agree in
extension, and in what is left of the prefix followed by the number (`Traffic.paths_distinct_iff`).
-/

namespace ArticleMarkdown

namespace FileName

/-- What a name shows of its prefix. -/
def lead (namePrefix : Text) : Text :=
  ((Text.trimStart namePrefix).filter isKept).map shown

/-- An extension of letters and digits is shown as it is. -/
theorem extension_shown {extension : Text} (plain : Asset.PlainExtension extension) :
    ((Text.trimEnd extension).filter isKept).map shown = extension := by
  have properties := fun c member =>
    alphanumeric_properties (List.all_eq_true.mp plain c member)
  have untrimmed : Text.trimEnd extension = extension := by
    refine (List.rdropWhile_eq_self_iff).mpr fun filled => ?_
    simp [(properties _ (List.getLast_mem filled)).1]
  have unfiltered : extension.filter isKept = extension :=
    List.filter_eq_self.mpr fun c member => (properties c member).2.1
  rw [untrimmed, unfiltered]
  exact map_shown_eq_self fun c member => (properties c member).1

/-- A name that is not cut is what is left of its prefix, its number and its extension. -/
theorem ofText_plain {before extension : Text} {n : Nat} (plain : Asset.PlainExtension extension)
    (fits : Fits (before ++ Text.ofNat n ++ '.' :: extension)) :
    ofText (before ++ Text.ofNat n ++ '.' :: extension) =
      lead before ++ Text.ofNat n ++ '.' :: extension := by
  rw [ofText_numbered fits, extension_shown plain, lead, List.append_assoc]

end FileName

namespace Asset

namespace Claim

/-- The name of a claim's file in its directory. -/
def fileName (c : Claim) : Text :=
  FileName.ofText (c.owner.namePrefix ++ Text.ofNat c.number ++ '.' :: c.extension)

/-- What a name shows before its extension: what is left of the prefix, and the number. -/
def stem (c : Claim) : Text :=
  FileName.lead c.owner.namePrefix ++ Text.ofNat c.number

/-- Whether two claims are to files of one name. Names that are not cut are told by what they are
made from. -/
def SharesName (c d : Claim) : Prop :=
  if c.Fits ∧ d.Fits then c.stem = d.stem ∧ c.extension = d.extension else c.fileName = d.fileName

instance (c d : Claim) : Decidable (c.SharesName d) := by
  unfold SharesName
  infer_instance

/-- A path tells its directory and its file name. -/
theorem path_eq_iff {c d : Claim} :
    c.path = d.path ↔ c.owner.directory = d.owner.directory ∧ c.fileName = d.fileName := by
  have noSlash : '/' ∉ c.fileName := FileName.slash_notMem_ofText _
  have noSlash' : '/' ∉ d.fileName := FileName.slash_notMem_ofText _
  have split : ∀ e : Claim, e.path =
      if e.owner.directory = [] then e.fileName else e.owner.directory ++ '/' :: e.fileName := by
    intro e
    simp only [path, Sink.filePath, fileName, List.isEmpty_iff]
  rw [split, split]
  by_cases empty : c.owner.directory = [] <;> by_cases empty' : d.owner.directory = []
  · simp [empty, empty']
  · rw [if_pos empty, if_neg empty']
    constructor
    · intro same
      exact absurd (same ▸ List.mem_append_right _ List.mem_cons_self) noSlash
    · rintro ⟨same, _⟩
      exact absurd (same ▸ empty) empty'
  · rw [if_neg empty, if_pos empty']
    constructor
    · intro same
      exact absurd (same ▸ List.mem_append_right _ List.mem_cons_self) noSlash'
    · rintro ⟨same, _⟩
      exact absurd (same ▸ empty') empty
  · rw [if_neg empty, if_neg empty']
    exact Text.append_cons_inj noSlash noSlash'

private theorem sharesName_iff {c d : Claim} (plain : PlainExtension c.extension)
    (plain' : PlainExtension d.extension) : c.SharesName d ↔ c.fileName = d.fileName := by
  rw [SharesName]
  split
  · next fits =>
    have dotless : ∀ {extension : Text}, PlainExtension extension → '.' ∉ extension := by
      intro extension plain member
      exact (FileName.alphanumeric_properties (List.all_eq_true.mp plain '.' member)).2.2 rfl
    rw [fileName, fileName, FileName.ofText_plain plain fits.1, FileName.ofText_plain plain' fits.2,
      Text.append_cons_inj (dotless plain) (dotless plain')]
    exact Iff.rfl
  · exact Iff.rfl

end Claim

/-- A stem tells prefix and number, where no prefix ends in a digit. -/
theorem Claim.stem_injective {c d : Claim}
    (tidy : (FileName.lead c.owner.namePrefix).getLast?.any Char.isDigit = false)
    (tidy' : (FileName.lead d.owner.namePrefix).getLast?.any Char.isDigit = false)
    (same : c.stem = d.stem) :
    FileName.lead c.owner.namePrefix = FileName.lead d.owner.namePrefix ∧ c.number = d.number := by
  -- The digits at the end of a stem are those of the number.
  have number : ∀ (before : Text) (n : Nat), before.getLast?.any Char.isDigit = false →
      (before ++ Text.ofNat n).rtakeWhile Char.isDigit = Text.ofNat n := by
    intro before n ends
    have digits : ∀ c ∈ (Text.ofNat n).reverse, c.isDigit = true := fun c member =>
      Text.isDigit_of_mem_ofNat (List.mem_reverse.mp member)
    have stops : before.reverse.takeWhile Char.isDigit = [] := by
      rw [← List.head?_reverse] at ends
      cases reversed : before.reverse with
      | nil => rfl
      | cons first rest =>
          rw [reversed] at ends
          exact List.takeWhile_cons_of_neg (by simpa using ends)
    rw [List.rtakeWhile, List.reverse_append, List.takeWhile_append_of_pos digits, stops,
      List.append_nil, List.reverse_reverse]
  have numbers := congrArg (List.rtakeWhile Char.isDigit) same
  rw [stem, stem, number _ _ tidy, number _ _ tidy'] at numbers
  rw [stem, stem, numbers] at same
  exact ⟨List.append_cancel_right same, Text.ofNat_injective numbers⟩

namespace Traffic

/-- Whatever calls are made on a new sink: its entries lie at different paths if and only if no two
of them are named for owners with one directory and share a name. -/
theorem paths_distinct_iff (events : List Event) :
    (∀ entry ∈ (run {} events).made, ∀ other ∈ (run {} events).made, entry ≠ other →
        entry.path ≠ other.path) ↔
      ∀ entry ∈ (run {} events).made, ∀ other ∈ (run {} events).made, entry ≠ other →
        ∀ c d, (run {} events).claims[entry.order]? = some c →
          (run {} events).claims[other.order]? = some d →
            c.owner.directory = d.owner.directory → ¬c.SharesName d := by
  have named : (run {} events).account.Named := Account.Reaches.named (reaches_run {} events)
  have shares_iff : ∀ {place place' : Nat} {c d : Claim},
      (run {} events).claims[place]? = some c → (run {} events).claims[place']? = some d →
        (c.SharesName d ↔ c.fileName = d.fileName) := fun found found' =>
    Claim.sharesName_iff (plain_run events _ (List.mem_of_getElem? found))
      (plain_run events _ (List.mem_of_getElem? found'))
  constructor
  · intro apart entry inside other inside' different c d found found' directory shares
    obtain ⟨c', foundC, path⟩ := named.made_named entry inside
    obtain ⟨d', foundD, path'⟩ := named.made_named other inside'
    obtain rfl : c = c' := Option.some.inj (found.symm.trans foundC)
    obtain rfl : d = d' := Option.some.inj (found'.symm.trans foundD)
    have same := Claim.path_eq_iff.mpr ⟨directory, (shares_iff found found').mp shares⟩
    exact apart entry inside other inside' different (path.symm.trans (same.trans path'))
  · intro apart entry inside other inside' different same
    obtain ⟨c, found, path⟩ := named.made_named entry inside
    obtain ⟨d, found', path'⟩ := named.made_named other inside'
    obtain ⟨directory, name⟩ := Claim.path_eq_iff.mp (path.trans (same.trans path'.symm))
    exact apart entry inside other inside' different c d found found' directory
      ((shares_iff found found').mpr name)

/-- Eleven images without a prefix, and one with a digit for a prefix. -/
def twelveImages : List Event :=
  let image (name namePrefix : Text) :=
    Event.callLater (.image (name ++ ".png".toList) "assets".toList namePrefix)
  "abcdefghijk".toList.map (fun letter => image [letter] []) ++ [image ['a'] ['1']]

/-- The eleventh image and the first with the prefix get one path. -/
theorem eleventh_file_collides :
    ∃ entry ∈ (run {} twelveImages).made, ∃ other ∈ (run {} twelveImages).made,
      entry ≠ other ∧ entry.path = other.path := by
  decide +kernel

/-- Entries lie at different paths if names are not cut, no prefix ends in a digit, and what is left
of the prefixes tells owners of one directory apart. -/
theorem paths_distinct_of_tidy_prefixes (events : List Event)
    (fits : ∀ c ∈ (run {} events).claims, c.Fits)
    (tidy : ∀ c ∈ (run {} events).claims,
      (FileName.lead c.owner.namePrefix).getLast?.any Char.isDigit = false)
    (apart : ∀ c ∈ (run {} events).claims, ∀ d ∈ (run {} events).claims,
      c.owner.directory = d.owner.directory →
        FileName.lead c.owner.namePrefix = FileName.lead d.owner.namePrefix → c.owner = d.owner) :
    ((run {} events).made.map Entry.path).Nodup := by
  have named : (run {} events).account.Named := Account.Reaches.named (reaches_run {} events)
  have places : ((run {} events).made.map Entry.order).Nodup :=
    Multiset.coe_nodup.mp (Multiset.nodup_of_le (Multiset.le_add_right _ _) named.places_nodup)
  refine List.Nodup.map_on (fun entry inside other inside' same => ?_) (.of_map _ places)
  obtain ⟨c, found, path⟩ := named.made_named entry inside
  obtain ⟨d, found', path'⟩ := named.made_named other inside'
  have member := List.mem_of_getElem? found
  have member' := List.mem_of_getElem? found'
  obtain ⟨directory, name⟩ := Claim.path_eq_iff.mp (path.trans (same.trans path'.symm))
  have shares := (Claim.sharesName_iff (plain_run events c member) (plain_run events d member')).mpr
    name
  rw [Claim.SharesName, if_pos ⟨fits c member, fits d member'⟩] at shares
  obtain ⟨lead, number⟩ := Claim.stem_injective (tidy c member) (tidy d member') shares.1
  have owner := apart c member d member' directory lead
  have place := named.ledger.number_injective found found' owner number
  exact List.inj_on_of_nodup_map places inside inside' place

end Traffic
end Asset
end ArticleMarkdown
