import ArticleMarkdown.Proofs.Asset.Answer
import ArticleMarkdown.Proofs.Asset.FileName
import ArticleMarkdown.Proofs.Text.Solid
import ArticleMarkdown.Settings.Basic

/-!
# Plain paths

When the directory and the prefix of assets are made of letters, digits, underscores and hyphens,
so are the paths of their files, apart from slashes and dots. Whoever is answered with all paths is
told the path of every entry that was made on the way.
-/

namespace ArticleMarkdown

namespace Text

/-- An ASCII letter or digit, an underscore or a hyphen. -/
def isNameChar (c : Char) : Bool :=
  isAsciiAlphanumeric c || c == '_' || c == '-'

/-- A character that a plain path may hold. -/
def isPathChar (c : Char) : Bool :=
  isNameChar c || c == '/' || c == '.'

private theorem isPathChar_of_isNameChar {c : Char} (plain : isNameChar c = true) :
    isPathChar c = true := by
  rw [isPathChar, plain]
  rfl

private theorem isPathChar_of_isAsciiAlphanumeric {c : Char}
    (plain : isAsciiAlphanumeric c = true) :
    isPathChar c = true := by
  rw [isPathChar, isNameChar, plain]
  rfl

private theorem isSpace_of_isPathChar {c : Char} (plain : isPathChar c = true) :
    isSpace c = false := by
  simp only [isPathChar, isNameChar, Bool.or_eq_true, beq_iff_eq] at plain
  rcases plain with (((alphanumeric | rfl) | rfl) | rfl) | rfl
  · exact (FileName.alphanumeric_properties alphanumeric).1
  all_goals rfl

/-- A text that is not empty and made of characters of paths. -/
structure PlainPath (p : Text) : Prop where
  filled : p ≠ []
  plain : ∀ c ∈ p, isPathChar c = true

/-- Plain paths hold no whitespace. -/
theorem PlainPath.solid {p : Text} (path : PlainPath p) : p.Solid :=
  ⟨path.filled, fun c member => isSpace_of_isPathChar (path.plain c member)⟩

end Text

namespace FileName

/-- A name made from characters of paths is a plain path. -/
theorem ofText_plainPath {name : Text} (plain : ∀ c ∈ name, Text.isPathChar c = true) :
    Text.PlainPath (ofText name) := by
  refine ⟨ofText_ne_nil name, fun c member => ?_⟩
  rcases ofText_cases name with nothing | ⟨-, shows⟩
  · rw [nothing] at member
    have untitled : "untitled".toList.all Text.isPathChar = true := by decide +kernel
    exact List.all_eq_true.mp untitled c member
  · rw [shows] at member
    obtain ⟨original, inside, rfl⟩ := List.mem_map.mp member
    have kept := of_mem_cleaned ((Text.takeUtf8_prefix _ _).subset inside)
    have inName : original ∈ name := (Text.infix_trim name).subset kept.1
    have plainOriginal := plain original inName
    rw [shown, Text.isSpace_of_isPathChar plainOriginal]
    exact plainOriginal

end FileName

/-- Settings whose directory and prefix of assets are made of letters, digits, underscores and
hyphens, with slashes in the directory. -/
structure Settings.PlainNames (s : Settings) : Prop where
  directory : s.assetDirectory.all (fun c => Text.isNameChar c || c == '/') = true
  namePrefix : s.assetPrefix.all Text.isNameChar = true

namespace Asset

/-- An owner whose files have plain paths. -/
structure Owner.PlainNames (owner : Owner) : Prop where
  directory : ∀ c ∈ owner.directory, Text.isPathChar c = true
  namePrefix : ∀ c ∈ owner.namePrefix, Text.isPathChar c = true

/-- Settings with plain names name an owner with plain names. -/
theorem Owner.plainNames_of {s : Settings} (plain : s.PlainNames) :
    (Owner.of s.assetPrefix s.assetDirectory).PlainNames := by
  refine ⟨fun c member => ?_, fun c member =>
    Text.isPathChar_of_isNameChar (List.all_eq_true.mp plain.namePrefix c member)⟩
  have inDirectory : c ∈ s.assetDirectory := by
    rw [← Text.dropEndWhile_append_takeEndWhile (· == '/') s.assetDirectory]
    exact List.mem_append_left _ member
  rw [Text.isPathChar, List.all_eq_true.mp plain.directory c inDirectory]
  rfl

private theorem Claim.path_plain {c : Claim} (owner : c.owner.PlainNames)
    (extension : PlainExtension c.extension) : Text.PlainPath c.path := by
  have name : Text.PlainPath (FileName.ofText
      (c.owner.namePrefix ++ Text.ofNat c.number ++ '.' :: c.extension)) := by
    refine FileName.ofText_plainPath (List.forall_mem_append.mpr ⟨List.forall_mem_append.mpr
      ⟨owner.namePrefix, fun d member => ?_⟩, List.forall_mem_cons.mpr ⟨rfl, fun d member => ?_⟩⟩)
    · have digit := Text.isDigit_of_mem_ofNat member
      simp only [Char.isDigit, Bool.and_eq_true, decide_eq_true_eq, ge_iff_le,
        UInt32.le_iff_toNat_le] at digit
      exact Text.isPathChar_of_isAsciiAlphanumeric (Text.isAsciiAlphanumeric_iff.mpr (.inl digit))
    · exact Text.isPathChar_of_isAsciiAlphanumeric (List.all_eq_true.mp extension d member)
  rw [Claim.path, Sink.filePath]
  split
  · exact name
  · refine ⟨List.append_ne_nil_of_right_ne_nil _ (List.cons_ne_nil _ _), ?_⟩
    exact List.forall_mem_append.mpr
      ⟨owner.directory, List.forall_mem_cons.mpr ⟨rfl, name.plain⟩⟩

/-- What requests of an owner add when they are answered with paths. -/
structure Store.Adds (owner : Owner) (store after : Store) (requests : List Request)
    (paths : List Text) (added : List Entry) : Prop where
  entries : after.sink.entries = store.sink.entries ++ added
  length : paths.length = requests.length
  /-- The path of every entry is among the answers. -/
  answered : ∀ entry ∈ added, entry.path ∈ paths
  plain : owner.PlainNames → ∀ entry ∈ added, Text.PlainPath entry.path

namespace Store

variable {fetcher : Option Fetcher} {store between after : Store} {owner : Owner}
  {request : Request} {rest : List Request} {path : Text} {paths : List Text}
  {first added : List Entry}

private theorem Answered.adds (served : Answered fetcher store request after (.ok path)) :
    ∃ added, Adds request.owner store after [request] [path] added := by
  cases served with
  | known recorded => exact ⟨[], (List.append_nil _).symm, rfl, nofun, nofun⟩
  | @made c payload mediaType kind asked fresh owned key plain brought =>
      refine ⟨[_], Sink.entries_push _ _, rfl, ?_, fun names => ?_⟩
      · exact List.forall_mem_singleton.mpr (List.mem_singleton_self _)
      · exact List.forall_mem_singleton.mpr (Claim.path_plain (owned ▸ names) plain)

private theorem Adds.cons (adds : Adds owner store between [request] [path] first)
    (later : Adds owner between after rest paths added) :
    Adds owner store after (request :: rest) (path :: paths) (first ++ added) where
  entries := by rw [later.entries, adds.entries, List.append_assoc]
  length := congrArg (· + 1) later.length
  answered := by
    refine List.forall_mem_append.mpr ⟨fun entry member => ?_, fun entry member => ?_⟩
    · rw [List.mem_singleton.mp (adds.answered entry member)]
      exact List.mem_cons_self
    · exact List.mem_cons_of_mem _ (later.answered entry member)
  plain names := List.forall_mem_append.mpr ⟨adds.plain names, later.plain names⟩

/-- When all requests are answered with paths, every entry lies at one of these. -/
theorem answerAll_adds (proper : Request.Proper owner rest)
    (answers : (store.answerAll fetcher rest).2 = .ok paths) :
    ∃ added, Adds owner store (store.answerAll fetcher rest).1 rest paths added := by
  induction rest generalizing store paths with
  | nil =>
      cases answers
      exact ⟨[], (List.append_nil _).symm, rfl, nofun, nofun⟩
  | cons request rest ih =>
      obtain ⟨⟨owned, first⟩, others⟩ := List.forall_mem_cons.mp proper
      subst owned
      have served := answer_answered fetcher store first
      rw [answerAll] at answers ⊢
      generalize store.answer fetcher request = answered at served answers ⊢
      obtain ⟨between, result⟩ := answered
      cases result with
      | error fault => cases answers
      | ok path =>
          simp only at answers ⊢
          obtain ⟨added, adds⟩ := Answered.adds served
          cases ends : (between.answerAll fetcher rest).2 with
          | error fault =>
              rw [ends] at answers
              cases answers
          | ok later =>
              rw [ends] at answers
              cases answers
              obtain ⟨addedLater, addsLater⟩ := ih others ends
              exact ⟨_, adds.cons addsLater⟩

end Store
end Asset
end ArticleMarkdown
