import ArticleMarkdown.Article.Convert
import ArticleMarkdown.Proofs.Asset.FileName
import ArticleMarkdown.Proofs.Markdown.Embeds
import ArticleMarkdown.Proofs.Markdown.LinkReading

/-!
# References to files

The file of an image and that of a drawing are referred to by the same Markdown, a label and a
destination. An image writes the destination as links do, in angle brackets where it would end
early; a drawing writes the path as it is, which is the same only if nothing in the path ends a
destination (`Article.fileReference_iff`). File names are cleaned of most of what does, and the
directory before them is not (`Asset.Sink.filePath_bare_iff`).
-/

namespace ArticleMarkdown

namespace Link

/-- An address is written as it is exactly when nothing in it would end the destination. -/
theorem destination_eq_self_iff {address : Text} :
    destination address = address ↔ ∀ c ∈ address, endsDestination c = false := by
  rw [destination_eq]
  split
  · next ends =>
    obtain ⟨c, member, stops⟩ := List.any_eq_true.mp ends
    refine iff_of_false (fun same => ?_) fun bare => ?_
    · have longer := congrArg List.length same
      have grows : address.length ≤ (shielded address).length := by
        refine Text.length_le_flatMap (fun c => ?_) address
        split
        · exact List.cons_ne_nil _ _
        · split <;> exact List.cons_ne_nil _ _
      simp at longer
      omega
    · rw [bare c member] at stops
      cases stops
  · next ends =>
    exact iff_of_true rfl (Text.of_any_eq_false (Bool.eq_false_iff.mpr ends))

end Link

namespace Asset

/-- File names are cleaned of everything that would end a destination, except parentheses.
Directories are not cleaned. -/
theorem Sink.filePath_bare_iff (owner : Owner) (number : Nat) (extension : Text) :
    (∀ c ∈ filePath owner number extension, Link.endsDestination c = false) ↔
      (∀ c ∈ owner.directory, Link.endsDestination c = false) ∧
        ∀ c ∈ FileName.ofText (owner.namePrefix ++ Text.ofNat number ++ '.' :: extension),
          c ≠ '(' ∧ c ≠ ')' := by
  generalize written : owner.namePrefix ++ Text.ofNat number ++ '.' :: extension = name
  have bare : ∀ c ∈ FileName.ofText name,
      Link.endsDestination c = false ↔ c ≠ '(' ∧ c ≠ ')' := by
    intro c member
    have cleaned : c ≠ '<' ∧ c ≠ '>' := by
      constructor <;> rintro rfl <;>
        exact FileName.notMem_ofText (by decide) name member
    rw [Link.endsDestination, (FileName.of_mem_ofText member).2]
    simp [cleaned]
  rw [← forall₂_congr bare, filePath, written]
  by_cases root : owner.directory = []
  · simp [root]
  · have slash : Link.endsDestination '/' = false := by decide
    simp [root, slash, or_imp, forall_and]

end Asset

namespace Image

/-- A Markdown image with its destination as it is written. -/
def reference (label destination : Text) : Text :=
  '!' :: '[' :: Link.escapeLabel label ++ ']' :: '(' :: destination ++ [')']

/-- No size of an image is kept. -/
structure IsUnsized (s : Settings) (attributes : List Attribute) : Prop where
  width : keptLength s attributes "width" = none
  height : keptLength s attributes "height" = none

private theorem markdown_unsized (address alt : Text) :
    markdown address alt none none = reference alt (Link.destination address) := by
  simp [markdown, reference, Link.ofText, Link.ending]

/-- An image that asks for a file shows no formula, has an address, and is shown with the path. -/
theorem shown_of_request {s : Settings} {centered : Bool} {attributes : List Attribute}
    {request : Asset.Request} (asks : (draft s centered attributes).requests = [request]) :
    Attribute.hasClass attributes formulaClass = false ∧
      Text.trim (Attribute.valueOf attributes "src") ≠ [] ∧
      ∀ path, shownAddress s attributes [path] = path := by
  simp only [draft, shownAddress] at asks ⊢
  split at asks
  · cases asks
  · next plain =>
    split at asks
    · cases asks
    · next addressed =>
      refine ⟨Bool.eq_false_iff.mpr plain, mt List.isEmpty_iff.mpr addressed, fun path => ?_⟩
      generalize (s.localizeAssets && !Asset.Sink.isSelfContained _) = localize at asks ⊢
      cases localize with
      | true => rfl
      | false => cases asks

private theorem fill_of_request {s : Settings} {centered : Bool} {attributes : List Attribute}
    {request : Asset.Request} (asks : (draft s centered attributes).requests = [request])
    (unsized : IsUnsized s attributes) (path : Text) :
    ∃ centers, (draft s centered attributes).fill [path] =
      placed centers (reference (Text.trim (Attribute.valueOf attributes "alt"))
        (Link.destination path)) := by
  obtain ⟨plain, addressed, shows⟩ := shown_of_request asks
  obtain ⟨centers, filled⟩ := fill_draft plain addressed centered [path]
  rw [shows, unsized.width, unsized.height, markdown_unsized] at filled
  exact ⟨centers, filled⟩

end Image

private theorem Drawing.fill_of_request {s : Settings} {space : ElementSpace} {name : String}
    {attributes : List Attribute} {children : List Node} {request : Asset.Request}
    (asks : (draft s space name attributes children).requests = [request]) (path : Text) :
    (draft s space name attributes children).fill [path] =
      Image.placed true (Image.reference [] path) := by
  simp only [draft] at asks ⊢
  revert asks
  split
  · exact nofun
  · split
    · exact fun _ => rfl
    · split <;> exact nofun

/-- The label of the reference to an element's file. A drawing has none. -/
def Node.fileLabel (name : String) (attributes : List Attribute) : Text :=
  if name = "img" then Text.trim (Attribute.valueOf attributes "alt") else []

namespace Article
open Asset

private theorem complete_of_answer {draft : Draft α} {fetcher : Option Fetcher}
    {store after : Store}
    {request : Request} {path : Text} (asks : draft.requests = [request])
    (answers : store.answer fetcher request = (after, .ok path)) :
    complete fetcher store draft = (after, .ok (draft.fill [path])) := by
  have all : store.answerAll fetcher draft.requests = (after, .ok [path]) := by
    rw [asks, Store.answerAll, answers]
    rfl
  rw [complete, all]

/-- An image of which no size is kept, or a drawing, that becomes a file is shown by a reference to
the file. It has the destination of the file's path exactly if the element is an image or nothing in
the path would end a destination. -/
theorem fileReference_iff {s : Settings} {centered : Bool} {space : ElementSpace} {name : String}
    {attributes : List Attribute} {children : List Node} {fetcher : Option Fetcher}
    {store after : Store} {request : Request} {path : Text}
    (file : name = "img" ∧ Image.IsUnsized s attributes ∨ name = "svg")
    (asks : (draftNode s centered (.element space name attributes children)).requests = [request])
    (answers : store.answer fetcher request = (after, .ok path)) :
    ∃ centers destination,
      complete fetcher store (draftNode s centered (.element space name attributes children)) =
        (after, .ok (Image.placed centers
          (Image.reference (Node.fileLabel name attributes) destination))) ∧
      (destination = Link.destination path ↔
        name = "img" ∨ ∀ c ∈ path, Link.endsDestination c = false) := by
  rw [complete_of_answer asks answers]
  rcases file with ⟨rfl, unsized⟩ | rfl
  · have drafted : draftNode s centered (.element space "img" attributes children) =
        Image.draft s centered attributes := by
      have rule : Rule.ofName "img" = .image := rfl
      rw [draftNode, rule]
    rw [drafted] at asks ⊢
    obtain ⟨centers, filled⟩ := Image.fill_of_request asks unsized path
    refine ⟨centers, Link.destination path, ?_, iff_of_true rfl (.inl rfl)⟩
    rw [filled]
    rfl
  · have drafted : draftNode s centered (.element space "svg" attributes children) =
        Drawing.draft s space "svg" attributes (Node.allShown centered children) := by
      have rule : Rule.ofName "svg" = .drawing := rfl
      rw [draftNode, rule]
    rw [drafted] at asks ⊢
    refine ⟨true, path, ?_, ?_⟩
    · rw [Drawing.fill_of_request asks path]
      rfl
    · rw [eq_comm, Link.destination_eq_self_iff, or_iff_right (by decide)]

/-- A directory whose name holds a space. -/
def spacedDirectory : Settings :=
  { assetDirectory := "my assets".toList, localizeAssets := true }

/-- The path of an image is read back from what refers to its file. -/
theorem fileReference_iff_image :
    let image : List Attribute := [⟨.none, "src", "a.png".toList⟩, ⟨.none, "alt", "x".toList⟩]
    let request : Request := .image "a.png".toList "my assets".toList []
    Image.IsUnsized spacedDirectory image ∧
      (draftNode spacedDirectory false (.element .html "img" image [])).requests = [request] ∧
      (Store.answer none {} request).2 = .ok "my assets/1.png".toList ∧
      ∃ centers, (complete none {}
          (draftNode spacedDirectory false (.element .html "img" image []))).2 =
        .ok (Image.placed centers "![x](<my assets/1.png>)".toList) := by
  intro image request
  have unsized : Image.IsUnsized spacedDirectory image := ⟨by decide, by decide⟩
  have asks : (draftNode spacedDirectory false (.element .html "img" image [])).requests =
      [request] := by rfl
  have answers : Store.answer none {} request =
      ((Store.answer none {} request).1, .ok "my assets/1.png".toList) := by rfl
  obtain ⟨centers, destination, written, same⟩ :=
    fileReference_iff (.inl ⟨rfl, unsized⟩) asks answers
  refine ⟨unsized, asks, congrArg Prod.snd answers, centers, ?_⟩
  rw [written, same.mpr (.inl rfl)]
  rfl

/-- A reference to the file of a drawing that ends in the middle of the directory's name. -/
theorem fileReference_drawing :
    spacedDirectory.validate = .ok spacedDirectory ∧
      (Store.answer none {} (.drawing (Drawing.markup .svg "svg" [] []) "my assets".toList [])).2 =
        .ok "my assets/1.svg".toList ∧
      (complete none {} (draftNode spacedDirectory false (.element .svg "svg" [] []))).2 =
        .ok (Fragment.blockText "![](my assets/1.svg)".toList) ∧
      Link.destination "my assets/1.svg".toList = "<my assets/1.svg>".toList ∧
      Link.read? "[](my assets/1.svg)".toList = none := by
  refine ⟨by decide, by rfl, by rfl, by decide, by decide⟩

end Article

end ArticleMarkdown
