import ArticleMarkdown.Markdown.Convert
import ArticleMarkdown.Proofs.Asset.Plan
import ArticleMarkdown.Proofs.Text.Trim

/-!
# What documents ask for

All that a document asks for it asks for in the name of the owner that its settings tell, and only
when assets are to become files. What can never become a file is not asked for: an image without
an address, an image that its address holds, and a drawing that is none.
-/

namespace ArticleMarkdown

/-- The owner of the assets of a document. -/
def Settings.owner (s : Settings) : Asset.Owner :=
  Asset.Owner.of s.assetPrefix s.assetDirectory

/-- A request that documents make under given settings. -/
structure Settings.Asks (s : Settings) (request : Asset.Request) : Prop where
  localizes : s.localizeAssets = true
  owner : request.owner = s.owner
  proper : request.fault? = none

/-- A draft whose requests are made under given settings. -/
def Draft.MadeUnder (s : Settings) (draft : Draft α) : Prop :=
  ∀ request ∈ draft.requests, s.Asks request

namespace Draft.MadeUnder

variable {s : Settings} {α β γ : Type}

/-- A result that waits for no path asks for nothing. -/
theorem of (a : α) : (Draft.of a).MadeUnder s :=
  fun _ member => absurd member List.not_mem_nil

private theorem path {request : Asset.Request} (asks : s.Asks request) :
    (Draft.path request).MadeUnder s :=
  fun _ member => List.mem_singleton.mp member ▸ asks

/-- What is done with the result plays no part in the requests. -/
theorem map {draft : Draft α} (made : draft.MadeUnder s) (f : α → β) : (draft.map f).MadeUnder s :=
  made

private theorem combine {first : Draft α} {second : Draft β} (made : first.MadeUnder s)
    (made' : second.MadeUnder s) (f : α → β → γ) : (Draft.combine f first second).MadeUnder s :=
  List.forall_mem_append.mpr ⟨made, made'⟩

private theorem cons {first : Draft α} {rest : Draft (List α)} (made : first.MadeUnder s)
    (made' : rest.MadeUnder s) : (Draft.cons first rest).MadeUnder s :=
  made.combine made' _

private theorem append {first second : Draft Fragment} (made : first.MadeUnder s)
    (made' : second.MadeUnder s) : (first.append second).MadeUnder s :=
  made.combine made' _

/-- When assets stay where they are, nothing is asked for. -/
theorem requests_nil {draft : Draft α} (made : draft.MadeUnder s)
    (stays : s.localizeAssets = false) : draft.requests = [] := by
  refine List.eq_nil_iff_forall_not_mem.mpr fun request member => ?_
  have localizes := (made request member).localizes
  rw [stays] at localizes
  cases localizes

end Draft.MadeUnder

private theorem Image.draft_madeUnder (s : Settings) (centered : Bool)
    (attributes : List Attribute) :
    (Image.draft s centered attributes).MadeUnder s := by
  simp only [Image.draft]
  split
  · exact .of _
  · split
    · exact .of _
    · next shown =>
      apply Draft.MadeUnder.map
      split
      · next localized =>
        rw [Bool.and_eq_true, Bool.not_eq_true'] at localized
        refine .path ⟨localized.1, rfl, ?_⟩
        simp only [Asset.Request.fault?, Text.trim_trim, shown, localized.2, Bool.false_eq_true,
          if_false]
      · exact .of _

/-- Only elements of one name are drawings. -/
theorem Rule.name_of_drawing {name : String} (drawing : Rule.ofName name = .drawing) :
    name = "svg" := by
  unfold Rule.ofName at drawing
  split at drawing <;> first | rfl | cases drawing

/-- The markup of an element that is not void starts with its name. -/
theorem Markup.outer_element {space : ElementSpace} {name : String}
    (filled : Markup.isVoid space name = false) (attributes : List Attribute)
    (children : List Node) :
    ∃ rest, Markup.outer (.element space name attributes children) =
      '<' :: name.toList ++ rest := by
  rw [outer, writeNode.eq_def]
  simp only [filled, Bool.or_false, Bool.false_eq_true, if_false, startTag, List.append_assoc,
    List.cons_append]
  exact ⟨_, rfl⟩

/-- The markup of a drawing is one. -/
theorem Drawing.markup_starts (space : ElementSpace) (attributes : List Attribute)
    (children : List Node) :
    Text.startsWith "<svg".toList
      (Text.lower (Text.trim (Drawing.markup space "svg" attributes children))) = true := by
  have filled : Markup.isVoid space "svg" = false := by
    simp [Markup.isVoid, Markup.voidNames]
  obtain ⟨rest, written⟩ := Markup.outer_element filled (nameSpace attributes)
    (nameAllForeign false children)
  have name : '<' :: "svg".toList ++ rest = ['<', 's', 'v'] ++ 'g' :: rest := by simp
  have start : Text.trimStart (['<', 's', 'v'] ++ 'g' :: rest) = ['<', 's', 'v'] ++ 'g' :: rest :=
    Text.trimStart_append_cons (by decide) [] _
  rw [markup, written, name, Text.trim, start, Text.trimEnd_append_cons (by decide)]
  simp [Text.lower, Text.startsWith, Text.dropPrefix?, Text.lowerChar]

private theorem Drawing.draft_madeUnder (s : Settings) (space : ElementSpace) {name : String}
    (drawing : Rule.ofName name = .drawing) (attributes : List Attribute) (children : List Node) :
    (Drawing.draft s space name attributes children).MadeUnder s := by
  have isSvg := Rule.name_of_drawing drawing
  subst isSvg
  simp only [Drawing.draft]
  split
  · exact .of _
  · split
    · next localized =>
      refine .path ⟨localized, rfl, ?_⟩
      simp only [Asset.Request.fault?, Drawing.markup_starts, if_true]
    · split
      · exact .of _
      · exact .of _

/-- List nesting does not change what is asked for. -/
theorem Draft.MadeUnder.of_descend {s : Settings} {draft : Draft α}
    (made : draft.MadeUnder s.descend) : draft.MadeUnder s :=
  fun request member =>
    ⟨(made request member).localizes, (made request member).owner, (made request member).proper⟩

mutual

/-- The draft of a node asks under its settings. -/
theorem draftNode_madeUnder (s : Settings) (centered : Bool) :
    ∀ node, (draftNode s centered node).MadeUnder s
  | .text content => by
      rw [draftNode.eq_def]
      exact .of _
  | .comment content => by
      rw [draftNode.eq_def]
      exact .of _
  | .doctype name => by
      rw [draftNode.eq_def]
      exact .of _
  | .instruction target data => by
      rw [draftNode.eq_def]
      exact .of _
  | .document children => by
      rw [draftNode.eq_def]
      exact draftNodes_madeUnder s centered children
  | .element space name attributes children => by
      have below := fun centers => draftNodes_madeUnder s centers children
      rw [draftNode.eq_def]
      simp only
      split
      · exact (draftHeading_madeUnder s centered children).map _
      · split
        · exact (below true).map _
        · exact .of _
        · exact .of _
        · exact .of _
        · exact (below centered).map _
      · exact (below centered).map _
      · split
        · exact .of _
        · exact .of _
        · exact (below centered).map _
        · exact (below centered).map _
        · exact (below centered).map _
      · exact Image.draft_madeUnder s centered attributes
      · exact (draftItems_madeUnder s.descend centered _ _ children).of_descend.map _
      · exact (below centered).map _
      · exact .of _
      · exact .of _
      · split
        · exact (draftRows_madeUnder s centered false children).map _
        · exact (below centered).map _
      · split
        · exact .of _
        · split
          · exact .of _
          · exact below centered
      · split
        · exact .of _
        · exact below centered
      · split
        · exact .of _
        · exact (below centered).map _
      · exact (below centered).map _
      · exact .of _
      · next drawing => exact Drawing.draft_madeUnder s space drawing attributes _
      · split
        · exact .of _
        · exact (below true).map _
      · split
        · exact .of _
        · exact (below centered).map _
      · exact .of _
      · exact .of _
      · exact .of _
      · exact (below centered).map _

private theorem draftNodes_madeUnder (s : Settings) (centered : Bool) :
    ∀ nodes, (draftNodes s centered nodes).MadeUnder s
  | [] => by
      rw [draftNodes.eq_def]
      exact .of _
  | node :: rest => by
      rw [draftNodes.eq_def]
      exact (draftNode_madeUnder s centered node).append (draftNodes_madeUnder s centered rest)

/-- So does the draft of the content of a heading. -/
theorem draftHeading_madeUnder (s : Settings) (centered : Bool) :
    ∀ nodes, (draftHeading s centered nodes).MadeUnder s
  | [] => by
      rw [draftHeading.eq_def]
      exact .of _
  | node :: rest => by
      have later := draftHeading_madeUnder s centered rest
      rw [draftHeading.eq_def]
      simp only
      split
      · exact later
      · exact (draftNode_madeUnder s centered node).append later

/-- So does the draft of the children of an element. -/
theorem draftContent_madeUnder (s : Settings) (centered : Bool) :
    ∀ node, (draftContent s centered node).MadeUnder s
  | .element _ _ _ children => by
      rw [draftContent.eq_def]
      exact draftNodes_madeUnder s centered children
  | .document children => by
      rw [draftContent.eq_def]
      exact draftNodes_madeUnder s centered children
  | .text content => by
      rw [draftContent.eq_def]
      exact .of _
  | .comment content => by
      rw [draftContent.eq_def]
      exact .of _
  | .doctype name => by
      rw [draftContent.eq_def]
      exact .of _
  | .instruction target data => by
      rw [draftContent.eq_def]
      exact .of _

/-- So do the drafts of the items of a list. -/
theorem draftItems_madeUnder (s : Settings) (centered : Bool) (kind : ListKind) (number : Nat) :
    ∀ nodes, (draftItems s centered kind number nodes).MadeUnder s
  | [] => by
      rw [draftItems.eq_def]
      exact .of _
  | node :: rest => by
      have later := fun number => draftItems_madeUnder s centered kind number rest
      rw [draftItems.eq_def]
      simp only
      split
      · exact ((draftContent_madeUnder s centered node).map _).append (later _)
      · split
        · exact ((draftNode_madeUnder s centered node).map _).append (later number)
        · exact later number

/-- So do the drafts of the rows of a table. -/
theorem draftRows_madeUnder (s : Settings) (centered grouped : Bool) :
    ∀ nodes, (draftRows s centered grouped nodes).MadeUnder s
  | [] => by
      rw [draftRows.eq_def]
      exact .of _
  | .element _ _ _ children :: rest => by
      have later := draftRows_madeUnder s centered grouped rest
      rw [draftRows.eq_def]
      simp only
      split
      · exact (draftCells_madeUnder s centered children).cons later
      · split
        · exact (draftRows_madeUnder s centered true children).combine later _
        · exact later
  | .text _ :: rest | .comment _ :: rest | .doctype _ :: rest | .instruction _ _ :: rest
  | .document _ :: rest => by
      rw [draftRows.eq_def]
      exact draftRows_madeUnder s centered grouped rest

/-- So do the drafts of the cells of a row. -/
theorem draftCells_madeUnder (s : Settings) (centered : Bool) :
    ∀ nodes, (draftCells s centered nodes).MadeUnder s
  | [] => by
      rw [draftCells.eq_def]
      exact .of _
  | node :: rest => by
      have later := draftCells_madeUnder s centered rest
      rw [draftCells.eq_def]
      simp only
      split
      · exact ((draftContent_madeUnder s centered node).map _).cons later
      · exact later

end

/-- A document asks in the name of the owner that its settings tell, for what can be served. -/
theorem draftDocument_madeUnder (s : Settings) (children : List Node) :
    (draftDocument s children).MadeUnder s :=
  (draftNodes_madeUnder s false children).map _

end ArticleMarkdown
