import ArticleMarkdown.Proofs.Article.Abort
import ArticleMarkdown.Proofs.Asset.Rounds
import ArticleMarkdown.Proofs.Asset.Separation
import ArticleMarkdown.Proofs.Markdown.Requests

/-!
# Merges and their schedules

The articles of a merge have owners of their own, so each is converted as it would be alone. When
every fetch succeeds, a merge gives the sections in the order of the articles and entries with the
same contents, whatever its fetches keep waiting and in whatever order its tasks run; only the
order of creation differs.
-/

namespace ArticleMarkdown.Article

open Asset

/-- An article whose markup gives a document with a body. -/
def Source.HasBody (source : Source) : Prop :=
  (root? (Html.read source.markup)).isSome = true

instance (source : Source) : Decidable source.HasBody :=
  inferInstanceAs (Decidable (_ = _))

/-- The draft of the article at an index, made under the settings for its section. -/
def draftAt (s : Settings) (source : Source) (index : Nat) : Draft Text :=
  (draft? (settingsAt s index) (Html.read source.markup)).getD (.of [])

/-- What becomes of the requests of the article at an index when it is converted alone. -/
def outlookAt (image : Text → FetchedImage) (s : Settings) (source : Source) (index : Nat) :
    Outlook :=
  Scope.servedAll image {} (draftAt s source index).requests

/-- The text of the article at an index when it is converted alone. -/
def textAt (image : Text → FetchedImage) (s : Settings) (source : Source) (index : Nat) : Text :=
  (draftAt s source index).fill (outlookAt image s source index).paths

section Sections

variable {s : Settings} {source : Source}

private theorem draft?_of_body (body : source.HasBody) (index : Nat) :
    draft? (settingsAt s index) (Html.read source.markup) = some (draftAt s source index) := by
  obtain ⟨root, found⟩ := Option.isSome_iff_exists.mp body
  simp only [draftAt, draft?, found, Option.map_some, Option.getD_some]

private theorem draftAt_madeUnder (s : Settings) (source : Source) (index : Nat) :
    (draftAt s source index).MadeUnder (settingsAt s index) := by
  simp only [draftAt, draft?]
  cases root? (Html.read source.markup) with
  | none => exact .of _
  | some root => exact draftDocument_madeUnder _ root.children

/-- Articles of one merge have different owners. -/
theorem settingsAt_owner_injective (s : Settings) :
    Function.Injective fun index => (settingsAt s index).owner := by
  intro first second same
  have prefixes : s.assetPrefix ++ Text.ofNat (first + 1) ++ ['_'] =
      s.assetPrefix ++ Text.ofNat (second + 1) ++ ['_'] := congrArg Owner.namePrefix same
  have numbers := List.append_cancel_left (List.append_cancel_right prefixes)
  exact Nat.succ.inj (Text.ofNat_injective numbers)

private theorem requests_proper (s : Settings) (source : Source) (index : Nat) :
    Request.Proper (settingsAt s index).owner (draftAt s source index).requests :=
  fun request member =>
    have asks := draftAt_madeUnder s source index request member
    ⟨asks.owner, asks.proper⟩

/-- What an article gives when it is converted alone with a fetcher that always succeeds. -/
theorem convertMarkup_alone {image : Text → FetchedImage} {fetch : Fetcher}
    (brings : fetch.Brings image) (body : source.HasBody) (index : Nat) :
    (convertMarkup (some fetch) (settingsAt s index) {} source.markup).2 =
        .ok (textAt image s source index) ∧
      (convertMarkup (some fetch) (settingsAt s index) {} source.markup).1.sink.contents =
        (outlookAt image s source index).contents := by
  obtain ⟨after, answered, contents⟩ :=
    Store.answerAll_serves brings {} (requests_proper s source index)
  simp only [convertMarkup, draft?_of_body body, complete, answered]
  exact ⟨rfl, contents⟩

private theorem sectionDrafts_of_bodies {sources : List Source}
    (bodies : ∀ source ∈ sources, source.HasBody) :
    sectionDrafts s sources = (sources.zipIdx.map fun (source, index) =>
      (draftAt s source index).map (sectionText source.title)).map some := by
  rw [sectionDrafts, List.map_map]
  refine List.map_congr_left fun ⟨source, index⟩ member => ?_
  have body := bodies source (List.fst_mem_of_mem_zipIdx member)
  simp only [sectionDraft?, draft?_of_body body, Option.map_some, Function.comp_apply]

private theorem wholeDrafts_map_some (drafts : List (Draft Text)) :
    wholeDrafts (drafts.map some) = drafts := by
  have all : (drafts.map some).takeWhile Option.isSome = drafts.map some :=
    List.takeWhile_eq_self_iff.mpr (by simp)
  rw [wholeDrafts, all]
  simp

end Sections

/-- What a merge gives: the sections in order, entries with given contents, and places in the order
of creation from the first on. -/
structure Merged (sources : List Source) (text : Source → Nat → Text)
    (contents : Source → Nat → List Content) (store : Store) (result : Except Fault Text) :
    Prop where
  result : result =
    .ok (sources.zipIdx.flatMap fun (source, index) => sectionText source.title (text source index))
  contents : store.sink.contents.Perm
    (sources.zipIdx.flatMap fun (source, index) => contents source index)
  orders : (store.sink.entries.map Entry.order).Perm (List.range store.sink.entries.length)

section Schedules

variable {s : Settings} {sources : List Source} {image : Text → FetchedImage}

/-- The requests of each section. -/
def sectionRequests (s : Settings) (sources : List Source) : List (List Request) :=
  sources.zipIdx.map fun (source, index) => (draftAt s source index).requests

private theorem sectionTasks_of_bodies (bodies : ∀ source ∈ sources, source.HasBody) :
    sectionTasks s sources = (sectionRequests s sources).map Task.ready := by
  rw [sectionTasks, sectionDrafts_of_bodies bodies, wholeDrafts_map_some, tasksOf_eq,
    sectionRequests]
  simp only [List.map_map]
  exact List.map_congr_left fun ⟨source, index⟩ _ => rfl

/-- Whatever the schedule, the tasks of a merge are separate. -/
theorem sections_separate (bodies : ∀ source ∈ sources, source.HasBody) {turns : List Turn}
    (brings : ∀ turn ∈ turns, turn.Brings image) :
    Separate image (fun index => (settingsAt s index).owner)
      (sources.zipIdx.map fun (source, index) => (outlookAt image s source index).paths)
      (sources.zipIdx.flatMap fun (source, index) => (outlookAt image s source index).contents)
      (takeTurns ({}, sectionTasks s sources) turns) := by
  have start : Separate image (fun index => (settingsAt s index).owner)
      ((sectionRequests s sources).map fun todo => (Scope.servedAll image {} todo).paths)
      ((sectionRequests s sources).flatMap fun todo => (Scope.servedAll image {} todo).contents)
      ({}, (sectionRequests s sources).map Task.ready) := by
    refine .initial fun index todo found => ?_
    rw [sectionRequests, List.getElem?_map] at found
    obtain ⟨⟨source, place⟩, there, rfl⟩ := Option.map_eq_some_iff.mp found
    rw [List.getElem?_zipIdx] at there
    obtain ⟨source, -, same⟩ := Option.map_eq_some_iff.mp there
    cases same
    rw [Nat.zero_add]
    exact requests_proper s source index
  rw [sectionTasks_of_bodies bodies]
  have ran := start.takeTurns (settingsAt_owner_injective s) brings
  simpa only [sectionRequests, outlookAt, List.map_map, List.flatMap_map, Function.comp_def]
    using ran

/-- Tasks that have finished with the answers foreseen are concluded with all sections. -/
theorem conclude_finished (bodies : ∀ source ∈ sources, source.HasBody) :
    conclude (sectionDrafts s sources)
        ((sources.zipIdx.map fun (source, index) => (outlookAt image s source index).paths).map
          Task.finished) =
      .ok (sources.zipIdx.flatMap fun (source, index) =>
        sectionText source.title (textAt image s source index)) := by
  have no_fault : ∀ paths : List (List Text), firstFault? (paths.map Task.finished) = none := by
    intro paths
    simp [firstFault?]
  have whole : ∀ drafts : List (Draft Text), (drafts.map some).all Option.isSome = true := by
    simp
  rw [sectionDrafts_of_bodies bodies, conclude, no_fault]
  simp only
  rw [whole, if_pos rfl, wholeDrafts_map_some, joinDrafts, List.map_map, List.zip_map',
    List.flatMap_map]
  rfl

/-- Whatever the schedule, once its tasks have ended a merge gives what its articles do alone. -/
theorem merged_of_takeTurns (bodies : ∀ source ∈ sources, source.HasBody) {turns : List Turn}
    (brings : ∀ turn ∈ turns, turn.Brings image)
    (allOver : (takeTurns ({}, sectionTasks s sources) turns).2.all Task.isOver = true) :
    Merged sources (textAt image s) (fun source index => (outlookAt image s source index).contents)
      (takeTurns ({}, sectionTasks s sources) turns).1
      (conclude (sectionDrafts s sources) (takeTurns ({}, sectionTasks s sources) turns).2) := by
  obtain ⟨finished, contents⟩ := (sections_separate bodies brings).ended allOver
  refine ⟨?_, contents, ?_⟩
  · rw [finished, conclude_finished bodies]
  · rw [sectionTasks_of_bodies bodies] at finished ⊢
    exact orders_of_ended finished

/-- The rounds of a merge end with all tasks, if every fetch succeeds. -/
theorem runDrafts_ends {fetch : Fetcher} (brings : fetch.Brings image)
    (bodies : ∀ source ∈ sources, source.HasBody) :
    ∃ turns, (∀ turn ∈ turns, turn.Brings image) ∧
      takeTurns ({}, sectionTasks s sources) turns =
        runDrafts (some fetch) {} (sectionDrafts s sources) ∧
      (takeTurns ({}, sectionTasks s sources) turns).2.all Task.isOver = true := by
  obtain ⟨turns, same, ran⟩ := runDrafts_eq_takeTurns (some fetch) {} (sectionDrafts s sources)
  have eachBrings : ∀ turn ∈ turns, turn.Brings image :=
    fun turn member => ⟨fetch, same turn member, brings⟩
  have none_failed := (sections_separate (s := s) bodies eachBrings).none_failed
  refine ⟨turns, eachBrings, ran, ?_⟩
  have whole : (sectionDrafts s sources).all Option.isSome = true := by
    rw [sectionDrafts_of_bodies bodies]
    simp
  -- Rounds stop early only at a failure, and no fetch fails.
  have ended := runRounds_end (some fetch) true {} (sectionTasks s sources)
  have rounds : runDrafts (some fetch) {} (sectionDrafts s sources) =
      runRounds (some fetch) true {} (sectionTasks s sources) := if_pos whole
  rw [← rounds, ← ran] at ended
  change ((takeTurns ({}, sectionTasks s sources) turns).2.all Task.isOver ||
    (true && (takeTurns ({}, sectionTasks s sources) turns).2.any Task.isFailed)) = true at ended
  simpa only [none_failed, Bool.and_false, Bool.or_false] using ended

end Schedules

/-- A fetcher that brings an image of one byte, after some turns for one address. -/
def bringsByte (waits : Nat) : Fetcher := fun address =>
  ⟨if address = ['a'] then waits else 0, .ok ⟨[97], "image/png".toList⟩⟩

/-- Two articles with an image each, whose addresses do not tell the files' types. -/
def bareImages : List Source :=
  [⟨"A".toList, "<img src=\"a\">".toList⟩, ⟨"B".toList, "<img src=\"b\">".toList⟩]

end ArticleMarkdown.Article
