import ArticleMarkdown.Article.Merge
import ArticleMarkdown.Proofs.Asset.Turns

/-!
# Merges that are given up

When one article of a merge fails, the tasks of the others are dropped where they stand. A task
that is dropped while it waits for an image whose name is already taken leaves the record of that
name behind, and nobody will make its entry. That is the only way in which a merge can leave a
record without an entry.
-/

namespace ArticleMarkdown.Article

open Asset

/-- The tasks of a merge, one for each article before the first without a body. -/
def sectionTasks (s : Settings) (sources : List Source) : List Task :=
  tasksOf (wholeDrafts (sectionDrafts s sources))

/-- Every draft is a task whose requests are still to be made. -/
theorem tasksOf_eq (drafts : List (Draft Text)) :
    tasksOf drafts = (drafts.map Draft.requests).map Task.ready := by
  simp [tasksOf]

/-- The tasks of drafts run by some schedule. -/
theorem runDrafts_eq_takeTurns (fetcher : Option Fetcher) (store : Store)
    (drafts : List (Option (Draft Text))) :
    ∃ turns, (∀ turn ∈ turns, turn.fetcher = fetcher) ∧
      takeTurns (store, tasksOf (wholeDrafts drafts)) turns = runDrafts fetcher store drafts := by
  simp only [runDrafts]
  split
  · exact runRounds_eq_takeTurns fetcher true store _
  · simpa only [List.nil_append] using runRound_eq_takeTurns fetcher true store [] _

private theorem merge_store (fetcher : Option Fetcher) (s : Settings) (store : Store)
    (sources : List Source) :
    (merge fetcher s store sources).1 = (runDrafts fetcher store (sectionDrafts s sources)).1 :=
  rfl

/-- After a merge, however it ended, every record has an entry if and only if the records from
before have one, and the names held by the flights of dropped tasks have one. The same holds at
whatever point any other schedule of the tasks is given up. -/
theorem merge_covered_iff (fetcher : Option Fetcher) (s : Settings) (store : Store)
    (drained : List Entry) (sources : List Source) :
    ((merge fetcher s store sources).1.sink.Covered
        (drained ++ (merge fetcher s store sources).1.sink.entries) ↔
      store.sink.Covered (drained ++ (merge fetcher s store sources).1.sink.entries) ∧
        Task.FlightsCovered (runDrafts fetcher store (sectionDrafts s sources)).2
          (drained ++ (merge fetcher s store sources).1.sink.entries)) ∧
    ∀ turns,
      (takeTurns (store, sectionTasks s sources) turns).1.sink.Covered
          (drained ++ (takeTurns (store, sectionTasks s sources) turns).1.sink.entries) ↔
        store.sink.Covered
            (drained ++ (takeTurns (store, sectionTasks s sources) turns).1.sink.entries) ∧
          Task.FlightsCovered (takeTurns (store, sectionTasks s sources) turns).2
            (drained ++ (takeTurns (store, sectionTasks s sources) turns).1.sink.entries) := by
  have scheduled := takeTurns_covered_iff
    ((wholeDrafts (sectionDrafts s sources)).map Draft.requests) store drained
  rw [← tasksOf_eq] at scheduled
  refine ⟨?_, scheduled⟩
  obtain ⟨turns, -, run⟩ := runDrafts_eq_takeTurns fetcher store (sectionDrafts s sources)
  rw [merge_store, ← run]
  exact scheduled turns

/-- A fetcher that is slow to bring one image and fails at once for every other. -/
def slowThenFailing : Fetcher := fun address =>
  if address = "a.png".toList then ⟨1, .ok ⟨[97], "image/png".toList⟩⟩
  else ⟨0, .error (.unreachable address 1 "boom".toList)⟩

/-- Two articles with an image each. -/
def twoImages : List Source :=
  [⟨"A".toList, "<img src=\"a.png\">".toList⟩, ⟨"B".toList, "<img src=\"b.png\">".toList⟩]

/-- A merge fails while its first article waits for an image. The record of the image stays, no
entry comes, and a later conversion refers to a file that does not exist. -/
theorem aborted_merge_leaves_record :
    let store := (merge (some slowThenFailing) { localizeAssets := true } {} twoImages).1
    let later := convertMarkup (some slowThenFailing)
      { localizeAssets := true, assetPrefix := "1_".toList } store "<img src=\"a.png\">".toList
    (merge (some slowThenFailing) { localizeAssets := true } {} twoImages).2.isOk = false ∧
      ¬store.sink.Covered store.sink.entries ∧
      later.2 = .ok "![](assets/1_1.png)\n\n".toList ∧ later.1.sink.entries = [] := by
  intro store later
  have record : store.sink.record? ⟨"1_".toList, "assets".toList⟩ (.image "a.png".toList) =
      some "assets/1_1.png".toList := by decide +kernel
  have empty : store.sink.entries = [] := by decide +kernel
  refine ⟨by decide +kernel, fun covered => ?_, by decide +kernel, by decide +kernel⟩
  obtain ⟨entry, member, -⟩ := covered _ _ _ record
  rw [empty] at member
  exact List.not_mem_nil member

end ArticleMarkdown.Article
