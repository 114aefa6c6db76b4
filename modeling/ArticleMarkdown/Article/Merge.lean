import ArticleMarkdown.Article.Convert
import ArticleMarkdown.Asset.Task

/-!
# Merging articles

Several articles become one document. Each is converted as a task of its own, and all tasks share
a store; the prefix of its assets tells an article's files from those of the others.
-/

namespace ArticleMarkdown.Article

/-- An article and its title. -/
structure Source where
  title : Text
  markup : Text
  deriving DecidableEq, Repr

/-- The settings for the article at an index. -/
def settingsAt (s : Settings) (index : Nat) : Settings :=
  s.withAssetPrefix (s.assetPrefix ++ Text.ofNat (index + 1) ++ ['_'])

/-- The section of a merged document: an article under its title. -/
def sectionText (title body : Text) : Text :=
  "# ".toList ++ Text.trim title ++ "\n\n".toList ++ body

/-- The draft of the section of the article at an index. -/
def sectionDraft? (s : Settings) (source : Source) (index : Nat) : Option (Draft Text) :=
  (draft? (settingsAt s index) (Html.read source.markup)).map fun draft =>
    draft.map (sectionText source.title)

/-- The drafts of all sections; nothing for an article without a body. -/
def sectionDrafts (s : Settings) (sources : List Source) : List (Option (Draft Text)) :=
  sources.zipIdx.map fun (source, index) => sectionDraft? s source index

/-- The fault of the first task that failed. -/
def firstFault? (tasks : List Asset.Task) : Option Asset.Fault :=
  tasks.findSome? fun
    | .failed fault => some fault
    | .ready _ | .waiting _ _ _ _ _ | .finished _ => none

/-- The answers of a task. -/
def answers : Asset.Task → List Text
  | .finished paths => paths
  | .ready _ | .waiting _ _ _ _ _ | .failed _ => []

/-- The drafts before the first article without a body. -/
def wholeDrafts (drafts : List (Option (Draft Text))) : List (Draft Text) :=
  (drafts.takeWhile Option.isSome).filterMap id

/-- The tasks that make the requests of drafts. -/
def tasksOf (drafts : List (Draft Text)) : List Asset.Task :=
  drafts.map fun draft => .ready draft.requests

/-- Runs the tasks of drafts together, in rounds. An article without a body fails at its first turn:
then only the articles before it have had one. -/
def runDrafts (fetcher : Option Asset.Fetcher) (store : Asset.Store)
    (drafts : List (Option (Draft Text))) : Asset.Store × List Asset.Task :=
  let ready := tasksOf (wholeDrafts drafts)
  if drafts.all Option.isSome then Asset.runRounds fetcher true store ready
  else Asset.runRound fetcher true store ready

/-- The results of drafts, completed with the answers of their tasks, one after another. -/
def joinDrafts (drafts : List (Draft Text)) (tasks : List Asset.Task) : Text :=
  (drafts.zip tasks).flatMap fun (draft, task) => draft.fill (answers task)

/-- What becomes of drafts whose tasks have run: the first fault, or the joined results. -/
def conclude (drafts : List (Option (Draft Text))) (tasks : List Asset.Task) :
    Except Fault Text :=
  match firstFault? tasks with
  | some fault => .error (.asset fault)
  | none =>
    if drafts.all Option.isSome then .ok (joinDrafts (wholeDrafts drafts) tasks)
    else .error .noBody

/-- Completes drafts together and joins their results. -/
def completeTogether (fetcher : Option Asset.Fetcher) (store : Asset.Store)
    (drafts : List (Option (Draft Text))) : Asset.Store × Except Fault Text :=
  let (store, tasks) := runDrafts fetcher store drafts
  (store, conclude drafts tasks)

/-- Converts articles and joins them, each under its title. -/
def merge (fetcher : Option Asset.Fetcher) (s : Settings) (store : Asset.Store)
    (sources : List Source) : Asset.Store × Except Fault Text :=
  completeTogether fetcher store (sectionDrafts s sources)

end ArticleMarkdown.Article
