import ArticleMarkdown.Article.Merge
import ArticleMarkdown.Cli.Run
import ArticleMarkdown.Proofs.Asset.Inside
import ArticleMarkdown.Proofs.Markdown.Requests

/-!
# Where a run writes

A conversion asks only in the name of the owner that its settings tell, and a merge only in the
names of owners with the directory of its settings. So a store keeps to inner paths through both
when the settings are not refused. A document is written to a file with a name of its own directly
in the output folder. Together with the assets, whose paths are inner ones, a run changes no file
outside of its output folder.
-/

namespace ArticleMarkdown.Article

open Asset

variable {s t : Settings} {store : Store} {α : Type}

private theorem requestsFor_of_madeUnder (accepted : t.validate = .ok s) (start : Text)
    {draft : Draft α}
    (made : draft.MadeUnder (s.withAssetPrefix start)) :
    RequestsFor Owner.IsInner draft.requests := by
  intro request member
  rw [(made request member).owner]
  exact Owner.isInner_of_accepted accepted start

/-- The draft of an article asks under its settings. -/
theorem draft?_madeUnder {document : Node} {draft : Draft Text}
    (drafted : draft? s document = some draft) : draft.MadeUnder s := by
  obtain ⟨root, -, rfl⟩ := Option.map_eq_some_iff.mp drafted
  exact draftDocument_madeUnder s root.children

private theorem isFor_convertMarkup (fetcher : Option Fetcher) (accepted : t.validate = .ok s)
    (isFor : store.sink.IsFor Owner.IsInner) (markup : Text) :
    (convertMarkup fetcher s store markup).1.sink.IsFor Owner.IsInner := by
  rw [convertMarkup]
  split
  · next draft drafted =>
    have asked := requestsFor_of_madeUnder accepted s.assetPrefix (draft?_madeUnder drafted)
    have answered := Store.isFor_answerAll fetcher isFor asked
    rw [complete]
    split
    · next ends =>
      rw [ends] at answered
      exact answered
    · next ends =>
      rw [ends] at answered
      exact answered
  · exact isFor

private theorem isFor_merge (fetcher : Option Fetcher) (accepted : t.validate = .ok s)
    (isFor : store.sink.IsFor Owner.IsInner) (sources : List Source) :
    (merge fetcher s store sources).1.sink.IsFor Owner.IsInner := by
  have own : ∀ task ∈ tasksOf (wholeDrafts (sectionDrafts s sources)),
      task.IsFor Owner.IsInner := by
    intro task member
    obtain ⟨draft, whole, rfl⟩ := List.mem_map.mp member
    obtain ⟨some_draft, taken, rfl⟩ := List.mem_filterMap.mp whole
    obtain ⟨⟨source, index⟩, -, drafted⟩ :=
      List.mem_map.mp ((List.takeWhile_prefix _).subset taken)
    obtain ⟨body, found, rfl⟩ := Option.map_eq_some_iff.mp drafted
    exact requestsFor_of_madeUnder accepted _ ((draft?_madeUnder found).map _)
  simp only [merge, completeTogether, runDrafts]
  split
  · exact isFor_runRoundsFor fetcher true _ isFor own
  · exact (isFor_runRound fetcher true isFor own).1

end ArticleMarkdown.Article

namespace ArticleMarkdown.Cli

open Asset

/-- The name of the file of a document. -/
def documentFile (name : Text) : Text :=
  FileName.ofText name ++ ".md".toList

/-- The folder that a run writes to. -/
def Options.root (o : Options) : Text :=
  o.output.getD defaultOutput

/-- The names of the documents that a run writes. -/
def Options.documents (o : Options) : List Text :=
  match o.merge with
  | some name => [name]
  | none => o.inputs.map title

/-- Every name gives the name of a file for its document. -/
theorem documentFile_isFileName (name : Text) : Path.IsFileName (documentFile name) where
  filled := List.append_ne_nil_of_right_ne_nil _ (List.cons_ne_nil _ _)
  slashless member := by
    rcases List.mem_append.mp member with inName | inEnding
    · exact FileName.slash_notMem_ofText name inName
    · exact absurd inEnding (by decide)
  notHere same := by
    have lengths := congrArg List.length same
    simp [documentFile, Path.here] at lengths
  notAbove same := by
    have lengths := congrArg List.length same
    simp [documentFile, Path.above] at lengths

/-- A file of a document can have its name if the name is not too long. -/
theorem isName_documentFile (name : Text) :
    Path.isName (documentFile name) = true ↔
      Text.utf8Length (documentFile name) ≤ Path.maxNameLength := by
  have zeroless : '\x00' ∉ documentFile name := by
    intro member
    rcases List.mem_append.mp member with inName | inEnding
    · exact FileName.notMem_ofText (by decide) name inName
    · exact absurd inEnding (by decide)
  rw [Path.isName, Bool.and_eq_true, decide_eq_true_eq, and_iff_right]
  simpa using zeroless

/-- A document is written directly in the output folder, or nothing is written: when there is no
such folder, when it has a folder of the document's name, or when the name is too long. -/
theorem writeDocument_eq (f : Folder) (output name markdown : Text) :
    writeDocument f output name markdown =
      if (f.follow? [] (Path.parts output)).isSome ∧
          f.hasFolder (Path.location output ++ [documentFile name]) = false ∧
          Text.utf8Length (documentFile name) ≤ Path.maxNameLength then
        (f.set (Path.location output ++ [documentFile name]) (Text.utf8 markdown),
          .ok (documentPath output name))
      else (f, .error (about "Failed to write" (documentPath output name))) := by
  have written := f.write?_join output (documentFile_isFileName name) (Text.utf8 markdown)
  simp only [isName_documentFile] at written
  rw [writeDocument]
  split
  · next g writes =>
    rw [documentPath, ← documentFile, written] at writes
    split at writes
    · next possible => rw [if_pos possible, Option.some.inj writes]
    · cases writes
  · next fails =>
    rw [documentPath, ← documentFile, written] at fails
    split at fails
    · cases fails
    · next impossible => rw [if_neg impossible]

/-- A step that writes only below a location, and whose result is as described. -/
structure KeepsTo (root : Location) (before : Folder) (step : Step α)
    (result : Folder → α → Prop) : Prop where
  grows : before.GrowsBelow root step.1
  gives : ∀ a, step.2 = .ok a → result step.1 a

namespace KeepsTo

variable {root : Location} {f : Folder} {α β : Type} {result : Folder → α → Prop}

private theorem ok {a : α} (described : result f a) : KeepsTo root f (f, .ok a) result where
  grows := .refl root f
  gives := by
    rintro _ ⟨⟩
    exact described

private theorem error (complaint : Text) : KeepsTo root f (f, .error complaint) result :=
  ⟨.refl root f, nofun⟩

/-- A step that comes after a change below the location. -/
theorem after {g : Folder} {step : Step α} (grows : f.GrowsBelow root g)
    (keeps : KeepsTo root g step result) : KeepsTo root f step result :=
  ⟨grows.trans keeps.grows, keeps.gives⟩

private theorem andThen {step : Step α} {next : Folder → α → Step β} {result' : Folder → β → Prop}
    (keeps : KeepsTo root f step result)
    (later : ∀ g a, f.GrowsBelow root g → result g a → KeepsTo root g (next g a) result') :
    KeepsTo root f (Step.andThen step next) result' := by
  obtain ⟨g, outcome⟩ := step
  cases outcome with
  | error complaint => exact ⟨keeps.grows, nofun⟩
  | ok a =>
      exact .after keeps.grows (later g a keeps.grows (keeps.gives a rfl))

end KeepsTo

/-- Whether a folder has the file of a document, which lies directly in the output folder. -/
def Holds (output name : Text) (f : Folder) : Prop :=
  (f.file? (Path.location output ++ [documentFile name])).isSome = true

private theorem isBelow_documentFile (output name : Text) :
    (Path.location output ++ [documentFile name]).IsBelow (Path.location output) :=
  ⟨[documentFile name], List.cons_ne_nil _ _,
    List.forall_mem_singleton.mpr (documentFile_isFileName name).isStep, rfl⟩

private theorem keepsTo_writeDocument (f : Folder) (output name markdown : Text) :
    KeepsTo (Path.location output) f (writeDocument f output name markdown) fun g written =>
      written = documentPath output name ∧ Holds output name g := by
  rw [writeDocument_eq]
  split
  · refine ⟨Folder.growsBelow_set (isBelow_documentFile output name), ?_⟩
    rintro _ ⟨⟩
    refine ⟨rfl, ?_⟩
    rw [Holds, Folder.file?_set, if_pos rfl]
    rfl
  · exact .error _

/-- What the conversions of a run give: a store with inner paths and the paths of documents, whose
files are there. -/
structure Converted (output : Text) (names : List Text) (f : Folder) (store : Store)
    (written : List Text) : Prop where
  inner : store.sink.IsFor Owner.IsInner
  paths : written = names.map (documentPath output)
  files : ∀ name ∈ names, Holds output name f

section Conversions

variable {s t : Settings} (accepted : t.validate = .ok s) (output : Text)
include accepted

private theorem keepsTo_convertOne {store : Store} (inner : store.sink.IsFor Owner.IsInner)
    (f : Folder)
    (path : Text) :
    KeepsTo (Path.location output) f (convertOne s output store f path) fun g (store, written) =>
      store.sink.IsFor Owner.IsInner ∧ written = documentPath output (title path) ∧
        Holds output (title path) g := by
  rw [convertOne]
  split
  · exact .error _
  · next text _ =>
    have converted := Article.isFor_convertMarkup none accepted inner text
    split
    · exact .error _
    · next ends =>
      rw [ends] at converted
      exact (keepsTo_writeDocument f output (title path) _).andThen
        fun g written _ written_there => .ok ⟨converted, written_there⟩

private theorem keepsTo_convertEach {store : Store} (inner : store.sink.IsFor Owner.IsInner)
    (f : Folder)
    (inputs : List Text) :
    KeepsTo (Path.location output) f (convertEach s output store f inputs)
      fun g (store, written) => Converted output (inputs.map title) g store written := by
  induction inputs generalizing store f with
  | nil => exact .ok ⟨inner, rfl, fun _ member => absurd member List.not_mem_nil⟩
  | cons path rest ih =>
      refine (keepsTo_convertOne accepted output inner f path).andThen ?_
      rintro g ⟨store, written⟩ - ⟨inner, rfl, file⟩
      refine (ih inner g).andThen ?_
      rintro h ⟨store, others⟩ grows ⟨inner, rfl, files⟩
      exact .ok ⟨inner, rfl, List.forall_mem_cons.mpr ⟨grows.files _ file, files⟩⟩

private theorem keepsTo_convertMerged (f : Folder) (name : Text) (inputs : List Text) :
    KeepsTo (Path.location output) f (convertMerged s output name f inputs)
      fun g (store, written) => Converted output [name] g store written := by
  rw [convertMerged]
  split
  · exact .error _
  · next sources _ =>
    have start : Sink.IsFor Owner.IsInner (Store.sink {}) := .empty
    have merged := Article.isFor_merge none accepted start sources
    split
    · exact .error _
    · next ends =>
      rw [ends] at merged
      refine (keepsTo_writeDocument f output name _).andThen ?_
      rintro g _ - ⟨rfl, file⟩
      exact .ok ⟨merged, rfl, List.forall_mem_singleton.mpr file⟩

end Conversions

private theorem keepsTo_writeAssets (fetcher : Option Fetcher) (output : Text) {store : Store}
    (inner : store.sink.IsFor Owner.IsInner) (f : Folder) :
    KeepsTo (Path.location output) f (writeAssets fetcher output store f) fun _ _ => True := by
  have delivered := Store.growsBelow_deliver fetcher output inner f
  rw [writeAssets]
  simp only
  split
  · exact ⟨delivered, fun _ _ => trivial⟩
  · exact ⟨delivered, nofun⟩

/-- The settings of a run are not refused. -/
theorem loadSettings_accepted {f : Folder} {config : Option Text} {s : Settings}
    (loaded : loadSettings f config = .ok s) : ∃ t : Settings, t.validate = .ok s := by
  cases config with
  | none =>
      cases loaded
      exact ⟨{}, rfl⟩
  | some path =>
      simp only [loadSettings] at loaded
      split at loaded
      · cases loaded
      · split at loaded
        · cases loaded
        · next t _ =>
          refine ⟨t, ?_⟩
          cases valid : t.validate with
          | error refusal =>
              rw [valid] at loaded
              cases loaded
          | ok accepted =>
              rw [valid] at loaded
              cases loaded
              rfl

private theorem keepsTo_convert (network : Fetcher) (f : Folder) (o : Options) :
    KeepsTo (Path.location o.root) f (convert network f o) fun g written =>
      written = o.documents.map (documentPath o.root) ∧
        ∀ name ∈ o.documents, Holds o.root name g := by
  rw [convert]
  split
  · exact .error _
  · next s loaded =>
    obtain ⟨t, accepted⟩ := loadSettings_accepted loaded
    split
    · exact .error _
    · next made isMade =>
      have documents : KeepsTo (Path.location o.root) made
          (match o.merge with
            | some name => convertMerged s o.root name made o.inputs
            | none => convertEach s o.root {} made o.inputs)
          fun g (store, written) => Converted o.root o.documents g store written := by
        rw [Options.documents]
        split
        · next name _ => exact keepsTo_convertMerged accepted o.root made name o.inputs
        · exact keepsTo_convertEach accepted o.root .empty made o.inputs
      refine .after (Folder.growsBelow_make? _ isMade) (documents.andThen ?_)
      rintro g ⟨store, written⟩ - converted
      refine (keepsTo_writeAssets _ o.root converted.inner g).andThen ?_
      rintro h - grows -
      exact .ok ⟨converted.paths, fun name member => grows.files _ (converted.files name member)⟩

/-- A report of a run that kept to its output folder: below it files may have been written, and
after a success those of the documents are there. Without a conversion nothing is written. -/
def KeptInside (f : Folder) (report : Report) : Invocation → Prop
  | .convert o =>
    f.GrowsBelow (Path.location o.root) report.folder ∧
      (report.code = 0 → ∀ name ∈ o.documents, Holds o.root name report.folder)
  | .showHelp | .showVersion | .misuse => report.folder = f

private theorem run_keptInside (network : Fetcher) (f : Folder) (arguments : List Text) :
    KeptInside f (run network f arguments) (Invocation.read arguments) := by
  rw [run]
  cases Invocation.read arguments with
  | misuse => rfl
  | showHelp => rfl
  | showVersion => rfl
  | convert o =>
      obtain ⟨grows, gives⟩ := keepsTo_convert network f o
      simp only
      split
      · next ends =>
        rw [ends] at grows gives
        exact ⟨grows, fun _ => (gives _ rfl).2⟩
      · next ends =>
        rw [ends] at grows
        exact ⟨grows, fun success => absurd success Nat.one_ne_zero⟩

/-- Output never leaves the output folder. Whatever is asked of a sink in the name of settings that
are not refused, with any prefix, its paths lead downwards from any folder, and delivering it writes
below this folder only. A document is written directly in the output folder, which can be followed
once it has been made, or not at all; and a run writes below its output folder only. -/
theorem output_stays_inside {events : List Traffic.Event}
    (asked : ∀ event ∈ events, ∀ request, event.request? = some request → request.IsAccepted) :
    ((∀ path, Except.ok path ∈ (Traffic.run {} events).answers → Path.IsInner path) ∧
      (∀ entry ∈ (Traffic.run {} events).made, Path.IsInner entry.path) ∧
      ∀ fetcher fetched root f, Folder.GrowsBelow (Path.location root) f
        (Store.deliver fetcher root ⟨(Traffic.run {} events).sink, fetched⟩ f).2.folder) ∧
    ((∀ f output name markdown, Path.IsFileName (documentFile name) ∧
        writeDocument f output name markdown =
          if (f.follow? [] (Path.parts output)).isSome ∧
              f.hasFolder (Path.location output ++ [documentFile name]) = false ∧
              Text.utf8Length (documentFile name) ≤ Path.maxNameLength then
            (f.set (Path.location output ++ [documentFile name]) (Text.utf8 markdown),
              .ok (documentPath output name))
          else (f, .error (about "Failed to write" (documentPath output name)))) ∧
      ∀ f made g output, Folder.make? f output = some made →
        made.GrowsBelow (Path.location output) g → (g.follow? [] (Path.parts output)).isSome) ∧
    ∀ network f arguments,
      KeptInside f (run network f arguments) (Invocation.read arguments) := by
  have inner := Traffic.IsFor.initial.run fun event member request brings =>
    (asked event member request brings).isInner
  refine ⟨⟨?_, ?_, ?_⟩, ⟨?_, ?_⟩, run_keptInside⟩
  · exact fun path answered => (inner.answers _ answered path rfl).isInner
  · intro entry member
    rcases List.mem_append.mp member with drained | held
    · exact (inner.drained entry drained).isInner
    · exact (inner.sink.entries entry held).isInner
  · exact fun fetcher fetched root f => Store.growsBelow_deliver fetcher root inner.sink f
  · exact fun f output name markdown =>
      ⟨documentFile_isFileName name, writeDocument_eq f output name markdown⟩
  · intro f made g output isMade grows
    exact Folder.follow?_isSome_mono grows.folders (Folder.makeFrom?_grows isMade).2.2

/-- A folder with an article of one paragraph. -/
def savedPost : Folder :=
  { files := [(["post.html".toList], Text.utf8 "<p>x</p>".toList)] }

/-- A fetcher that reaches nothing. -/
def noNetwork : Fetcher :=
  fun address => ⟨0, .error (.unreachable address 1 "unreachable".toList)⟩

/-- The arguments of a run on the saved article. -/
def savedPostArguments : List Text :=
  ["post.html".toList, "-o".toList, "out".toList]

/-- What these arguments say. -/
def savedPostOptions : Options :=
  { inputs := ["post.html".toList], output := some "out".toList }

/-- A call for an image in a nested directory. -/
def nestedImage : List Traffic.Event :=
  [.callLater (.image "x.png".toList "pages/img/".toList "a_".toList)]

/-- An image in a nested directory has a path that leads downwards, and after a run the document of
an article is there, in the output folder. -/
theorem output_stays_inside_savedPost :
    Path.IsInner "pages/img/a_1.png".toList ∧
      Holds "out".toList "post".toList (run noNetwork savedPost savedPostArguments).folder := by
  have asked : ∀ event ∈ nestedImage, ∀ request,
      event.request? = some request → request.IsAccepted := by
    intro event member request brings
    cases List.mem_singleton.mp member
    cases brings
    exact ⟨{ assetDirectory := "pages/img/".toList }, _, "a_".toList, rfl, rfl⟩
  obtain ⟨⟨answered, -, -⟩, -, kept⟩ := output_stays_inside asked
  have first : Except.ok "pages/img/a_1.png".toList ∈ (Traffic.run {} nestedImage).answers := by
    decide +kernel
  have reads : Invocation.read savedPostArguments = .convert savedPostOptions := by decide +kernel
  have success : (run noNetwork savedPost savedPostArguments).code = 0 := by decide +kernel
  have named : "post".toList ∈ savedPostOptions.documents := by decide +kernel
  have post := kept noNetwork savedPost savedPostArguments
  rw [reads] at post
  exact ⟨answered _ first, post.2 success _ named⟩

end ArticleMarkdown.Cli
