import ArticleMarkdown.Proofs.Cli.Inside

/-!
# Which documents a run keeps

A run that converts its inputs one by one writes the document of each to a file named after its
title. Titles that differ can give the same name, and a document can be written over an input that
is still to be converted. Either way a run may succeed although the file that it names for an input
does not hold what the input converts to. `documents_kept_iff` tells when every document is kept.
-/

namespace ArticleMarkdown

private theorem Text.utf8_injective : Function.Injective Text.utf8 := by
  intro first second same
  have bytes : (String.ofList first).toByteArray = (String.ofList second).toByteArray :=
    congrArg List.toByteArray same
  exact String.ofList_injective (String.toByteArray_inj.mp bytes)

/-- When assets stay where they are, the store plays no part in a conversion. -/
theorem Article.convertMarkup_stays {s : Settings} (stays : s.localizeAssets = false)
    (fetcher : Option Asset.Fetcher) (store : Asset.Store) (markup : Text) :
    convertMarkup fetcher s store markup = (store, (convertMarkup none s {} markup).2) := by
  rw [convertMarkup, convertMarkup]
  cases drafted : draft? s (Html.read markup) with
  | none => rfl
  | some draft =>
      simp only [complete, (draft?_madeUnder drafted).requests_nil stays, Asset.Store.answerAll]

namespace Cli

/-- The Markdown that the article in a file converts to when its assets stay where they are. -/
def converted (s : Settings) (f : Folder) (path : Text) : Option Text :=
  (readText? f path).bind fun text => (Article.convertMarkup none s {} text).2.toOption

/-- Where the document of an input lies. -/
def documentLocation (output path : Text) : Location :=
  Path.location output ++ [documentFile (title path)]

private theorem documentLocation_eq_iff {output path other : Text} :
    documentLocation output path = documentLocation output other ↔
      documentFile (title path) = documentFile (title other) := by
  rw [documentLocation, documentLocation, List.append_right_inj, List.cons.injEq]
  exact and_iff_left rfl

section Steps

variable {α β γ : Type}

private theorem Step.andThen_ok {step : Step α} {next : Folder → α → Step β} {g : Folder} {b : β}
    (ran : Step.andThen step next = (g, .ok b)) :
    ∃ f a, step = (f, .ok a) ∧ next f a = (g, .ok b) := by
  obtain ⟨f, outcome⟩ := step
  cases outcome with
  | error complaint => cases ran
  | ok a => exact ⟨f, a, rfl, ran⟩

private theorem Step.andThen_ok_self (step : Step α) :
    (Step.andThen step fun f a => (f, .ok a)) = step := by
  obtain ⟨f, outcome⟩ := step
  cases outcome <;> rfl

private theorem Step.andThen_assoc (step : Step α) (next : Folder → α → Step β)
    (last : Folder → β → Step γ) :
    Step.andThen (Step.andThen step next) last =
      Step.andThen step fun f a => Step.andThen (next f a) last := by
  obtain ⟨f, outcome⟩ := step
  cases outcome <;> rfl

end Steps

/-- Converting some inputs and then others. -/
theorem convertEach_append (s : Settings) (output : Text) (store : Asset.Store) (f : Folder)
    (first second : List Text) :
    convertEach s output store f (first ++ second) =
      Step.andThen (convertEach s output store f first) fun f (store, written) =>
        Step.andThen (convertEach s output store f second) fun f (store, others) =>
          (f, .ok (store, written ++ others)) := by
  induction first generalizing store f with
  | nil => exact (Step.andThen_ok_self _).symm
  | cons path rest ih =>
      simp only [List.cons_append, convertEach, ih, Step.andThen_assoc]
      rfl

/-- A conversion changes at most the file of its document. -/
theorem convertOne_leaves (s : Settings) (output : Text) (store : Asset.Store) (f : Folder)
    (path : Text) :
    (convertOne s output store f path).1 = f ∨
      ∃ body, (convertOne s output store f path).1 = f.set (documentLocation output path) body := by
  rw [convertOne]
  split
  · exact .inl rfl
  · split
    · exact .inl rfl
    · rw [writeDocument_eq]
      split
      · exact .inr ⟨_, rfl⟩
      · exact .inl rfl

/-- Conversions change at most the files of their documents. -/
theorem convertEach_leaves (s : Settings) (output : Text) (store : Asset.Store) (f : Folder)
    (inputs : List Text) :
    (convertEach s output store f inputs).1.folders = f.folders ∧
      ∀ location, location ∉ inputs.map (documentLocation output) →
        (convertEach s output store f inputs).1.file? location = f.file? location := by
  induction inputs generalizing store f with
  | nil => exact ⟨rfl, fun _ _ => rfl⟩
  | cons path rest ih =>
      have one := convertOne_leaves s output store f path
      rw [convertEach]
      generalize convertOne s output store f path = step at one ⊢
      obtain ⟨g, outcome⟩ := step
      have changed : g.folders = f.folders ∧ ∀ location, location ≠ documentLocation output path →
          g.file? location = f.file? location := by
        rcases one with rfl | ⟨body, rfl⟩
        · exact ⟨rfl, fun _ _ => rfl⟩
        · exact ⟨rfl, fun location apart => by rw [Folder.file?_set, if_neg apart]⟩
      cases outcome with
      | error complaint =>
          exact ⟨changed.1, fun location apart =>
            changed.2 location (List.ne_of_not_mem_cons apart)⟩
      | ok converted =>
          obtain ⟨between, written⟩ := converted
          obtain ⟨folders, files⟩ := ih between g
          have ends : (Step.andThen (convertEach s output between g rest) fun f (store, others) =>
              (f, .ok (store, written :: others))).1 =
              (convertEach s output between g rest).1 := by
            obtain ⟨h, outcome⟩ := convertEach s output between g rest
            cases outcome <;> rfl
          simp only [Step.andThen] at ends ⊢
          rw [ends]
          exact ⟨folders.trans changed.1, fun location apart =>
            (files location (List.not_mem_of_not_mem_cons apart)).trans
              (changed.2 location (List.ne_of_not_mem_cons apart))⟩

section Documents

variable {s : Settings} (stays : s.localizeAssets = false) {output : Text} {f g : Folder}
  {store after : Asset.Store}
include stays

/-- A conversion that succeeds writes the document that the input converts to. -/
theorem convertOne_ok {path written : Text}
    (ran : convertOne s output store f path = (g, .ok (after, written))) :
    after = store ∧ written = documentPath output (title path) ∧
      (f.follow? [] (Path.parts output)).isSome ∧
      ∃ markdown, converted s f path = some markdown ∧
        g = f.set (documentLocation output path) (Text.utf8 markdown) := by
  simp only [convertOne, readArticle] at ran
  cases read : readText? f path with
  | none =>
      rw [read] at ran
      cases ran
  | some text =>
      simp only [read, Article.convertMarkup_stays stays none store text] at ran
      cases converts : (Article.convertMarkup none s {} text).2 with
      | error fault =>
          rw [converts] at ran
          cases ran
      | ok markdown =>
          rw [converts] at ran
          obtain ⟨h, _, wrote, ends⟩ := Step.andThen_ok ran
          cases ends
          rw [writeDocument_eq] at wrote
          split at wrote
          · next possible =>
            cases wrote
            refine ⟨rfl, rfl, possible.1, markdown, ?_, rfl⟩
            rw [converted, read, Option.bind_some, converts]
            rfl
          · cases wrote

/-- Conversions that succeed: the first of them, and the others after it. -/
theorem convertEach_cons_ok {path : Text} {rest written : List Text}
    (ran : convertEach s output store f (path :: rest) = (g, .ok (after, written))) :
    (f.follow? [] (Path.parts output)).isSome ∧ ∃ markdown others,
      converted s f path = some markdown ∧
      written = documentPath output (title path) :: others ∧
      convertEach s output store (f.set (documentLocation output path) (Text.utf8 markdown)) rest =
        (g, .ok (after, others)) := by
  obtain ⟨h, ⟨between, first⟩, one, others⟩ := Step.andThen_ok ran
  obtain ⟨k, ⟨last, more⟩, each, ends⟩ := Step.andThen_ok others
  cases ends
  obtain ⟨rfl, rfl, followed, markdown, converts, rfl⟩ := convertOne_ok stays one
  exact ⟨followed, markdown, more, converts, rfl, each⟩

private theorem convertEach_ok {inputs written : List Text}
    (ran : convertEach s output store f inputs = (g, .ok (after, written))) :
    after = store ∧ written = inputs.map (fun path => documentPath output (title path)) := by
  induction inputs generalizing f written with
  | nil =>
      cases ran
      exact ⟨rfl, rfl⟩
  | cons path rest ih =>
      obtain ⟨-, markdown, others, -, rfl, each⟩ := convertEach_cons_ok stays ran
      obtain ⟨same, rfl⟩ := ih each
      exact ⟨same, rfl⟩

/-- The last input whose document has some name decides what the file of this name holds. -/
theorem convertEach_last {earlier later written : List Text} {path : Text}
    (ran : convertEach s output store f (earlier ++ path :: later) = (g, .ok (after, written)))
    (last : ∀ other ∈ later, documentFile (title other) ≠ documentFile (title path)) :
    ∃ markdown, converted s (convertEach s output store f earlier).1 path = some markdown ∧
      g.read? (documentPath output (title path)) = some (Text.utf8 markdown) := by
  rw [convertEach_append] at ran
  obtain ⟨h, ⟨between, first⟩, before, rest⟩ := Step.andThen_ok ran
  obtain ⟨k, ⟨final, others⟩, behind, ends⟩ := Step.andThen_ok rest
  cases ends
  obtain ⟨followed, markdown, _, converts, -, each⟩ := convertEach_cons_ok stays behind
  have leaves := convertEach_leaves s output between
    (h.set (documentLocation output path) (Text.utf8 markdown)) later
  rw [each] at leaves
  obtain ⟨folders, files⟩ := leaves
  have still : (g.follow? [] (Path.parts output)).isSome := by
    refine Folder.follow?_isSome_mono ?_ followed
    rw [folders]
    exact List.Subset.refl _
  have kept := files (documentLocation output path) fun written => by
    obtain ⟨other, member, same⟩ := List.mem_map.mp written
    exact last other member (documentLocation_eq_iff.mp same)
  rw [Folder.file?_set, if_pos rfl] at kept
  refine ⟨markdown, ?_, (Folder.read?_join (documentFile_isFileName _) still).trans kept⟩
  rw [before]
  exact converts

end Documents

/-- The folder of a run after the documents of some inputs are written. -/
def Options.folderAfter (o : Options) (s : Settings) (f : Folder) (inputs : List Text) : Folder :=
  (convertEach s o.root {} ((f.make? o.root).getD f) inputs).1

/-- An input that no document of earlier inputs is written over still converts to the same. -/
theorem converted_folderAfter {o : Options} {s : Settings} {f : Folder} {earlier : List Text}
    {path : Text} (readable : (readText? f path).isSome)
    (apart : Path.location path ∉ earlier.map (documentLocation o.root)) :
    converted s (o.folderAfter s f earlier) path = converted s f path := by
  have made : f.folders ⊆ ((f.make? o.root).getD f).folders ∧
      ((f.make? o.root).getD f).files = f.files := by
    cases makes : f.make? o.root with
    | none => exact ⟨List.Subset.refl _, rfl⟩
    | some folder =>
        obtain ⟨files, folders, -⟩ := Folder.makeFrom?_grows makes
        exact ⟨folders, files⟩
  obtain ⟨folders, files⟩ := convertEach_leaves s o.root {} ((f.make? o.root).getD f) earlier
  have held : (f.read? path).isSome := Option.isSome_of_isSome_bind readable
  have reads : (o.folderAfter s f earlier).read? path = f.read? path := by
    refine Folder.read?_mono ?_ held ?_
    · rw [Options.folderAfter, folders]
      exact made.1
    · rw [Options.folderAfter, files _ apart, Folder.file?, made.2, Folder.file?]
  rw [converted, converted, readText?, readText?, reads]

/-- An input whose document is kept: at the end its file holds what the input converted to at the
start. -/
def Kept (o : Options) (s : Settings) (before after : Folder) (path : Text) : Prop :=
  ∃ markdown, converted s before path = some markdown ∧
    after.read? (documentPath o.root (title path)) = some (Text.utf8 markdown)

/-- Without assets there is nothing to deliver. -/
theorem writeAssets_empty (fetcher : Option Asset.Fetcher) (output : Text) (f : Folder) :
    writeAssets fetcher output {} f = (f, .ok ()) := by
  simp [writeAssets, Asset.Store.deliver, Asset.Sink.drain, Asset.Sink.sortedEntries,
    Asset.Delivery.ofEntries, Asset.Entry.sorted, Asset.Delivery.ofSorted]

/-- A kept document tells what its input converted to. -/
theorem Kept.converted_eq {o : Options} {s : Settings} {before after : Folder} {path : Text}
    (kept : Kept o s before after path) {markdown : Text}
    (holds : after.read? (documentPath o.root (title path)) = some (Text.utf8 markdown)) :
    converted s before path = some markdown := by
  obtain ⟨own, converts, held⟩ := kept
  rw [held] at holds
  rw [converts, Text.utf8_injective (Option.some.inj holds)]

private theorem documentPath_congr {output path other : Text}
    (same : documentFile (title path) = documentFile (title other)) :
    documentPath output (title path) = documentPath output (title other) :=
  congrArg (Path.join output) same

/-- A run that succeeds is a conversion that does, and prints the paths of the documents. -/
theorem run_ok {network : Asset.Fetcher} {f : Folder} {arguments : List Text} {o : Options}
    (reads : Invocation.read arguments = .convert o)
    (success : (run network f arguments).code = 0) :
    ∃ g written, convert network f o = (g, .ok written) ∧ run network f arguments =
      { code := 0, output := written.flatMap fun path => path ++ ['\n'], folder := g } := by
  rw [run, reads] at success ⊢
  simp only at success ⊢
  split at success
  · next ends => exact ⟨_, _, ends, rfl⟩
  · exact absurd success Nat.one_ne_zero

section Runs

variable {network : Asset.Fetcher} {f g : Folder} {o : Options} {s : Settings}
  (each : o.merge = none) (loaded : loadSettings f o.config = .ok s)
  (stays : s.localizeAssets = false)
include each loaded stays

/-- A run without assets that succeeds is the conversion of its inputs. -/
theorem convert_ok {written : List Text} (ran : convert network f o = (g, .ok written)) :
    convertEach s o.root {} ((f.make? o.root).getD f) o.inputs = (g, .ok ({}, written)) := by
  simp only [convert, loaded, each] at ran
  cases made : f.make? o.root with
  | none =>
      rw [Options.root] at made
      rw [made] at ran
      cases ran
  | some folder =>
      rw [Options.root] at made
      rw [made] at ran
      obtain ⟨h, ⟨store, documents⟩, converts, delivers⟩ := Step.andThen_ok ran
      obtain ⟨rfl, -⟩ := convertEach_ok stays converts
      rw [writeAssets_empty] at delivers
      cases delivers
      exact converts

/-- The last input whose document has some name, among the inputs of a run. -/
theorem kept_last {written : List Text} (ran : convert network f o = (g, .ok written))
    {earlier later : List Text} {path : Text} (split : o.inputs = earlier ++ path :: later)
    (last : ∀ other ∈ later, documentFile (title other) ≠ documentFile (title path)) :
    ∃ markdown, converted s (o.folderAfter s f earlier) path = some markdown ∧
      g.read? (documentPath o.root (title path)) = some (Text.utf8 markdown) := by
  have converts := convert_ok each loaded stays ran
  rw [split] at converts
  exact convertEach_last stays converts last

end Runs

/-- The last of the inputs whose documents have a given name. -/
theorem exists_last {file : Text} {inputs : List Text}
    (some_input : ∃ path ∈ inputs, documentFile (title path) = file) :
    ∃ earlier path later, inputs = earlier ++ path :: later ∧ documentFile (title path) = file ∧
      ∀ other ∈ later, documentFile (title other) ≠ file := by
  induction inputs with
  | nil =>
      obtain ⟨path, member, -⟩ := some_input
      cases member
  | cons first rest ih =>
      by_cases again : ∃ path ∈ rest, documentFile (title path) = file
      · obtain ⟨earlier, path, later, rfl, named, last⟩ := ih again
        exact ⟨first :: earlier, path, later, rfl, named, last⟩
      · obtain ⟨path, member, named⟩ := some_input
        rcases List.mem_cons.mp member with rfl | inRest
        · exact ⟨[], path, rest, rfl, named, fun other inside same => again ⟨other, inside, same⟩⟩
        · exact absurd ⟨path, inRest, named⟩ again

/-- A run that converts its inputs one by one, leaves assets where they are and succeeds prints the
path of a document for each input. Every document is kept if and only if inputs whose documents
have the same name convert to the same Markdown, and an input that is the last with some name, but
that the document of an earlier one is written over, still converts to the same when its turn
comes. -/
theorem documents_kept_iff {network : Asset.Fetcher} {f : Folder} {arguments : List Text}
    {o : Options} {s : Settings} (reads : Invocation.read arguments = .convert o)
    (each : o.merge = none) (loaded : loadSettings f o.config = .ok s)
    (stays : s.localizeAssets = false) (readable : ∀ path ∈ o.inputs, (readText? f path).isSome)
    (success : (run network f arguments).code = 0) :
    (run network f arguments).output =
        o.inputs.flatMap (fun path => documentPath o.root (title path) ++ ['\n']) ∧
      ((∀ path ∈ o.inputs, Kept o s f (run network f arguments).folder path) ↔
        (∀ path ∈ o.inputs, ∀ other ∈ o.inputs,
          documentFile (title path) = documentFile (title other) →
            converted s f path = converted s f other) ∧
        ∀ earlier path later, o.inputs = earlier ++ path :: later →
          (∀ other ∈ later, documentFile (title other) ≠ documentFile (title path)) →
          Path.location path ∈ earlier.map (documentLocation o.root) →
            converted s (o.folderAfter s f earlier) path = converted s f path) := by
  obtain ⟨g, written, ran, report⟩ := run_ok reads success
  obtain ⟨-, rfl⟩ := convertEach_ok stays (convert_ok each loaded stays ran)
  have among : ∀ {earlier path later}, o.inputs = earlier ++ path :: later → path ∈ o.inputs := by
    intro earlier path later split
    rw [split]
    exact List.mem_append_right _ List.mem_cons_self
  rw [report]
  refine ⟨List.flatMap_map .., fun kept => ⟨?_, ?_⟩, ?_⟩
  · intro path member other member' same
    obtain ⟨markdown, converts, holds⟩ := kept other member'
    rw [← documentPath_congr same] at holds
    rw [(kept path member).converted_eq holds, converts]
  · intro earlier path later split isLast _
    obtain ⟨markdown, converts, holds⟩ := kept_last each loaded stays ran split isLast
    rw [converts, (kept path (among split)).converted_eq holds]
  · rintro ⟨agree, still⟩ path member
    obtain ⟨earlier, other, later, split, same, isLast⟩ := exists_last ⟨path, member, rfl⟩
    rw [← same] at isLast
    have unchanged : converted s (o.folderAfter s f earlier) other = converted s f other := by
      by_cases rewritten : Path.location other ∈ earlier.map (documentLocation o.root)
      · exact still earlier other later split isLast rewritten
      · exact converted_folderAfter (readable other (among split)) rewritten
    obtain ⟨markdown, converts, holds⟩ := kept_last each loaded stays ran split isLast
    rw [unchanged] at converts
    refine ⟨markdown, ?_, ?_⟩
    · rw [agree path member other (among split) same.symm, converts]
    · rw [← documentPath_congr same, holds]

/-- The document of a single input is kept. -/
theorem documents_kept_iff_savedPost :
    let report := run noNetwork savedPost savedPostArguments
    report.output = "out/post.md\n".toList ∧
      ∀ path ∈ savedPostOptions.inputs, Kept savedPostOptions {} savedPost report.folder path := by
  intro report
  have reads : Invocation.read savedPostArguments = .convert savedPostOptions := by decide +kernel
  have success : report.code = 0 := by decide +kernel
  have readable : ∀ path ∈ savedPostOptions.inputs, (readText? savedPost path).isSome := by
    decide +kernel
  obtain ⟨output, kept⟩ := documents_kept_iff (s := {}) reads rfl rfl rfl readable success
  refine ⟨output.trans (by decide +kernel), kept.mpr ⟨?_, ?_⟩⟩
  · intro path member other member' _
    rw [List.mem_singleton.mp member, List.mem_singleton.mp member']
  · intro earlier path later split _ rewritten
    cases earlier with
    | nil => cases rewritten
    | cons first rest => exact absurd (List.cons.inj split).2 (by simp)

/-- Two articles whose titles differ by a space that becomes an underscore. -/
def spacedPosts : Folder :=
  { files := [(["a b.html".toList], Text.utf8 "<p>1</p>".toList),
      (["a_b.html".toList], Text.utf8 "<p>2</p>".toList)] }

/-- The arguments of a run on both articles. -/
def spacedPostsArguments : List Text :=
  ["a b.html".toList, "a_b.html".toList, "-o".toList, "out".toList]

/-- What these arguments say. -/
def spacedPostsOptions : Options :=
  { inputs := ["a b.html".toList, "a_b.html".toList], output := some "out".toList }

/-- Both documents get the same name. The run succeeds and names the same file for both inputs,
and the document of the first is lost. -/
theorem spacedPosts_lose_document :
    let report := run noNetwork spacedPosts spacedPostsArguments
    Invocation.read spacedPostsArguments = .convert spacedPostsOptions ∧
      report.code = 0 ∧ report.output = "out/a_b.md\nout/a_b.md\n".toList ∧
      converted {} spacedPosts "a b.html".toList = some "1\n\n".toList ∧
      report.folder.read? "out/a_b.md".toList = some (Text.utf8 "2\n\n".toList) ∧
      ¬Kept spacedPostsOptions {} spacedPosts report.folder "a b.html".toList := by
  intro report
  have converts : converted {} spacedPosts "a b.html".toList = some "1\n\n".toList := by
    decide +kernel
  have holds : report.folder.read? "out/a_b.md".toList = some (Text.utf8 "2\n\n".toList) := by
    decide +kernel
  have samePath : documentPath spacedPostsOptions.root (title "a b.html".toList) =
      "out/a_b.md".toList := by
    decide +kernel
  refine ⟨by decide +kernel, by decide +kernel, by decide +kernel, converts, holds, fun kept => ?_⟩
  rw [← samePath] at holds
  have other := kept.converted_eq holds
  rw [converts] at other
  revert other
  decide

end Cli
end ArticleMarkdown
