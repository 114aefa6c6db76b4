import ArticleMarkdown.Asset.Delivery
import ArticleMarkdown.Proofs.Asset.FileName
import ArticleMarkdown.Proofs.Asset.Paths
import ArticleMarkdown.Proofs.Asset.Traffic
import ArticleMarkdown.Proofs.Folder.Inside
import ArticleMarkdown.Settings.Basic

/-!
# Assets stay inside the output folder

Settings that are not refused have a directory that leads downwards, so the path of an asset of
theirs does, whatever prefix, address and markup it is asked for with; and delivering such assets
changes no file outside of the folder that they are delivered to.
-/

namespace ArticleMarkdown

/-- A file name is a path of one part. -/
theorem FileName.isFileName (name : Text) : Path.IsFileName (FileName.ofText name) where
  filled := FileName.ofText_ne_nil name
  slashless := FileName.slash_notMem_ofText name
  notHere := FileName.ofText_ne_dots name (Nat.le_succ 1)
  notAbove := FileName.ofText_ne_dots name (Nat.le_refl 2)

namespace Asset

/-- An owner whose directory leads downwards. -/
structure Owner.IsInner (owner : Owner) : Prop where
  relative : owner.directory.head? ≠ some '/'
  descends : Path.above ∉ Path.rawParts owner.directory

/-- The directory of settings that are not refused leads downwards. -/
theorem Owner.isInner_of_accepted {s accepted : Settings} (valid : s.validate = .ok accepted)
    (namePrefix : Text) : (Owner.of namePrefix accepted.assetDirectory).IsInner := by
  simp only [Settings.validate] at valid
  split at valid
  · cases valid
  · split at valid
    · cases valid
    · next relative =>
      split at valid
      · cases valid
      · next descends =>
        cases valid
        have split := Text.dropEndWhile_append_takeEndWhile (· == '/') s.assetDirectory
        have slashes : ∀ c ∈ (s.assetDirectory.reverse.takeWhile (· == '/')).reverse, c = '/' :=
          fun c member => by simpa using List.mem_takeWhile_imp (List.mem_reverse.mp member)
        rw [← split] at relative descends
        rw [Owner.of]
        generalize Text.dropEndWhile (· == '/') s.assetDirectory = kept at relative descends ⊢
        generalize (s.assetDirectory.reverse.takeWhile (· == '/')).reverse = ending at *
        constructor
        · intro starts
          rw [List.head?_append, starts] at relative
          exact relative rfl
        · intro upwards
          have unlisted : Path.above ∉ Path.rawParts (kept ++ ending) := by
            simpa [Settings.pathParts, Path.rawParts, Path.above] using descends
          cases ending with
          | nil => exact unlisted (by rwa [List.append_nil])
          | cons first rest =>
              rw [slashes first List.mem_cons_self, Path.rawParts_append_slash] at unlisted
              exact unlisted (List.mem_append_left _ upwards)

/-- A request in the name of settings that are not refused, with any prefix. -/
def Request.IsAccepted (request : Request) : Prop :=
  ∃ (s accepted : Settings) (start : Text), s.validate = .ok accepted ∧
    request.owner = Owner.of start accepted.assetDirectory

/-- What an accepted request asks for lies in a directory below the root. -/
theorem Request.IsAccepted.isInner {request : Request} (asks : request.IsAccepted) :
    request.owner.IsInner := by
  obtain ⟨s, accepted, start, valid, owner⟩ := asks
  rw [owner]
  exact Owner.isInner_of_accepted valid start

/-- The path of a file of an owner whose directory leads downwards does so, too. -/
theorem PathFor.isInner {path : Text} (isFor : PathFor Owner.IsInner path) : Path.IsInner path := by
  obtain ⟨c, owner, rfl⟩ := isFor
  have name := (FileName.isFileName
    (c.owner.namePrefix ++ Text.ofNat c.number ++ '.' :: c.extension)).isInner
  simp only [Claim.path, Sink.filePath, List.isEmpty_iff]
  split
  · exact name
  · next filled =>
    refine ⟨List.append_ne_nil_of_left_ne_nil filled _, ?_, ?_⟩
    · rw [List.head?_append, List.head?_eq_some_head filled, Option.some_or,
        ← List.head?_eq_some_head filled]
      exact owner.relative
    · rw [Path.rawParts_append_slash, List.mem_append, not_or]
      exact ⟨owner.descends, name.descends⟩

namespace Traffic

/-- The request that an event brings. -/
def Event.request? : Event → Option Request
  | .call request | .callLater request => some request
  | .land _ _ | .drop _ | .drain => none

/-- Traffic whose paths are those of permitted owners. -/
structure IsFor (permitted : Owner → Prop) (t : Traffic) : Prop where
  sink : t.sink.IsFor permitted
  air : ∀ flight ∈ t.air, flight.IsFor permitted
  drained : ∀ entry ∈ t.drained, PathFor permitted entry.path
  answers : ∀ result ∈ t.answers, AnswerFor permitted result

namespace IsFor

variable {permitted : Owner → Prop} {t : Traffic}

/-- Nothing has happened yet. -/
theorem initial : IsFor permitted {} where
  sink := .empty
  air _ member := absurd member List.not_mem_nil
  drained _ member := absurd member List.not_mem_nil
  answers _ member := absurd member List.not_mem_nil

private theorem step (isFor : t.IsFor permitted) (event : Event)
    (asked : ∀ request, event.request? = some request → permitted request.owner) :
    (t.step event).IsFor permitted := by
  cases event with
  | call request =>
      obtain ⟨sink, answers, flights⟩ := isFor.sink.accept (asked request rfl)
      exact ⟨sink, List.forall_mem_append.mpr ⟨isFor.air, flights⟩, isFor.drained,
        List.forall_mem_append.mpr ⟨isFor.answers, answers⟩⟩
  | callLater request =>
      obtain ⟨sink, answer⟩ := isFor.sink.defer (asked request rfl)
      exact ⟨sink, isFor.air, isFor.drained,
        List.forall_mem_append.mpr ⟨isFor.answers, List.forall_mem_singleton.mpr answer⟩⟩
  | land index outcome =>
      simp only [Traffic.step]
      split
      · exact isFor
      · next flight flying =>
        have own := isFor.air flight (List.mem_of_getElem? flying)
        obtain ⟨sink, answer⟩ := isFor.sink.land own outcome
        exact ⟨sink, fun other member => isFor.air other (List.mem_of_mem_eraseIdx member),
          isFor.drained,
          List.forall_mem_append.mpr ⟨isFor.answers, List.forall_mem_singleton.mpr answer⟩⟩
  | drop index =>
      simp only [Traffic.step]
      split
      · exact isFor
      · exact ⟨isFor.sink, fun other member => isFor.air other (List.mem_of_mem_eraseIdx member),
          isFor.drained, isFor.answers⟩
  | drain =>
      obtain ⟨sink, entries⟩ := isFor.sink.drain
      exact ⟨sink, isFor.air, List.forall_mem_append.mpr ⟨isFor.drained, entries⟩, isFor.answers⟩

/-- Traffic of permitted owners has paths of permitted owners only. -/
theorem run (isFor : t.IsFor permitted) {events : List Event}
    (asked : ∀ event ∈ events, ∀ request, event.request? = some request →
      permitted request.owner) : (t.run events).IsFor permitted := by
  induction events generalizing t with
  | nil => exact isFor
  | cons event rest ih =>
      obtain ⟨first, others⟩ := List.forall_mem_cons.mp asked
      exact ih (isFor.step event first) others

end IsFor
end Traffic

namespace Delivery

variable (root : Text)

private theorem growsBelow_afterFile {path : Text} (inner : Path.IsInner path) (body : Bytes)
    (folder : Folder) {rest : Folder → Delivery}
    (others : ∀ folder, Folder.GrowsBelow (Path.location root) folder (rest folder).folder) :
    Folder.GrowsBelow (Path.location root) folder
      (afterFile root path body folder rest).folder := by
  rw [afterFile]
  split
  · exact .refl _ folder
  · next placed => exact (Folder.growsBelow_place root inner placed).trans (others _)

/-- Delivering entries with inner paths changes nothing outside of the folder. -/
theorem growsBelow_ofSorted (fetcher : Option Fetcher) {entries : List Entry}
    (inner : ∀ entry ∈ entries, Path.IsInner entry.path) (folder : Folder) :
    Folder.GrowsBelow (Path.location root) folder
      (ofSorted fetcher root entries folder).folder := by
  induction entries generalizing folder with
  | nil => exact .refl _ folder
  | cons entry rest ih =>
      obtain ⟨first, others⟩ := List.forall_mem_cons.mp inner
      simp only [ofSorted]
      split
      · exact growsBelow_afterFile root first _ folder (ih others)
      · exact growsBelow_afterFile root first _ folder (ih others)
      · exact ih others folder
      · split
        · exact .refl _ folder
        · exact growsBelow_afterFile root first _ folder (ih others)

end Delivery

/-- Delivering what inner owners asked for writes below the root only. -/
theorem Store.growsBelow_deliver (fetcher : Option Fetcher) (root : Text) {store : Store}
    (isFor : store.sink.IsFor Owner.IsInner) (folder : Folder) :
    Folder.GrowsBelow (Path.location root) folder
      (store.deliver fetcher root folder).2.folder := by
  refine Delivery.growsBelow_ofSorted root fetcher (fun entry member => ?_) folder
  exact (isFor.drain.2 entry ((List.mergeSort_perm _ _).subset member)).isInner

end Asset
end ArticleMarkdown
