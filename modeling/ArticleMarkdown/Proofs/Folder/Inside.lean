import ArticleMarkdown.Folder.Basic
import ArticleMarkdown.Proofs.Text.Split
import Mathlib.Data.List.Infix

/-!
# Paths that stay inside

A relative path without parts that lead upwards leads below any folder that it is taken from
(`Path.location_join`), and a file placed at such a path changes nothing elsewhere
(`Folder.growsBelow_place`).
-/

namespace ArticleMarkdown

namespace Path

/-- A path that is not empty, does not start at the outermost folder, and has no part that leads
upwards. -/
structure IsInner (path : Text) : Prop where
  filled : path ≠ []
  relative : path.head? ≠ some '/'
  descends : above ∉ rawParts path

/-- Where a path leads from a folder. -/
def location (path : Text) : Location :=
  (parts path).foldl Location.step []

/-- A part of a path that leads downwards. -/
def IsStep (part : Text) : Prop :=
  part ≠ above ∧ part ≠ ['/']

private theorem parts_of_relative {path : Text} (relative : path.head? ≠ some '/') :
    parts path = (rawParts path).filter fun part => !isIdle part := by
  rw [parts, if_neg]
  simpa using relative

private theorem IsInner.steps {path : Text} (inner : IsInner path) :
    ∀ part ∈ parts path, IsStep part := by
  intro part member
  rw [parts_of_relative inner.relative] at member
  have raw := (List.mem_filter.mp member).1
  refine ⟨fun upwards => inner.descends (upwards ▸ raw), ?_⟩
  rintro rfl
  exact Text.mark_notMem_of_mem_splitOn raw List.mem_cons_self

/-- A solidus parts a path. -/
theorem rawParts_append_slash (s t : Text) : rawParts (s ++ '/' :: t) = rawParts s ++ rawParts t :=
  Text.splitOn_append_cons '/' s t

/-- A slash and a relative path after a folder's path. -/
theorem parts_append_slash {folder path : Text} (filled : folder ≠ [])
    (relative : path.head? ≠ some '/') :
    parts (folder ++ '/' :: path) = parts folder ++ parts path := by
  have first : (folder ++ '/' :: path).head? = folder.head? := by
    rw [List.head?_append, List.head?_eq_some_head filled]
    rfl
  rw [parts_of_relative relative, parts, parts, first, rawParts_append_slash, List.filter_append]
  split
  · rw [List.cons_append]
  · rfl

/-- The parts of a path in a folder are those of the folder and those of the path. -/
theorem parts_join (folder : Text) {path : Text} (relative : path.head? ≠ some '/') :
    parts (join folder path) = parts folder ++ parts path := by
  rw [join, if_neg (by simpa using relative)]
  cases folder with
  | nil => rfl
  | cons c rest =>
      generalize filled : c :: rest = folder
      have some_folder : folder ≠ [] := filled ▸ List.cons_ne_nil c rest
      split
      · next ends =>
        have last : folder.getLast? = some '/' := by simpa [some_folder] using ends
        obtain ⟨before, rfl⟩ := List.getLast?_eq_some_iff.mp last
        rw [List.append_assoc, List.singleton_append]
        by_cases outermost : before = []
        · subst outermost
          rw [parts_of_relative relative]
          rfl
        · have bare : parts (before ++ ['/']) = parts before := by
            rw [parts_append_slash outermost (by simp), show parts [] = [] from rfl,
              List.append_nil]
          rw [parts_append_slash outermost relative, bare]
      · exact parts_append_slash some_folder relative

/-- A path in a folder ends as the path does. -/
theorem rawParts_join (folder : Text) {path : Text} (relative : path.head? ≠ some '/') :
    ∃ before, rawParts (join folder path) = before ++ rawParts path := by
  rw [join, if_neg (by simpa using relative)]
  split
  · next ends =>
    rw [Bool.or_eq_true, List.isEmpty_iff, beq_iff_eq] at ends
    rcases ends with rfl | last
    · exact ⟨[], rfl⟩
    · obtain ⟨before, rfl⟩ := List.getLast?_eq_some_iff.mp last
      refine ⟨rawParts before, ?_⟩
      rw [List.append_assoc, List.singleton_append, rawParts_append_slash]
  · exact ⟨rawParts folder, rawParts_append_slash folder path⟩

private theorem location_join (folder : Text) {path : Text} (inner : IsInner path) :
    location (join folder path) = location folder ++ parts path := by
  have down : ∀ (parts : List Text) (start : Location), (∀ part ∈ parts, IsStep part) →
      parts.foldl Location.step start = start ++ parts := by
    intro parts
    induction parts with
    | nil => exact fun start _ => (List.append_nil start).symm
    | cons part rest ih =>
        intro start steps
        obtain ⟨first, others⟩ := List.forall_mem_cons.mp steps
        have next : start.step part = start ++ [part] := by
          rw [Location.step, if_neg (by simpa using first.2), if_neg (by simpa using first.1)]
        rw [List.foldl_cons, next, ih _ others, List.append_assoc, List.singleton_append]
  rw [location, parts_join folder inner.relative, List.foldl_append, ← location]
  exact down _ _ inner.steps

/-- A name that is a path of one part, which leads downwards. -/
structure IsFileName (name : Text) : Prop where
  filled : name ≠ []
  slashless : '/' ∉ name
  notHere : name ≠ here
  notAbove : name ≠ above

namespace IsFileName

variable {name : Text} (single : IsFileName name)
include single

private theorem rawParts_eq : rawParts name = [name] :=
  Text.splitOn_of_notMem single.slashless

/-- The name of a file is a path that stays inside. -/
theorem isInner : IsInner name where
  filled := single.filled
  relative starts := single.slashless (List.mem_of_mem_head? starts)
  descends := by
    rw [single.rawParts_eq, List.mem_singleton]
    exact single.notAbove.symm

private theorem busy : isIdle name = false := by
  rw [isIdle, Bool.or_eq_false_iff, List.isEmpty_eq_false_iff, beq_eq_false_iff_ne]
  exact ⟨single.filled, single.notHere⟩

private theorem parts_eq : parts name = [name] := by
  rw [parts_of_relative single.isInner.relative, single.rawParts_eq]
  exact List.filter_cons_of_pos (by rw [single.busy]; rfl)

/-- The name of a file is a step of a path. -/
theorem isStep : IsStep name :=
  single.isInner.steps name (single.parts_eq ▸ List.mem_cons_self)

end IsFileName
end Path

/-- Whether a location lies below another one. -/
def Location.IsBelow (location root : Location) : Prop :=
  ∃ names, names ≠ [] ∧ (∀ name ∈ names, Path.IsStep name) ∧ location = root ++ names

namespace Folder

/-- A later state of a folder: below a location files may have been written, and no other file has
changed. No file and no folder is gone. -/
structure GrowsBelow (root : Location) (before after : Folder) : Prop where
  outside : ∀ location, ¬location.IsBelow root → after.file? location = before.file? location
  files : ∀ location, (before.file? location).isSome → (after.file? location).isSome
  folders : before.folders ⊆ after.folders

/-- A folder that has not changed. -/
theorem GrowsBelow.refl (root : Location) (f : Folder) : GrowsBelow root f f :=
  ⟨fun _ _ => rfl, fun _ => id, List.Subset.refl _⟩

/-- A folder that grows twice. -/
theorem GrowsBelow.trans {root : Location} {f g h : Folder} (first : GrowsBelow root f g)
    (second : GrowsBelow root g h) : GrowsBelow root f h :=
  ⟨fun location apart => (second.outside location apart).trans (first.outside location apart),
    fun location held => second.files location (first.files location held),
    List.Subset.trans first.folders second.folders⟩

variable {f g : Folder} {path : Text} {body : Bytes}

/-- Setting a file changes this file only. -/
theorem file?_set (location other : Location) :
    (f.set location body).file? other = if other = location then some body else f.file? other := by
  have others : ∀ files : List (Location × Bytes), other ≠ location →
      List.lookup other (files.filter (·.1 ≠ location)) = List.lookup other files := by
    intro files apart
    induction files with
    | nil => rfl
    | cons file rest ih =>
        by_cases dropped : file.1 = location
        · have unlike : (other == file.1) = false := by rw [dropped]; exact beq_false_of_ne apart
          rw [List.filter_cons_of_neg (by simpa using dropped), ih, List.lookup_cons, unlike]
        · rw [List.filter_cons_of_pos (by simpa using dropped), List.lookup_cons, List.lookup_cons,
            ih]
  rw [file?, set, List.lookup_cons]
  by_cases same : other = location
  · rw [beq_iff_eq.mpr same, if_pos same]
  · rw [beq_false_of_ne same, if_neg same, others f.files same, file?]

private theorem follow?_eq {start location : Location} {parts : List Text}
    (followed : f.follow? start parts = some location) :
    location = parts.foldl Location.step start := by
  induction parts generalizing start with
  | nil => exact (Option.some.inj followed).symm
  | cons part rest ih =>
      simp only [follow?] at followed
      split at followed
      · exact ih followed
      · cases followed

/-- A file lies where its path leads, and its path ends in a name. -/
theorem fileLocation?_eq {location : Location} (found : f.fileLocation? path = some location) :
    location = Path.location path ∧ Path.isOfFolder path = false := by
  simp only [fileLocation?] at found
  split at found
  · cases found
  · next file =>
    obtain ⟨folder, followed, named⟩ := Option.bind_eq_some_iff.mp found
    obtain ⟨name, last, rfl⟩ := Option.map_eq_some_iff.mp named
    obtain ⟨before, split⟩ := List.getLast?_eq_some_iff.mp last
    rw [split, List.dropLast_concat] at followed
    refine ⟨?_, Bool.eq_false_iff.mpr file⟩
    rw [Path.location, split, List.foldl_append, ← follow?_eq followed]
    rfl

/-- Writing succeeds by setting the file that the path leads to. -/
theorem write?_eq (written : f.write? path body = some g) :
    g = f.set (Path.location path) body ∧ Path.isOfFolder path = false := by
  obtain ⟨location, found, sets⟩ := Option.bind_eq_some_iff.mp written
  obtain ⟨rfl, file⟩ := fileLocation?_eq found
  split at sets
  · cases sets
  · exact ⟨(Option.some.inj sets).symm, file⟩

private theorem hasFolder_mono (more : f.folders ⊆ g.folders) {location : Location}
    (held : f.hasFolder location = true) : g.hasFolder location = true := by
  simp only [hasFolder, Bool.or_eq_true, List.contains_iff_mem] at held ⊢
  exact held.imp_right (more ·)

/-- More folders lead at least as far. -/
theorem follow?_isSome_mono (more : f.folders ⊆ g.folders) {start : Location} {parts : List Text}
    (followed : (f.follow? start parts).isSome) : (g.follow? start parts).isSome := by
  induction parts generalizing start with
  | nil => rfl
  | cons part rest ih =>
      simp only [follow?] at followed ⊢
      split at followed
      · next held =>
        rw [if_pos (hasFolder_mono more held)]
        exact ih followed
      · cases followed

/-- Making folders leaves files as they are, and then the path can be followed. -/
theorem makeFrom?_grows {start : Location} {parts : List Text}
    (made : f.makeFrom? start parts = some g) :
    g.files = f.files ∧ f.folders ⊆ g.folders ∧ (g.follow? start parts).isSome := by
  induction parts generalizing f start with
  | nil =>
      obtain rfl := Option.some.inj made
      exact ⟨rfl, List.Subset.refl _, rfl⟩
  | cons part rest ih =>
      simp only [makeFrom?] at made
      simp only [follow?]
      split at made
      · next held =>
        obtain ⟨files, more, followed⟩ := ih made
        rw [if_pos (hasFolder_mono more held)]
        exact ⟨files, more, followed⟩
      · split at made
        · cases made
        · obtain ⟨files, more, followed⟩ := ih made
          obtain ⟨first, others⟩ := List.cons_subset.mp more
          have held : g.hasFolder (start.step part) = true := by
            rw [hasFolder, Bool.or_eq_true, List.contains_iff_mem]
            exact .inr first
          rw [if_pos held]
          exact ⟨files, others, followed⟩

/-- Making folders lets a folder grow. -/
theorem growsBelow_make? (root : Location) (made : f.make? path = some g) :
    GrowsBelow root f g := by
  obtain ⟨files, folders, -⟩ := makeFrom?_grows made
  have same : ∀ location, g.file? location = f.file? location := fun location => by
    rw [file?, files, file?]
  exact ⟨fun location _ => same location, fun location held => by rwa [same], folders⟩

end Folder

/-- A path to a file in a folder leads below the folder. -/
theorem Path.isBelow_join (folder : Text) {path : Text} (inner : IsInner path)
    (file : isOfFolder (join folder path) = false) :
    (location (join folder path)).IsBelow (location folder) := by
  refine ⟨parts path, fun none => ?_, inner.steps, location_join folder inner⟩
  -- A path without parts ends in an idle one, and such a path leads to a folder.
  rw [parts_of_relative inner.relative, List.filter_eq_nil_iff] at none
  obtain ⟨before, split⟩ := rawParts_join folder inner.relative
  have last := List.getLast?_eq_some_getLast (Text.splitBy_ne_nil (· == '/') path)
  have idle : isIdle ((rawParts path).getLast (Text.splitBy_ne_nil _ _)) = true := by
    simpa using none _ (List.getLast_mem _)
  have ends : (rawParts (join folder path)).getLast? =
      some ((rawParts path).getLast (Text.splitBy_ne_nil _ _)) := by
    rw [split, List.getLast?_append]
    exact congrArg (Option.or · _) last
  rw [isOfFolder, ends] at file
  simp only [idle, Bool.true_or, Bool.true_eq_false] at file

namespace Folder

variable {f g : Folder} {body : Bytes}

/-- Setting a file below a location lets a folder grow there. -/
theorem growsBelow_set {root location : Location} (below : location.IsBelow root) :
    GrowsBelow root f (f.set location body) where
  outside other apart := by
    rw [file?_set, if_neg]
    rintro rfl
    exact apart below
  files other held := by
    rw [file?_set]
    split
    · rfl
    · exact held
  folders := List.Subset.refl _

/-- Placing a file at an inner path changes nothing outside of the folder. -/
theorem growsBelow_place (root : Text) {path : Text} (inner : Path.IsInner path)
    (placed : f.place (Path.join root path) body = .ok g) :
      GrowsBelow (Path.location root) f g := by
  simp only [place] at placed
  split at placed
  · cases placed
  · next folder made =>
    split at placed
    · cases placed
    · next written isWritten =>
      cases placed
      obtain ⟨rfl, file⟩ := write?_eq isWritten
      exact (growsBelow_make? _ made).trans (growsBelow_set (Path.isBelow_join root inner file))

/-- A file with a name in a folder lies in the folder under this name. -/
theorem fileLocation?_join (f : Folder) (root : Text) {name : Text}
    (single : Path.IsFileName name) :
    f.fileLocation? (Path.join root name) =
      (f.follow? [] (Path.parts root)).map fun _ => Path.location root ++ [name] := by
  have inner := single.isInner
  obtain ⟨before, split⟩ := Path.rawParts_join root inner.relative
  have ends : (Path.rawParts (Path.join root name)).getLast? = some name := by
    rw [split, single.rawParts_eq, List.getLast?_concat]
  have file : Path.isOfFolder (Path.join root name) = false := by
    simp only [Path.isOfFolder, ends, single.busy, Bool.false_or, beq_eq_false_iff_ne]
    exact single.notAbove
  rw [fileLocation?, if_neg (by rw [file]; exact Bool.false_ne_true)]
  simp only [Path.parts_join root inner.relative, single.parts_eq, List.dropLast_concat,
    List.getLast?_concat, Option.map_some]
  cases followed : f.follow? [] (Path.parts root) with
  | none => rfl
  | some location =>
      have step := single.isStep
      rw [Option.bind_some, Option.map_some, follow?_eq followed, ← Path.location, Location.step,
        if_neg (by simpa using step.2), if_neg (by simpa using step.1)]

/-- Writing a file with a name in a folder. -/
theorem write?_join (f : Folder) (root : Text) {name : Text} (single : Path.IsFileName name)
    (body : Bytes) :
    f.write? (Path.join root name) body =
      if (f.follow? [] (Path.parts root)).isSome ∧
          f.hasFolder (Path.location root ++ [name]) = false ∧ Path.isName name = true then
        some (f.set (Path.location root ++ [name]) body)
      else none := by
  rw [write?, fileLocation?_join f root single]
  cases f.follow? [] (Path.parts root) with
  | none => rfl
  | some location =>
      simp only [Option.map_some, Option.bind_some, List.getLast?_concat, Option.all_some,
        Option.isSome_some, true_and]
      cases f.hasFolder (Path.location root ++ [name]) <;> cases Path.isName name <;> rfl

/-- Reading a file with a name in a folder that can be followed. -/
theorem read?_join {f : Folder} {root name : Text} (single : Path.IsFileName name)
    (followed : (f.follow? [] (Path.parts root)).isSome) :
    f.read? (Path.join root name) = f.file? (Path.location root ++ [name]) := by
  obtain ⟨location, found⟩ := Option.isSome_iff_exists.mp followed
  rw [read?, fileLocation?_join f root single, found]
  rfl

/-- A path that leads to a file leads there when there are more folders. -/
theorem fileLocation?_mono (more : f.folders ⊆ g.folders) {path : Text} {location : Location}
    (found : f.fileLocation? path = some location) : g.fileLocation? path = some location := by
  simp only [fileLocation?] at found ⊢
  split at found
  · cases found
  · next file =>
    rw [if_neg file]
    obtain ⟨folder, followed, named⟩ := Option.bind_eq_some_iff.mp found
    have still := follow?_isSome_mono more (Option.isSome_iff_exists.mpr ⟨folder, followed⟩)
    obtain ⟨folder', followed'⟩ := Option.isSome_iff_exists.mp still
    rw [followed', follow?_eq followed', ← follow?_eq followed]
    exact named

/-- What can be read stays as long as no folder is gone and its file does not change. -/
theorem read?_mono (more : f.folders ⊆ g.folders) {path : Text} (readable : (f.read? path).isSome)
    (same : g.file? (Path.location path) = f.file? (Path.location path)) :
    g.read? path = f.read? path := by
  obtain ⟨body, reads⟩ := Option.isSome_iff_exists.mp readable
  obtain ⟨location, found, held⟩ := Option.bind_eq_some_iff.mp reads
  rw [read?, read?, fileLocation?_mono more found, found, Option.bind_some, Option.bind_some,
    (fileLocation?_eq found).1, same]

end Folder
end ArticleMarkdown
