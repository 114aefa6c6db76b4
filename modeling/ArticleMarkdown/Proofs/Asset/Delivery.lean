import ArticleMarkdown.Asset.Delivery
import ArticleMarkdown.Proofs.Folder.Inside

/-!
# What a delivery writes

Entries are delivered in the order of their creation, up to the first whose image cannot be fetched.
Where every file can be written, what lies at a place afterwards is what the last of the delivered
entries holds whose path leads there, and everything else is as it was
(`Delivery.ofEntries_writes_prefix`).
-/

namespace ArticleMarkdown

namespace Folder

variable {f g : Folder} {root path : Text} {body : Bytes} {location : Location}
  {files : List (Text × Bytes)}

/-- A placed file is found by its path, and every other file is as it was. -/
theorem place_ok (placed : f.place path body = .ok g) :
    f.folders ⊆ g.folders ∧ g.fileLocation? path = some (Path.location path) ∧
      ∀ location, g.file? location =
        if location = Path.location path then some body else f.file? location := by
  simp only [place] at placed
  split at placed
  · cases placed
  · next made isMade =>
    split at placed
    · cases placed
    · next written isWritten =>
      cases placed
      obtain ⟨same, more, -⟩ := makeFrom?_grows isMade
      obtain ⟨rfl, -⟩ := write?_eq isWritten
      obtain ⟨location, found, -⟩ := Option.bind_eq_some_iff.mp isWritten
      obtain ⟨rfl, -⟩ := fileLocation?_eq found
      have stays : made.folders ⊆ (made.set (Path.location path) body).folders :=
        List.Subset.refl _
      refine ⟨more, fileLocation?_mono stays found, fun location => ?_⟩
      rw [file?_set, file?, same, file?]

/-- Places files one after another. -/
def placeAll (root : Text) (f : Folder) (files : List (Text × Bytes)) : Except Text Folder :=
  files.foldlM (fun f file => f.place (Path.join root file.1) file.2) f

/-- What the last of some files holds whose path leads to a location. -/
def lastAt? (root : Text) (files : List (Text × Bytes)) (location : Location) : Option Bytes :=
  (files.reverse.find? fun file => Path.location (Path.join root file.1) = location).map (·.2)

private theorem placeAll_cons {file : Text × Bytes}
    (placed : placeAll root f (file :: files) = .ok g) :
    ∃ next, f.place (Path.join root file.1) file.2 = .ok next ∧
      placeAll root next files = .ok g := by
  simp only [placeAll, List.foldlM_cons] at placed ⊢
  cases first : f.place (Path.join root file.1) file.2 with
  | error failing =>
      rw [first] at placed
      cases placed
  | ok next =>
      rw [first] at placed
      exact ⟨next, rfl, placed⟩

private theorem lastAt?_cons (file : Text × Bytes) :
    lastAt? root (file :: files) location =
      (lastAt? root files location).or
        (if location = Path.location (Path.join root file.1) then some file.2 else none) := by
  rw [lastAt?, lastAt?, List.reverse_cons, List.find?_append, Option.map_or]
  refine congrArg _ ?_
  by_cases here : location = Path.location (Path.join root file.1)
  · simp [here]
  · simp [here, eq_comm]

private theorem placeAll_folders (placed : placeAll root f files = .ok g) :
    f.folders ⊆ g.folders := by
  induction files generalizing f with
  | nil =>
      cases placed
      exact List.Subset.refl _
  | cons file rest ih =>
      obtain ⟨next, first, others⟩ := placeAll_cons placed
      exact List.Subset.trans (place_ok first).1 (ih others)

/-- After files are placed, each location holds what was placed there last. -/
theorem file?_placeAll (placed : placeAll root f files = .ok g) (location : Location) :
    g.file? location = (lastAt? root files location).or (f.file? location) := by
  induction files generalizing f with
  | nil =>
      cases placed
      rfl
  | cons file rest ih =>
      obtain ⟨next, first, others⟩ := placeAll_cons placed
      rw [ih others, lastAt?_cons, Option.or_assoc, (place_ok first).2.2]
      split <;> rfl

/-- After files are placed, each of their paths can be read. -/
theorem read?_placeAll (placed : placeAll root f files = .ok g) {file : Text × Bytes}
    (member : file ∈ files) :
    g.read? (Path.join root file.1) =
      lastAt? root files (Path.location (Path.join root file.1)) := by
  have found : g.fileLocation? (Path.join root file.1) =
      some (Path.location (Path.join root file.1)) := by
    induction files generalizing f with
    | nil => cases member
    | cons other rest ih =>
        obtain ⟨next, first, others⟩ := placeAll_cons placed
        rcases List.mem_cons.mp member with rfl | later
        · exact fileLocation?_mono (placeAll_folders others) (place_ok first).2.1
        · exact ih others later
  have written : (lastAt? root files (Path.location (Path.join root file.1))).isSome := by
    rw [lastAt?, Option.isSome_map, List.find?_isSome]
    exact ⟨file, List.mem_reverse.mpr member, decide_eq_true rfl⟩
  rw [read?, found, Option.bind_some, file?_placeAll placed]
  exact Option.or_of_isSome written

end Folder

namespace Asset

namespace Entry

variable (fetcher : Option Fetcher) (entry : Entry)

/-- The address that is fetched to deliver an entry. -/
def awaited? : Option Text :=
  match entry.payload with
  | .bytes _ | .text _ => none
  | .pending address => fetcher.map fun _ => address

/-- Whether an entry is left out for want of a fetcher. -/
def isLeftOut : Bool :=
  match entry.payload with
  | .bytes _ | .text _ => false
  | .pending _ => fetcher.isNone

/-- Why the image of an entry cannot be fetched. -/
def fault? : Option Fault :=
  match entry.payload with
  | .bytes _ | .text _ => none
  | .pending address => fetcher.bind fun fetch =>
    match (fetch address).outcome with
    | .ok _ => none
    | .error fault => some fault

/-- What is written for an entry. -/
def body? : Option Bytes :=
  match entry.payload with
  | .bytes body => some body
  | .text markup => some (Text.utf8 markup)
  | .pending address => fetcher.bind fun fetch => (fetch address).outcome.toOption.map (·.body)

/-- An entry is written, left out, or its image cannot be fetched. -/
theorem body?_isSome_iff :
    (entry.body? fetcher).isSome = true ↔
      entry.fault? fetcher = none ∧ entry.isLeftOut fetcher = false := by
  obtain ⟨path, payload, mediaType, order, kind⟩ := entry
  cases payload with
  | bytes body => simp [body?, fault?, isLeftOut]
  | text markup => simp [body?, fault?, isLeftOut]
  | pending address =>
      cases fetcher with
      | none => simp [body?, fault?, isLeftOut]
      | some fetch =>
          cases outcome : (fetch address).outcome <;>
            simp [body?, fault?, isLeftOut, outcome, Except.toOption]

/-- The entries before the first whose image cannot be fetched. -/
def delivered (entries : List Entry) : List Entry :=
  entries.takeWhile fun entry => (entry.fault? fetcher).isNone

/-- The files that are written for entries. -/
def files (entries : List Entry) : List (Text × Bytes) :=
  (delivered fetcher entries).filterMap fun entry => (entry.body? fetcher).map (entry.path, ·)

/-- The addresses that are fetched for entries, the first that cannot be fetched among them. -/
def addresses (entries : List Entry) : List Text :=
  (entries.take ((delivered fetcher entries).length + 1)).filterMap (·.awaited? fetcher)

/-- The fault of the first image of entries that cannot be fetched. -/
def firstFault? (entries : List Entry) : Option Fault :=
  entries.findSome? fun entry => entry.fault? fetcher

section Cons

variable {fetcher : Option Fetcher} {entry : Entry} (rest : List Entry)

private theorem delivered_cons_of_fault {fault : Fault}
    (fails : entry.fault? fetcher = some fault) :
    delivered fetcher (entry :: rest) = [] := by
  rw [delivered, List.takeWhile_cons_of_neg (by simp [fails])]

private theorem delivered_cons (sound : entry.fault? fetcher = none) :
    delivered fetcher (entry :: rest) = entry :: delivered fetcher rest := by
  rw [delivered, List.takeWhile_cons_of_pos (by simp [sound]), delivered]

private theorem files_cons (sound : entry.fault? fetcher = none) :
    files fetcher (entry :: rest) =
      ((entry.body? fetcher).map (entry.path, ·)).toList ++ files fetcher rest := by
  rw [files, delivered_cons rest sound, List.filterMap_cons, files]
  cases entry.body? fetcher <;> rfl

private theorem addresses_cons (sound : entry.fault? fetcher = none) :
    addresses fetcher (entry :: rest) =
      (entry.awaited? fetcher).toList ++ addresses fetcher rest := by
  rw [addresses, delivered_cons rest sound, List.length_cons, List.take_succ_cons,
    List.filterMap_cons, addresses]
  cases entry.awaited? fetcher <;> rfl

private theorem firstFault?_cons (sound : entry.fault? fetcher = none) :
    firstFault? fetcher (entry :: rest) = firstFault? fetcher rest := by
  rw [firstFault?, List.findSome?_cons, sound, firstFault?]

end Cons

/-- Without failures, files are written for all entries that are not left out. -/
theorem files_paths {fetcher : Option Fetcher} {entries : List Entry}
    (sound : firstFault? fetcher entries = none) :
    (files fetcher entries).map (·.1) =
      (entries.filter fun entry => !entry.isLeftOut fetcher).map (·.path) := by
  induction entries with
  | nil => rfl
  | cons entry rest ih =>
      rw [firstFault?, List.findSome?_eq_none_iff] at sound
      obtain ⟨first, others⟩ := List.forall_mem_cons.mp sound
      have written := body?_isSome_iff fetcher entry
      rw [files_cons rest first, List.map_append, ih (List.findSome?_eq_none_iff.mpr others)]
      cases body : entry.body? fetcher with
      | none =>
          have out : entry.isLeftOut fetcher = true := by simpa [body, first] using written
          rw [List.filter_cons_of_neg (by simp [out])]
          rfl
      | some bytes =>
          have kept : entry.isLeftOut fetcher = false := by simpa [body, first] using written
          rw [List.filter_cons_of_pos (by simp [kept])]
          rfl

/-- Entries with different places in the order of creation are sorted strictly. -/
theorem sorted_strictly {entries : List Entry} (distinct : (entries.map (·.order)).Nodup) :
    (sorted entries).Pairwise fun a b => a.order < b.order := by
  have ordered : (sorted entries).Pairwise fun a b => decide (a.order ≤ b.order) = true :=
    List.pairwise_mergeSort (fun a b c => by simpa using Nat.le_trans)
      (fun a b => by simpa using Nat.le_total a.order b.order) entries
  have apart : (sorted entries).Pairwise fun a b => a.order ≠ b.order := by
    refine List.pairwise_map.mp ?_
    exact ((List.mergeSort_perm entries _).map _).nodup_iff.mpr distinct
  refine ordered.imp₂ (fun a b within apart => ?_) apart
  exact Nat.lt_of_le_of_ne (of_decide_eq_true within) apart

/-- There is one way to sort entries with different places. -/
theorem sorted_eq_of_perm {entries ordered : List Entry} (same : entries.Perm ordered)
    (ascending : ordered.Pairwise fun a b => a.order < b.order) : sorted entries = ordered := by
  have distinct : (entries.map (·.order)).Nodup := by
    rw [(same.map _).nodup_iff]
    exact List.pairwise_map.mpr (ascending.imp Nat.ne_of_lt)
  refine List.Perm.eq_of_pairwise (fun a b _ _ before after => ?_) (sorted_strictly distinct)
    ascending ((List.mergeSort_perm entries _).trans same)
  exact absurd before (Nat.lt_asymm after)

end Entry

namespace Delivery

variable {fetcher : Option Fetcher} {root : Text} {folder final : Folder}

/-- The delivery of the first entry, and of the others after it. -/
theorem ofSorted_cons (fetcher : Option Fetcher) (root : Text) (entry : Entry)
    (rest : List Entry) (folder : Folder) :
    ofSorted fetcher root (entry :: rest) folder =
      let d : Delivery := match entry.fault? fetcher, entry.body? fetcher with
        | some fault, _ => { folder, result := .error fault }
        | none, some body => afterFile root entry.path body folder (ofSorted fetcher root rest)
        | none, none => ofSorted fetcher root rest folder
      { d with fetched := (entry.awaited? fetcher).toList ++ d.fetched } := by
  obtain ⟨path, payload, mediaType, order, kind⟩ := entry
  cases payload with
  | bytes body => rfl
  | text markup => rfl
  | pending address =>
      cases fetcher with
      | none => rfl
      | some fetch =>
          cases outcome : (fetch address).outcome <;>
            simp [ofSorted, Entry.fault?, Entry.body?, Entry.awaited?, outcome, Except.toOption]

/-- The result of delivering entries whose files can be written. -/
def resultOf (fetcher : Option Fetcher) (root : Text) (entries : List Entry) :
    Except Fault (List Text) :=
  match Entry.firstFault? fetcher entries with
  | some fault => .error fault
  | none => .ok ((Entry.files fetcher entries).map fun file => Path.join root file.1)

/-- Where all files up to the first failing fetch can be written, they are, and nothing more. -/
theorem ofSorted_eq {entries : List Entry}
    (placed : folder.placeAll root (Entry.files fetcher entries) = .ok final) :
    ofSorted fetcher root entries folder =
      { folder := final, fetched := Entry.addresses fetcher entries,
        result := resultOf fetcher root entries } := by
  induction entries generalizing folder with
  | nil =>
      cases placed
      rfl
  | cons entry rest ih =>
      rw [ofSorted_cons]
      cases fails : entry.fault? fetcher with
      | some fault =>
          have none_before := Entry.delivered_cons_of_fault rest fails
          have first : resultOf fetcher root (entry :: rest) = .error fault := by
            simp [resultOf, Entry.firstFault?, fails]
          have only : Entry.addresses fetcher (entry :: rest) =
              (entry.awaited? fetcher).toList := by
            rw [Entry.addresses, none_before]
            cases awaits : entry.awaited? fetcher <;> simp [awaits]
          rw [Entry.files, none_before] at placed
          cases placed
          rw [first, only]
          simp
      | none =>
          have result : resultOf fetcher root (entry :: rest) =
              (resultOf fetcher root rest).map
                ((((entry.body? fetcher).map fun _ => Path.join root entry.path).toList ++ ·)) := by
            rw [resultOf, Entry.firstFault?_cons rest fails, Entry.files_cons rest fails, resultOf]
            cases Entry.firstFault? fetcher rest <;> cases entry.body? fetcher <;> rfl
          rw [Entry.files_cons rest fails] at placed
          rw [Entry.addresses_cons rest fails, result]
          cases writes : entry.body? fetcher with
          | none =>
              rw [writes] at placed
              simp only [ih placed]
              cases resultOf fetcher root rest <;> rfl
          | some body =>
              rw [writes] at placed
              obtain ⟨next, first, others⟩ := Folder.placeAll_cons placed
              simp only [afterFile, first, ih others]
              rfl

/-- A delivery goes through the entries in the order of their creation. If every image can be
fetched, it gives the paths of all entries that are not left out, else the fault that the fetcher
gives for the first that cannot. Where the files of the entries before that one can be written, each
of their paths holds what the last entry with that path holds, and nothing else has changed; paths
are the same if they lead to the same place. -/
theorem ofEntries_writes_prefix {entries : List Entry}
    (distinct : (entries.map (·.order)).Nodup)
    (placed : folder.placeAll root (Entry.files fetcher (Entry.sorted entries)) = .ok final) :
    let ordered := Entry.sorted entries
    let files := Entry.files fetcher ordered
    let d := ofEntries fetcher root entries folder
    (ordered.Perm entries ∧ ordered.Pairwise fun a b => a.order < b.order) ∧
      d.fetched = Entry.addresses fetcher ordered ∧
      (Entry.firstFault? fetcher ordered = none → d.result =
        .ok ((ordered.filter fun entry => !entry.isLeftOut fetcher).map
          fun entry => Path.join root entry.path)) ∧
      (∀ fault, Entry.firstFault? fetcher ordered = some fault → d.result = .error fault) ∧
      (∀ file ∈ files, d.folder.read? (Path.join root file.1) =
        Folder.lastAt? root files (Path.location (Path.join root file.1))) ∧
      ∀ location, d.folder.file? location =
        (Folder.lastAt? root files location).or (folder.file? location) := by
  intro ordered files d
  have delivered : d = ⟨final, Entry.addresses fetcher ordered, resultOf fetcher root ordered⟩ :=
    ofSorted_eq placed
  rw [delivered]
  refine ⟨⟨List.mergeSort_perm entries _, Entry.sorted_strictly distinct⟩, rfl, fun sound => ?_,
    fun fault fails => ?_, fun file member => Folder.read?_placeAll placed member,
    Folder.file?_placeAll placed⟩
  · have paths := congrArg (List.map (Path.join root)) (Entry.files_paths sound)
    rw [List.map_map, List.map_map] at paths
    simp only [resultOf, sound]
    exact congrArg _ paths
  · simp only [resultOf, fails]

/-- Entries of which two have the same path, and one has an image that cannot be fetched. -/
def mixedEntries : List Entry :=
  [⟨"img/a.png".toList, .bytes [1], "image/png".toList, 0, .image⟩,
    ⟨"img/1.svg".toList, .text "<a>".toList, "image/svg+xml".toList, 1, .drawing⟩,
    ⟨"img/./a.png".toList, .pending "a.png".toList, "image/png".toList, 2, .image⟩,
    ⟨"img/b.png".toList, .pending "b.png".toList, "image/png".toList, 3, .image⟩]

/-- A fetcher that knows one image. -/
def oneImage : Fetcher := fun address =>
  ⟨0, if address = "a.png".toList then .ok ⟨[2], "image/png".toList⟩
    else .error (.unreachable "mirror".toList 1 "gone".toList)⟩

/-- The folder that the first three of these entries are written to. -/
def mixedFolder : Folder where
  files :=
    [(["out".toList, "img".toList, "a.png".toList], [2]),
      (["out".toList, "img".toList, "1.svg".toList], Text.utf8 "<a>".toList)]
  folders := [["out".toList, "img".toList], ["out".toList]]

/-- Three of the entries are written before one cannot be. -/
theorem ofEntries_writes_prefix_mixedEntries :
    let files := Entry.files (some oneImage) (Entry.sorted mixedEntries.reverse)
    let d := ofEntries (some oneImage) "out".toList mixedEntries.reverse {}
    (mixedEntries.reverse.map (·.order)).Nodup ∧
      Folder.placeAll "out".toList {} files = .ok mixedFolder ∧
      d.result = .error (.unreachable "mirror".toList 1 "gone".toList) ∧
      d.folder.read? "out/img/a.png".toList = some [2] := by
  intro files d
  have distinct : (mixedEntries.reverse.map (·.order)).Nodup := by decide
  have sorted : Entry.sorted mixedEntries.reverse = mixedEntries :=
    Entry.sorted_eq_of_perm (List.reverse_perm _) (by decide)
  have placed : Folder.placeAll "out".toList {} files = .ok mixedFolder := by
    rw [show files = _ from congrArg (Entry.files _) sorted]
    decide +kernel
  obtain ⟨-, -, -, fails, reads, -⟩ := ofEntries_writes_prefix distinct placed
  rw [sorted] at fails reads
  refine ⟨distinct, placed, fails _ (by decide +kernel), ?_⟩
  exact (reads ("img/a.png".toList, [1]) (by decide +kernel)).trans (by decide +kernel)

end Delivery
end Asset
end ArticleMarkdown
