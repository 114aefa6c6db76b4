import ArticleMarkdown.Asset.Store
import ArticleMarkdown.Folder.Basic

/-!
# Delivering assets

Entries are written to a folder in the order of their creation. Images that were left for later are
fetched first; without a fetcher they are left out. The first failure ends the delivery, and what
was written before stays.
-/

namespace ArticleMarkdown.Asset

/-- The outcome of writing entries to a folder. -/
structure Delivery where
  folder : Folder
  fetched : List Text := []
  /-- The paths that were written. -/
  result : Except Fault (List Text) := .ok []

namespace Delivery

/-- Delivers what is left after a file is written. -/
def afterFile (root path : Text) (body : Bytes) (folder : Folder) (rest : Folder → Delivery) :
    Delivery :=
  let target := Path.join root path
  match folder.place target body with
  | .error failing => { folder, result := .error (.unwritable failing none) }
  | .ok folder =>
    let d := rest folder
    { d with result := d.result.map (target :: ·) }

/-- Delivers entries in the order of the list. -/
def ofSorted (fetcher : Option Fetcher) (root : Text) : List Entry → Folder → Delivery
  | [], folder => { folder }
  | entry :: rest, folder =>
    match entry.payload, fetcher with
    | .bytes body, _ => afterFile root entry.path body folder (ofSorted fetcher root rest)
    | .text markup, _ =>
      afterFile root entry.path (Text.utf8 markup) folder (ofSorted fetcher root rest)
    | .pending _, none => ofSorted fetcher root rest folder
    | .pending address, some fetch =>
      let d : Delivery := match (fetch address).outcome with
        | .error fault => { folder, result := .error fault }
        | .ok image => afterFile root entry.path image.body folder (ofSorted fetcher root rest)
      { d with fetched := address :: d.fetched }

/-- Delivers entries to the folder at a path of a folder. -/
def ofEntries (fetcher : Option Fetcher) (root : Text) (entries : List Entry) (folder : Folder) :
    Delivery :=
  ofSorted fetcher root (Entry.sorted entries) folder

end Delivery

/-- Drains a store into the folder at a path of a folder. -/
def Store.deliver (fetcher : Option Fetcher) (root : Text) (store : Store) (folder : Folder) :
    Store × Delivery :=
  let (sink, entries) := store.sink.drain
  let d := Delivery.ofEntries fetcher root entries folder
  (⟨sink, store.fetched ++ d.fetched⟩, d)

end ArticleMarkdown.Asset
