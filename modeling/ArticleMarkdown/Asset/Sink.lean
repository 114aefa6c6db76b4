import ArticleMarkdown.Asset.Entry
import ArticleMarkdown.Asset.Owner
import ArticleMarkdown.Digest.Xxh3
import ArticleMarkdown.Url.Address

/-!
# The sink of assets

The sink names assets and holds their entries until they are drained. A request for an image or a
drawing is answered by a path relative to the document. Images are fetched later, by whoever
writes the entries (`Sink.defer`), or now. A request that needs a fetch now is answered in two
steps: `Sink.accept` ends in a flight, and `Sink.land` completes the flight when the fetch is
over. Other requests may be served between the two, which is why `Sink.land` looks up the tables
again.
-/

namespace ArticleMarkdown.Asset

/-- Something that a document wants as a file. -/
inductive Request where
  | image (address directory namePrefix : Text)
  /-- A drawing given by its markup. -/
  | drawing (markup directory namePrefix : Text)
  deriving DecidableEq, Repr

/-- A fetch under way. -/
structure Flight where
  address : Text
  canonical : Text
  owner : Owner
  /-- The path and place that are already taken, when the address tells the file's type. -/
  reserved : Option (Text × Nat)
  deriving DecidableEq, Repr

/-- How far a request has come. -/
inductive Progress where
  | answered (result : Except Fault Text)
  | fetching (flight : Flight)

/-- Names given out and entries held. -/
structure Sink where
  scopes : List (Owner × Scope) := []
  entries : List Entry := []
  nextOrder : Nat := 0
  deriving DecidableEq, Repr, Inhabited

/-- The extension of images whose address and type tell none. -/
def defaultExtension : Text := "png".toList

namespace Sink

/-- What an owner has named so far. -/
def scope (sink : Sink) (owner : Owner) : Scope :=
  (sink.scopes.lookup owner).getD {}

/-- The sink with another state of an owner. -/
def setScope (sink : Sink) (owner : Owner) (scope : Scope) : Sink :=
  { sink with scopes := (owner, scope) :: sink.scopes.filter (·.1 != owner) }

/-- The path of a file of an owner. -/
def filePath (owner : Owner) (number : Nat) (extension : Text) : Text :=
  let name := FileName.ofText (owner.namePrefix ++ Text.ofNat number ++ '.' :: extension)
  if owner.directory.isEmpty then name else owner.directory ++ '/' :: name

/-- Takes the next file name of an owner and the next place in the order of creation. -/
def reserve (sink : Sink) (owner : Owner) (extension : Text) : Sink × Text × Nat :=
  let (scope, number) := (sink.scope owner).nextNumber
  let taken := { sink.setScope owner scope with nextOrder := sink.nextOrder + 1 }
  (taken, filePath owner number extension, sink.nextOrder)

/-- Takes a file name for an image and remembers it. -/
def reserveImage (sink : Sink) (owner : Owner) (canonical extension : Text) :
    Sink × Text × Nat :=
  let (taken, path, order) := sink.reserve owner extension
  (taken.setScope owner ((taken.scope owner).rememberImage canonical path), path, order)

/-- Adds an entry. -/
def push (sink : Sink) (entry : Entry) : Sink :=
  { sink with entries := sink.entries ++ [entry] }

/-- Whether an address holds the image itself. -/
def isSelfContained (address : Text) : Bool :=
  Text.startsWith "data:".toList (Text.lower address)

/-- What the tables tell about a request for an image. -/
inductive Inquiry where
  | answered (result : Except Fault Text)
  /-- The image at an address has no name yet. -/
  | wanted (address canonical : Text) (owner : Owner)

/-- Looks up a request for an image. -/
def inquire (sink : Sink) (address directory namePrefix : Text) : Inquiry :=
  let address := Text.trim address
  if address.isEmpty then .answered (.error .emptyAddress)
  else if isSelfContained address then .answered (.error .selfContainedAddress)
  else
    let canonical := Url.canonical address
    let owner := Owner.of namePrefix directory
    match (sink.scope owner).imagePath? canonical with
    | some path => .answered (.ok path)
    | none => .wanted address canonical owner

/-- Accepts a request for an image that is to be fetched now. -/
def acceptImage (sink : Sink) (address directory namePrefix : Text) : Sink × Progress :=
  match sink.inquire address directory namePrefix with
  | .answered result => (sink, .answered result)
  | .wanted address canonical owner =>
    match Url.fileExtension? canonical with
    | none => (sink, .fetching ⟨address, canonical, owner, none⟩)
    | some extension =>
      let (reserved, path, order) := sink.reserveImage owner canonical extension
      (reserved, .fetching ⟨address, canonical, owner, some (path, order)⟩)

/-- Answers a request for an image that is to be fetched later. -/
def deferImage (sink : Sink) (address directory namePrefix : Text) : Sink × Except Fault Text :=
  match sink.inquire address directory namePrefix with
  | .answered result => (sink, result)
  | .wanted address canonical owner =>
    let extension := (Url.fileExtension? canonical).getD defaultExtension
    let (reserved, path, order) := sink.reserveImage owner canonical extension
    let mediaType := (Media.typeOfExtension extension).toList
    (reserved.push ⟨path, .pending address, mediaType, order, .image⟩, .ok path)

/-- Answers a request for a drawing. -/
def answerDrawing (sink : Sink) (markup directory namePrefix : Text) :
    Sink × Except Fault Text :=
  let markup := Text.trim markup
  if !Text.startsWith "<svg".toList (Text.lower markup) then (sink, .error .notDrawing)
  else
    let digest := Digest.ofBytes (Text.utf8 markup)
    let owner := Owner.of namePrefix directory
    match (sink.scope owner).drawingPath? digest with
    | some path => (sink, .ok path)
    | none =>
      let (taken, path, order) := sink.reserve owner "svg".toList
      let named := taken.setScope owner ((taken.scope owner).rememberDrawing digest path)
      (named.push ⟨path, .text markup, "image/svg+xml".toList, order, .drawing⟩, .ok path)

/-- Accepts a request: answers it, or starts a fetch. -/
def accept (sink : Sink) : Request → Sink × Progress
  | .image address directory namePrefix => sink.acceptImage address directory namePrefix
  | .drawing markup directory namePrefix =>
    let (sink, result) := sink.answerDrawing markup directory namePrefix
    (sink, .answered result)

/-- Answers a request without fetching anything. -/
def defer (sink : Sink) : Request → Sink × Except Fault Text
  | .image address directory namePrefix => sink.deferImage address directory namePrefix
  | .drawing markup directory namePrefix => sink.answerDrawing markup directory namePrefix

/-- The entry of a fetched image. -/
def fetchedEntry (path : Text) (order : Nat) (image : FetchedImage) : Entry :=
  ⟨path, .bytes image.body, image.mediaType, order, .image⟩

/-- Completes a flight. An image whose name was reserved gets its entry, or its address is
forgotten so that a later request fetches it again. An image without a name is named after its
type, unless another flight has brought the same image meanwhile. A fault of the fetcher is handed
on as it is. -/
def land (sink : Sink) (flight : Flight) (outcome : FetchOutcome) : Sink × Except Fault Text :=
  match outcome, flight.reserved with
  | .ok image, some (path, order) => (sink.push (fetchedEntry path order image), .ok path)
  | .ok image, none =>
    match (sink.scope flight.owner).imagePath? flight.canonical with
    | some path => (sink, .ok path)
    | none =>
      let extension := (Media.extensionOfType? image.mediaType).map String.toList
      let (reserved, path, order) :=
        sink.reserveImage flight.owner flight.canonical (extension.getD defaultExtension)
      (reserved.push (fetchedEntry path order image), .ok path)
  | .error fault, some _ =>
    let scope := (sink.scope flight.owner).forgetImage flight.canonical
    (sink.setScope flight.owner scope, .error fault)
  | .error fault, none => (sink, .error fault)

/-- The entries held, in the order of creation. -/
def sortedEntries (sink : Sink) : List Entry :=
  Entry.sorted sink.entries

/-- Hands out all entries; names stay taken. -/
def drain (sink : Sink) : Sink × List Entry :=
  ({ sink with entries := [] }, sink.sortedEntries)

end Sink
end ArticleMarkdown.Asset
