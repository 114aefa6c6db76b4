import ArticleMarkdown.Asset.Delivery
import ArticleMarkdown.Proofs.Article.Contract
import ArticleMarkdown.Proofs.Asset.Answer

/-!
# Fetching now and fetching later

A store that leaves its images for later becomes the one that fetches them at once when each
pending image is replaced by what its fetch brings. Requests that tell their files' types keep two
such stores alike (`Store.answerAll_agrees`), and delivering them leaves the same folder
(`Store.deliver_agrees`). So when every fetch succeeds, and every image tells its file's type, it
does not matter whether images are fetched as the document is converted or when its assets are
delivered.
-/

namespace ArticleMarkdown.Asset

/-- A request that tells the type of its file, so that the file is named before it is fetched. -/
def Request.TellsType : Request → Prop
  | .image address _ _ => (Url.fileExtension? (Url.canonical (Text.trim address))).isSome = true
  | .drawing _ _ _ => True

instance : DecidablePred Request.TellsType
  | .image _ _ _ => inferInstanceAs (Decidable (_ = _))
  | .drawing _ _ _ => inferInstanceAs (Decidable True)

section Brought

variable (image : Text → FetchedImage)

/-- An entry with what it waits for. -/
def Entry.brought (entry : Entry) : Entry :=
  match entry.payload with
  | .pending address =>
    { entry with payload := .bytes (image address).body, mediaType := (image address).mediaType }
  | .bytes _ | .text _ => entry

@[simp] private theorem Entry.order_brought (entry : Entry) :
    (entry.brought image).order = entry.order := by
  rw [brought]
  split <;> rfl

private theorem Entry.sorted_map_brought (entries : List Entry) :
    sorted (entries.map (brought image)) = (sorted entries).map (brought image) :=
  (List.map_mergeSort fun a _ b _ => by simp only [order_brought]).symm

/-- A sink with what its entries wait for. -/
def Sink.brought (sink : Sink) : Sink :=
  { sink with entries := sink.entries.map (Entry.brought image) }

private theorem Sink.brought_enter (sink : Sink) (c : Claim) (payload : Payload) (mediaType : Text)
    (kind : Kind) :
    (sink.enter c payload mediaType kind).brought image =
      ((sink.brought image).grant c).push
        (Entry.brought image ⟨c.path, payload, mediaType, sink.nextOrder, kind⟩) := by
  simp only [enter, brought, push, List.map_append, List.map_cons, List.map_nil]
  rfl

end Brought

namespace Store

variable {fetch : Fetcher} {image : Text → FetchedImage}

/-- A request that tells its file's type is answered alike now and later. -/
theorem answer_agrees (brings : fetch.Brings image) {now later : Store}
    (same : now.sink = later.sink.brought image) {request : Request}
    (proper : request.fault? = none) (tells : request.TellsType) :
    (now.answer (some fetch) request).1.sink =
        (later.answer none request).1.sink.brought image ∧
      (now.answer (some fetch) request).2 = (later.answer none request).2 := by
  obtain ⟨sink, fetched⟩ := now
  change sink = _ at same
  subst same
  rw [answer_none]
  cases recorded : later.sink.record? request.owner request.key with
  | some path =>
      have known : (later.sink.brought image).record? request.owner request.key = some path :=
        recorded
      have accepted := Sink.accept_known proper known
      rw [answer_of_answered accepted, Sink.defer_known proper recorded]
      exact ⟨rfl, rfl⟩
  | none =>
      have fresh : (later.sink.brought image).record? request.owner request.key = none := recorded
      have accepted := Sink.accept_fresh proper fresh
      cases request with
      | drawing markup directory namePrefix =>
          rw [answer_of_answered accepted, Sink.defer_fresh_drawing proper recorded,
            Sink.brought_enter]
          exact ⟨rfl, rfl⟩
      | image address directory namePrefix =>
          obtain ⟨extension, told⟩ := Option.isSome_iff_exists.mp tells
          have named : (Request.image address directory namePrefix).extension = extension := by
            simp only [Request.extension, told, Option.getD_some]
          simp only [Request.freshPlan, Plan.ofImage, told] at accepted
          rw [answer_of_fetching accepted (brings _) (Sink.land_reserved _ (image _) rfl),
            Sink.defer_fresh_image proper recorded]
          simp only [Sink.brought_enter, Sink.requestClaim, named]
          exact ⟨rfl, rfl⟩

/-- Requests that tell their files' types are answered alike now and later. -/
theorem answerAll_agrees (brings : fetch.Brings image) {now later : Store}
    (same : now.sink = later.sink.brought image) {requests : List Request}
    (proper : ∀ request ∈ requests, request.fault? = none)
    (tell : ∀ request ∈ requests, request.TellsType) :
    (now.answerAll (some fetch) requests).1.sink =
        (later.answerAll none requests).1.sink.brought image ∧
      (now.answerAll (some fetch) requests).2 = (later.answerAll none requests).2 := by
  induction requests generalizing now later with
  | nil => exact ⟨same, rfl⟩
  | cons request rest ih =>
      obtain ⟨first, others⟩ := List.forall_mem_cons.mp proper
      obtain ⟨tells, theyTell⟩ := List.forall_mem_cons.mp tell
      obtain ⟨sinks, results⟩ := answer_agrees brings same first tells
      rw [answerAll, answerAll]
      generalize now.answer (some fetch) request = answered at sinks results ⊢
      generalize later.answer none request = answered' at sinks results ⊢
      obtain ⟨after, result⟩ := answered
      obtain ⟨after', result'⟩ := answered'
      cases results
      cases result with
      | error fault => exact ⟨sinks, rfl⟩
      | ok path =>
          obtain ⟨laterSinks, laterResults⟩ := ih sinks others theyTell
          exact ⟨laterSinks, congrArg (Except.map _) laterResults⟩

end Store

/-- Two deliveries that leave the same folder and have the same result, whatever they fetched. -/
structure Delivery.Agrees (first second : Delivery) : Prop where
  folder : first.folder = second.folder
  result : first.result = second.result

namespace Delivery

private theorem Agrees.afterFile {root path : Text} {body : Bytes} {folder : Folder}
    {rest rest' : Folder → Delivery} (agree : ∀ folder, (rest folder).Agrees (rest' folder)) :
    (Delivery.afterFile root path body folder rest).Agrees
      (Delivery.afterFile root path body folder rest') := by
  rw [Delivery.afterFile, Delivery.afterFile]
  cases folder.place (Path.join root path) body with
  | error failing => exact ⟨rfl, rfl⟩
  | ok folder => exact ⟨(agree folder).folder, congrArg (Except.map _) (agree folder).result⟩

/-- Delivering what has been brought leaves the same folder as bringing it on delivery. -/
theorem ofSorted_agrees {fetch : Fetcher} {image : Text → FetchedImage}
    (brings : fetch.Brings image) (root : Text) (entries : List Entry) (folder : Folder) :
    (ofSorted none root (entries.map (Entry.brought image)) folder).Agrees
      (ofSorted (some fetch) root entries folder) := by
  induction entries generalizing folder with
  | nil => exact ⟨rfl, rfl⟩
  | cons entry rest ih =>
      obtain ⟨path, payload, mediaType, order, kind⟩ := entry
      cases payload with
      | bytes body => exact .afterFile ih
      | text markup => exact .afterFile ih
      | pending address =>
          simp only [ofSorted, brings address]
          exact ⟨(Agrees.afterFile ih).folder, (Agrees.afterFile ih).result⟩

end Delivery

/-- Delivering a store that has fetched leaves the same folder as one that has not. -/
theorem Store.deliver_agrees {fetch : Fetcher} {image : Text → FetchedImage}
    (brings : fetch.Brings image) {now later : Store}
    (same : now.sink = later.sink.brought image) (root : Text) (folder : Folder) :
    (now.deliver none root folder).2.Agrees (later.deliver (some fetch) root folder).2 := by
  have delivered := Delivery.ofSorted_agrees brings root
    (Entry.sorted (Entry.sorted later.sink.entries)) folder
  rw [← Entry.sorted_map_brought, ← Entry.sorted_map_brought] at delivered
  simp only [deliver, Sink.drain, Sink.sortedEntries, Delivery.ofEntries, same]
  exact delivered

end ArticleMarkdown.Asset

namespace ArticleMarkdown.Article

open Asset

/-- A document converted with a fetcher, and delivered without one, gives the same Markdown and
leaves the same folder as the document converted without a fetcher and delivered with it, and the
same files are reported or the same file cannot be written. -/
theorem deferral_agrees {fetch : Fetcher} {image : Text → FetchedImage}
    (brings : fetch.Brings image) (s : Settings) (children : List Node)
    (tell : ∀ request ∈ (draftDocument s children).requests, request.TellsType) :
    ∃ markdown,
      (convertNodes (some fetch) s {} children).2 = .ok markdown ∧
      (convertNodes none s {} children).2 = .ok markdown ∧
      ∀ root folder,
        ((convertNodes (some fetch) s {} children).1.deliver none root folder).2.Agrees
          ((convertNodes none s {} children).1.deliver (some fetch) root folder).2 := by
  have proper : ∀ request ∈ (draftDocument s children).requests, request.fault? = none :=
    fun request member => (documentRequests_proper s children request member).2
  obtain ⟨paths, answers⟩ := Store.answerAll_none {} proper
  have start : (Store.sink {}) = (Store.sink {}).brought image := rfl
  obtain ⟨sinks, results⟩ := Store.answerAll_agrees brings start proper tell
  refine ⟨(draftDocument s children).fill paths, ?_, ?_, fun root folder => ?_⟩
  · exact convertNodes_of_answers (results.trans answers)
  · exact convertNodes_of_answers answers
  · rw [convertNodes_store, convertNodes_store]
    exact Store.deliver_agrees brings sinks root folder

/-- A fetcher that brings the address itself. -/
def echoes : Fetcher := fun address =>
  ⟨0, .ok ⟨Text.utf8 address, "image/png".toList⟩⟩

/-- One image under two spellings of its address. -/
def spellings : List Node :=
  let image (address : String) := Node.element .html "img" [⟨.none, "src", address.toList⟩] []
  [image "a.png#1", image "a.png"]

/-- Now or later, the image is fetched once, under the first spelling. -/
theorem deferral_agrees_spellings :
    let s : Settings := { localizeAssets := true }
    let now := convertNodes (some echoes) s {} spellings
    let later := convertNodes none s {} spellings
    now.2 = later.2 ∧ now.1.fetched = ["a.png#1".toList] ∧ later.1.fetched = [] ∧
      (now.1.deliver none "out".toList {}).2.folder =
        (later.1.deliver (some echoes) "out".toList {}).2.folder ∧
      (later.1.deliver (some echoes) "out".toList {}).2.fetched = ["a.png#1".toList] := by
  intro s now later
  have tell : ∀ request ∈ (draftDocument s spellings).requests, request.TellsType := by
    decide +kernel
  have brings : echoes.Brings fun address => ⟨Text.utf8 address, "image/png".toList⟩ :=
    fun address => rfl
  obtain ⟨markdown, atOnce, deferred, delivered⟩ := deferral_agrees brings s spellings tell
  exact ⟨atOnce.trans deferred.symm, by decide +kernel, by decide +kernel, (delivered _ _).folder,
    by decide +kernel⟩

end ArticleMarkdown.Article
