import ArticleMarkdown.Proofs.Asset.Extension
import ArticleMarkdown.Proofs.Asset.Outlook

/-!
# What answering a request can do

A store answers a request that can be served in one of three ways: with the path on record, with a
new name whose entry is made at once, or with the fault of the fetch that it makes for the
request (`Store.answer_answered`). Requests answered one after another end at the first fetch that
fails, and no image is fetched twice on the way (`Store.answerAll_endsWith`).
-/

namespace ArticleMarkdown.Asset

/-- What a fetch gives, if there is a fetcher. -/
def Fetcher.outcome? (fetcher : Option Fetcher) (address : Text) : Option FetchOutcome :=
  fetcher.map fun fetch => (fetch address).outcome

/-- A fetcher brings an image for each of some addresses. -/
def Fetcher.BringsAll (fetch : Fetcher) (addresses : List Text) : Prop :=
  ∀ address ∈ addresses, ∃ image, (fetch address).outcome = .ok image

namespace Sink

variable (sink : Sink)

/-- The sink after a claim whose entry is made at once. -/
def enter (c : Claim) (payload : Payload) (mediaType : Text) (kind : Kind) : Sink :=
  (sink.grant c).push ⟨c.path, payload, mediaType, sink.nextOrder, kind⟩

/-- An entry made at once puts the path of its claim on record. -/
@[simp] theorem record?_enter (c : Claim) (payload : Payload) (mediaType : Text) (kind : Kind)
    (owner : Owner) (key : Key) :
    (sink.enter c payload mediaType kind).record? owner key =
      if owner = c.owner ∧ key = c.key then some c.path else sink.record? owner key := by
  rw [enter, record?_push, record?_grant]

variable {sink} {request : Request}

/-- A request that is on record is answered with its path. -/
theorem accept_known (proper : request.fault? = none) {path : Text}
    (known : sink.record? request.owner request.key = some path) :
    sink.accept request = (sink, .answered (.ok path)) := by
  rw [accept_eq_carryOut, Scope.plan_of_record true proper known]
  rfl

/-- A request that is not on record is served by its plan for a new name. -/
theorem accept_fresh (proper : request.fault? = none)
    (fresh : sink.record? request.owner request.key = none) :
    sink.accept request = sink.carryOut
      (request.freshPlan true
        ((sink.scope request.owner).nextClaim request.owner request.key)) := by
  rw [accept_eq_carryOut, Scope.plan_of_fresh true proper fresh]

/-- What is deferred is answered as its plan says. -/
theorem defer_eq_of_carryOut {plan : Plan} {after : Sink} {result : Except Fault Text}
    (planned : (sink.scope request.owner).plan false request = plan)
    (served : sink.carryOut plan = (after, .answered result)) :
    sink.defer request = (after, result) := by
  have same := defer_eq_carryOut sink request
  rw [planned, served] at same
  obtain ⟨sinks, results⟩ := Prod.mk.inj same
  exact Prod.ext sinks (Progress.answered.inj results)

/-- A request that is on record is answered with its path also if nothing is fetched. -/
theorem defer_known (proper : request.fault? = none) {path : Text}
    (known : sink.record? request.owner request.key = some path) :
    sink.defer request = (sink, .ok path) :=
  defer_eq_of_carryOut (Scope.plan_of_record false proper known) rfl

variable (sink) in
private theorem requestClaim_plain (request : Request) :
    PlainExtension (sink.requestClaim request).extension :=
  request.extension_plain

/-- A new drawing is written down at once. -/
theorem defer_fresh_drawing {markup directory namePrefix : Text}
    (proper : (Request.drawing markup directory namePrefix).fault? = none)
    (fresh : sink.record? (Owner.of namePrefix directory)
      (Request.drawing markup directory namePrefix).key = none) :
    sink.defer (.drawing markup directory namePrefix) =
      (sink.enter (sink.requestClaim (.drawing markup directory namePrefix))
          (.text (Text.trim markup)) "image/svg+xml".toList .drawing,
        .ok (sink.requestClaim (.drawing markup directory namePrefix)).path) :=
  defer_eq_of_carryOut (Scope.plan_of_fresh false proper fresh) rfl

/-- A new image is written down at once, to be fetched later. -/
theorem defer_fresh_image {address directory namePrefix : Text}
    (proper : (Request.image address directory namePrefix).fault? = none)
    (fresh : sink.record? (Owner.of namePrefix directory)
      (Request.image address directory namePrefix).key = none) :
    sink.defer (.image address directory namePrefix) =
      (sink.enter (sink.requestClaim (.image address directory namePrefix))
          (.pending (Text.trim address))
          (Media.typeOfExtension
            (Request.image address directory namePrefix).extension).toList .image,
        .ok (sink.requestClaim (.image address directory namePrefix)).path) :=
  defer_eq_of_carryOut (Scope.plan_of_fresh false proper fresh) rfl

end Sink

namespace Store

/-- All that a store can do with a request that can be served. -/
inductive Answered (fetcher : Option Fetcher) (store : Store) (request : Request) :
    Store → Except Fault Text → Prop where
  | known {path : Text} (recorded : store.sink.record? request.owner request.key = some path) :
      Answered fetcher store request store (.ok path)
  | made {c : Claim} {payload : Payload} {mediaType : Text} {kind : Kind} {asked : Option Text}
      (fresh : store.sink.record? request.owner request.key = none)
      (owner : c.owner = request.owner) (key : c.key = request.key)
      (plain : PlainExtension c.extension)
      (brought : ∀ address ∈ asked, request.key = .image (Url.canonical address) ∧
        ∃ image, Fetcher.outcome? fetcher address = some (.ok image)) :
      Answered fetcher store request
        ⟨store.sink.enter c payload mediaType kind, store.fetched ++ asked.toList⟩ (.ok c.path)
  | failed {address : Text} {fault : Fault} {sink : Sink}
      (fresh : store.sink.record? request.owner request.key = none)
      (key : request.key = .image (Url.canonical address))
      (fails : Fetcher.outcome? fetcher address = some (.error fault)) :
      Answered fetcher store request ⟨sink, store.fetched ++ [address]⟩ (.error fault)

namespace Answered

variable {fetcher : Option Fetcher} {store : Store} {request : Request} {c : Claim}
  {payload : Payload} {mediaType : Text} {kind : Kind}

/-- A new name for which nothing is fetched. -/
theorem made_unasked (fresh : store.sink.record? request.owner request.key = none)
    (owner : c.owner = request.owner) (key : c.key = request.key)
    (plain : PlainExtension c.extension) :
    Answered fetcher store request ⟨store.sink.enter c payload mediaType kind, store.fetched⟩
      (.ok c.path) := by
  have made : Answered fetcher store request
      ⟨store.sink.enter c payload mediaType kind, store.fetched ++ (none : Option Text).toList⟩
      (.ok c.path) :=
    .made fresh owner key plain nofun
  rwa [Option.toList_none, List.append_nil] at made

/-- A new name for an image that is fetched. -/
theorem made_asked {address : Text} {image : FetchedImage}
    (fresh : store.sink.record? request.owner request.key = none)
    (owner : c.owner = request.owner) (key : c.key = request.key)
    (plain : PlainExtension c.extension) (asks : request.key = .image (Url.canonical address))
    (brings : Fetcher.outcome? fetcher address = some (.ok image)) :
    Answered fetcher store request
      ⟨store.sink.enter c payload mediaType kind, store.fetched ++ [address]⟩ (.ok c.path) := by
  have made : Answered fetcher store request
      ⟨store.sink.enter c payload mediaType kind, store.fetched ++ (some address).toList⟩
      (.ok c.path) := by
    refine .made fresh owner key plain fun asked member => ?_
    cases member
    exact ⟨asks, image, brings⟩
  exact made

end Answered

/-- Without a fetcher, every request is served later. -/
theorem answer_none (store : Store) (request : Request) :
    store.answer none request =
      (⟨(store.sink.defer request).1, store.fetched⟩, (store.sink.defer request).2) :=
  rfl

section Now

variable {fetch : Fetcher} {store : Store} {request : Request} {after : Sink}

/-- A request that waits for no fetch is answered. -/
theorem answer_of_answered {result : Except Fault Text}
    (served : store.sink.accept request = (after, .answered result)) :
    store.answer (some fetch) request = (⟨after, store.fetched⟩, result) := by
  rw [answer, start]
  simp only [served]

/-- A request that waits for a fetch is answered when its flight lands. -/
theorem answer_of_fetching {flight : Flight} {outcome : FetchOutcome} {landed : Sink}
    {result : Except Fault Text} (served : store.sink.accept request = (after, .fetching flight))
    (gives : (fetch flight.address).outcome = outcome)
    (lands : after.land flight outcome = (landed, result)) :
    store.answer (some fetch) request =
      (⟨landed, store.fetched ++ [flight.address]⟩, result) := by
  rw [answer, start]
  simp only [served, gives, land, lands]

end Now

private theorem answered_later (store : Store) {request : Request}
    (proper : request.fault? = none) :
    Answered none store request (store.answer none request).1 (store.answer none request).2 := by
  rw [answer_none]
  cases recorded : store.sink.record? request.owner request.key with
  | some path =>
      rw [Sink.defer_known proper recorded]
      exact .known recorded
  | none =>
      have plain := store.sink.requestClaim_plain request
      cases request with
      | drawing markup directory namePrefix =>
          rw [Sink.defer_fresh_drawing proper recorded]
          exact .made_unasked recorded rfl rfl plain
      | image address directory namePrefix =>
          rw [Sink.defer_fresh_image proper recorded]
          exact .made_unasked recorded rfl rfl plain

private theorem answered_now (fetch : Fetcher) (store : Store) {request : Request}
    (proper : request.fault? = none) :
    Answered (some fetch) store request (store.answer (some fetch) request).1
      (store.answer (some fetch) request).2 := by
  cases recorded : store.sink.record? request.owner request.key with
  | some path =>
      rw [answer_of_answered (Sink.accept_known proper recorded)]
      exact .known recorded
  | none =>
      have accepted := Sink.accept_fresh proper recorded
      cases request with
      | drawing markup directory namePrefix =>
          have plain := (Request.drawing markup directory namePrefix).extension_plain
          rw [answer_of_answered accepted]
          exact .made_unasked recorded rfl rfl plain
      | image address directory namePrefix =>
          simp only [Request.freshPlan, Plan.ofImage] at accepted
          cases told : Url.fileExtension? (Url.canonical (Text.trim address)) with
          | some extension =>
              rw [told] at accepted
              cases outcome : (fetch (Text.trim address)).outcome with
              | ok image =>
                  rw [answer_of_fetching accepted outcome (Sink.land_reserved _ image rfl)]
                  exact .made_asked recorded rfl rfl (.ofAddress told) rfl
                    (congrArg some outcome)
              | error fault =>
                  rw [answer_of_fetching accepted outcome (Sink.land_failed_reserved _ fault rfl)]
                  exact .failed recorded rfl (congrArg some outcome)
          | none =>
              rw [told] at accepted
              cases outcome : (fetch (Text.trim address)).outcome with
              | ok image =>
                  have plain := PlainExtension.ofType image.mediaType
                  rw [answer_of_fetching accepted outcome (Sink.land_fresh _ image rfl recorded)]
                  exact .made_asked recorded rfl rfl plain rfl (congrArg some outcome)
              | error fault =>
                  rw [answer_of_fetching accepted outcome (Sink.land_failed_bare _ fault rfl)]
                  exact .failed recorded rfl (congrArg some outcome)

/-- A store does one of these things with a request that can be served. -/
theorem answer_answered (fetcher : Option Fetcher) (store : Store) {request : Request}
    (proper : request.fault? = none) :
    Answered fetcher store request (store.answer fetcher request).1
      (store.answer fetcher request).2 := by
  cases fetcher with
  | none => exact answered_later store proper
  | some fetch => exact answered_now fetch store proper

/-- Without a fetcher every request that can be served is answered with a path. -/
theorem answerAll_none (store : Store) {requests : List Request}
    (proper : ∀ request ∈ requests, request.fault? = none) :
    ∃ paths, (store.answerAll none requests).2 = .ok paths := by
  induction requests generalizing store with
  | nil => exact ⟨[], rfl⟩
  | cons request rest ih =>
      obtain ⟨first, others⟩ := List.forall_mem_cons.mp proper
      have served := answer_answered none store first
      rw [answerAll]
      generalize store.answer none request = answered at served ⊢
      obtain ⟨after, result⟩ := answered
      cases served with
      | failed fresh key fails => cases fails
      | known recorded =>
          obtain ⟨paths, answers⟩ := ih _ others
          exact ⟨_, congrArg (Except.map _) answers⟩
      | made fresh owner key plain brought =>
          obtain ⟨paths, answers⟩ := ih _ others
          exact ⟨_, congrArg (Except.map _) answers⟩

/-- How requests end that are answered one after another, with fetches for some addresses: with
answers if every fetch brings an image, else with the fault that the last fetch gives. -/
inductive EndsWith (fetch : Fetcher) : List Text → Except Fault α → Prop where
  | answers {asked : List Text} {a : α} (brings : fetch.BringsAll asked) :
      EndsWith fetch asked (.ok a)
  | fault {asked : List Text} {address : Text} {fault : Fault}
      (brings : fetch.BringsAll asked) (fails : (fetch address).outcome = .error fault) :
      EndsWith fetch (asked ++ [address]) (.error fault)

private theorem EndsWith.after {fetch : Fetcher} {first asked : List Text} {result : Except Fault α}
    (ends : EndsWith fetch asked result) (brings : fetch.BringsAll first) (f : α → β) :
    EndsWith fetch (first ++ asked) (result.map f) := by
  cases ends with
  | answers later => exact .answers (List.forall_mem_append.mpr ⟨brings, later⟩)
  | fault later fails =>
      rw [← List.append_assoc]
      exact .fault (List.forall_mem_append.mpr ⟨brings, later⟩) fails

/-- The fetches made for an owner's requests that are answered one after another. -/
structure Asks (fetch : Fetcher) (owner : Owner) (store after : Store) (asked : List Text)
    (result : Except Fault (List Text)) : Prop where
  fetched : after.fetched = store.fetched ++ asked
  /-- No image is fetched that was on record. -/
  fresh : ∀ address ∈ asked,
    store.sink.record? owner (.image (Url.canonical address)) = none
  once : (asked.map Url.canonical).Nodup
  ends : EndsWith fetch asked result

/-- The fetches for requests that follow a new name. -/
theorem Asks.after_made {fetch : Fetcher} {owner : Owner} {store after : Store} {c : Claim}
    {payload : Payload} {mediaType : Text} {kind : Kind} {first : Option Text} {asked : List Text}
    {result : Except Fault (List Text)} (owned : c.owner = owner)
    (fresh : store.sink.record? owner c.key = none)
    (brought : ∀ address ∈ first, c.key = .image (Url.canonical address) ∧
      ∃ image, Fetcher.outcome? (some fetch) address = some (.ok image))
    (later : Asks fetch owner
      ⟨store.sink.enter c payload mediaType kind, store.fetched ++ first.toList⟩ after asked result)
    (f : List Text → List Text) :
    Asks fetch owner store after (first.toList ++ asked) (result.map f) := by
  have entered : ∀ address ∈ asked, c.key ≠ .image (Url.canonical address) ∧
      store.sink.record? owner (.image (Url.canonical address)) = none := by
    intro address member
    have unknown := later.fresh address member
    rw [Sink.record?_enter] at unknown
    split at unknown
    · cases unknown
    · next apart => exact ⟨fun same => apart ⟨owned.symm, same.symm⟩, unknown⟩
  have brings : fetch.BringsAll first.toList := by
    intro address member
    obtain ⟨image, gives⟩ := (brought address (Option.mem_toList.mp member)).2
    exact ⟨image, Option.some.inj gives⟩
  refine ⟨?_, ?_, ?_, later.ends.after brings f⟩
  · rw [later.fetched, List.append_assoc]
  · refine List.forall_mem_append.mpr ⟨fun address member => ?_, fun address member => ?_⟩
    · rw [← (brought address (Option.mem_toList.mp member)).1]
      exact fresh
    · exact (entered address member).2
  · cases first with
    | none => exact later.once
    | some address =>
        refine List.nodup_cons.mpr ⟨fun again => ?_, later.once⟩
        obtain ⟨other, member, same⟩ := List.mem_map.mp again
        have key := (brought address rfl).1
        rw [← same] at key
        exact (entered other member).1 key

/-- Requests of one owner that can be served end as their fetches do, and no image is fetched that
is on record or was fetched for an earlier one. -/
theorem answerAll_asks (fetch : Fetcher) (store : Store) {owner : Owner} {requests : List Request}
    (proper : Request.Proper owner requests) :
    ∃ asked, Asks fetch owner store (store.answerAll (some fetch) requests).1 asked
      (store.answerAll (some fetch) requests).2 := by
  -- A record stays, so what an earlier request had fetched no later one asks for.
  induction requests generalizing store with
  | nil => exact ⟨[], (List.append_nil _).symm, nofun, List.nodup_nil, .answers nofun⟩
  | cons request rest ih =>
      obtain ⟨⟨owned, first⟩, others⟩ := List.forall_mem_cons.mp proper
      subst owned
      have served := answer_answered (some fetch) store first
      rw [answerAll]
      generalize store.answer (some fetch) request = answered at served ⊢
      obtain ⟨after, result⟩ := answered
      cases served with
      | known recorded =>
          obtain ⟨asked, later⟩ := ih _ others
          have nothing : fetch.BringsAll [] := nofun
          exact ⟨asked, later.fetched, later.fresh, later.once, later.ends.after nothing _⟩
      | made fresh owner key plain brought =>
          obtain ⟨asked, later⟩ := ih _ others
          rw [← key] at fresh brought
          exact ⟨_, later.after_made owner fresh brought _⟩
      | @failed address fault sink fresh key fails =>
          refine ⟨[address], rfl, ?_, List.nodup_singleton _, ?_⟩
          · rw [List.forall_mem_singleton, ← key]
            exact fresh
          · have nothing : fetch.BringsAll [] := nofun
            exact .fault nothing (Option.some.inj fails)

end Store
end ArticleMarkdown.Asset
