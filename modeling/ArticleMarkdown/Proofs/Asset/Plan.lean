import ArticleMarkdown.Proofs.Asset.Record

/-!
# What serving a request depends on

What a sink does with a request depends only on what the request's owner has named so far. The
decision is a plan; carrying a plan out is the same for every sink. Serving a request, now or
later, is carrying out its plan (`Sink.accept_eq_carryOut`, `Sink.defer_eq_carryOut`), and the
completion of a flight is one of five changes.
-/

namespace ArticleMarkdown.Asset

namespace Request

/-- Whose file a request asks for. -/
def owner : Request → Owner
  | .image _ directory namePrefix => Owner.of namePrefix directory
  | .drawing _ directory namePrefix => Owner.of namePrefix directory

/-- What the answer to a request is remembered for. -/
def key : Request → Key
  | .image address _ _ => .image (Url.canonical (Text.trim address))
  | .drawing markup _ _ => .drawing (Digest.ofBytes (Text.utf8 (Text.trim markup)))

/-- The extension that a request tells for its file. -/
def extension : Request → Text
  | .image address _ _ =>
    (Url.fileExtension? (Url.canonical (Text.trim address))).getD defaultExtension
  | .drawing _ _ _ => "svg".toList

/-- What keeps a request from being served, if anything does. -/
def fault? : Request → Option Fault
  | .image address _ _ =>
    if (Text.trim address).isEmpty then some .emptyAddress
    else if Sink.isSelfContained (Text.trim address) then some .selfContainedAddress
    else none
  | .drawing markup _ _ =>
    if Text.startsWith "<svg".toList (Text.lower (Text.trim markup)) then none
    else some .notDrawing

/-- Only a breach of contract keeps a request from being served. -/
theorem isContractBreach_of_fault? {request : Request} {fault : Fault}
    (refused : request.fault? = some fault) : fault.isContractBreach = true := by
  cases request with
  | image address directory namePrefix =>
      simp only [fault?] at refused
      split at refused
      · cases refused
        rfl
      · split at refused
        · cases refused
          rfl
        · cases refused
  | drawing markup directory namePrefix =>
      simp only [fault?] at refused
      split at refused
      · cases refused
      · cases refused
        rfl

end Request

/-- What is to be done with a request. A file is named before its fetch only if the address tells
its type. -/
inductive Plan where
  | refuse (fault : Fault)
  | reuse (path : Text)
  | fetch (address canonical : Text) (owner : Owner)
  | reserve (address canonical : Text) (claim : Claim)
  | make (claim : Claim) (payload : Payload) (mediaType : Text) (kind : Kind)

/-- The plan for an image that has no name yet. `fetches` tells that images are fetched now. -/
def Plan.ofImage (fetches : Bool) (address canonical : Text) (owner : Owner)
    (claim : Text → Claim) : Plan :=
  match fetches, Url.fileExtension? canonical with
  | true, none => .fetch address canonical owner
  | true, some extension => .reserve address canonical (claim extension)
  | false, extension? =>
    let extension := extension?.getD defaultExtension
    .make (claim extension) (.pending address) (Media.typeOfExtension extension).toList .image

/-- The plan for a request that needs a new name, with the claim to that name. -/
def Request.freshPlan (fetches : Bool) (request : Request) (claim : Text → Claim) : Plan :=
  match request with
  | .image address directory namePrefix =>
    .ofImage fetches (Text.trim address) (Url.canonical (Text.trim address))
      (Owner.of namePrefix directory) claim
  | .drawing markup _ _ =>
    .make (claim "svg".toList) (.text (Text.trim markup)) "image/svg+xml".toList .drawing

/-- The plan for a request whose owner has named what a scope tells. -/
def Scope.plan (fetches : Bool) (s : Scope) (request : Request) : Plan :=
  match request.fault?, s.record? request.key with
  | some fault, _ => .refuse fault
  | none, some path => .reuse path
  | none, none => request.freshPlan fetches (s.nextClaim request.owner request.key)

/-- What a plan for a request says about the scope it was made for: names are given out only for
keys that have none, and with the next number. -/
inductive Plan.For (s : Scope) (request : Request) : Plan → Prop where
  | refuse {fault : Fault} (refused : request.fault? = some fault) :
      For s request (.refuse fault)
  | reuse {path : Text} (known : s.record? request.key = some path) :
      For s request (.reuse path)
  | fetch {address canonical : Text} (fresh : s.record? request.key = none)
      (key : request.key = .image canonical) :
      For s request (.fetch address canonical request.owner)
  | reserve {address canonical : Text} (fresh : s.record? request.key = none)
      (key : request.key = .image canonical) :
      For s request
        (.reserve address canonical (s.nextClaim request.owner request.key request.extension))
  | make {mediaType : Text} {payload : Payload} {kind : Kind}
      (fresh : s.record? request.key = none) :
      For s request
        (.make (s.nextClaim request.owner request.key request.extension) payload mediaType kind)

section Cases

variable {s : Scope} {request : Request} (fetches : Bool)

/-- A request that cannot be served is refused. -/
theorem Scope.plan_of_fault {fault : Fault} (refused : request.fault? = some fault) :
    s.plan fetches request = .refuse fault := by
  simp only [plan, refused]

/-- A request that is on record reuses its path. -/
theorem Scope.plan_of_record {path : Text} (proper : request.fault? = none)
    (remembered : s.record? request.key = some path) : s.plan fetches request = .reuse path := by
  simp only [plan, proper, remembered]

/-- A request that is not on record needs a new name. -/
theorem Scope.plan_of_fresh (proper : request.fault? = none)
    (fresh : s.record? request.key = none) :
    s.plan fetches request =
      request.freshPlan fetches (s.nextClaim request.owner request.key) := by
  simp only [plan, proper, fresh]

variable (s request) in
/-- The plan for a request is one for its scope. -/
theorem Scope.plan_for : Plan.For s request (s.plan fetches request) := by
  cases refused : request.fault? with
  | some fault =>
      rw [plan_of_fault fetches refused]
      exact .refuse refused
  | none =>
      cases known : s.record? request.key with
      | some path =>
          rw [plan_of_record fetches refused known]
          exact .reuse known
      | none =>
          rw [plan_of_fresh fetches refused known]
          cases request with
          | drawing markup directory namePrefix => exact .make known
          | image address directory namePrefix =>
              simp only [Request.freshPlan, Plan.ofImage]
              cases fetches with
              | false => exact .make known
              | true =>
                  cases told : Url.fileExtension? (Url.canonical (Text.trim address)) with
                  | none => exact .fetch known rfl
                  | some extension =>
                      have same : (Request.image address directory namePrefix).extension =
                          extension := by
                        simp only [Request.extension, told, Option.getD_some]
                      rw [← same]
                      exact .reserve known rfl

end Cases

namespace Sink

/-- What a plan makes of a sink, and the answer or flight that comes of it. -/
def carryOut (sink : Sink) : Plan → Sink × Progress
  | .refuse fault => (sink, .answered (.error fault))
  | .reuse path => (sink, .answered (.ok path))
  | .fetch address canonical owner => (sink, .fetching ⟨address, canonical, owner, none⟩)
  | .reserve address canonical claim =>
    (sink.grant claim,
      .fetching ⟨address, canonical, claim.owner, some (claim.path, sink.nextOrder)⟩)
  | .make claim payload mediaType kind =>
    ((sink.grant claim).push ⟨claim.path, payload, mediaType, sink.nextOrder, kind⟩,
      .answered (.ok claim.path))

/-- An inquiry looks for a breach of contract first, and for a record then. -/
theorem inquire_eq (sink : Sink) (address directory namePrefix : Text) :
    sink.inquire address directory namePrefix =
      match (Request.image address directory namePrefix).fault?,
        sink.record? (Owner.of namePrefix directory)
          (.image (Url.canonical (Text.trim address))) with
      | some fault, _ => .answered (.error fault)
      | none, some path => .answered (.ok path)
      | none, none => .wanted (Text.trim address) (Url.canonical (Text.trim address))
          (Owner.of namePrefix directory) := by
  simp only [inquire, Request.fault?, record?, Scope.record?]
  split
  · rfl
  · split
    · rfl
    · split <;> simp_all

private theorem answerDrawing_eq_carryOut (fetches : Bool) (sink : Sink)
    (markup directory namePrefix : Text) :
    ((sink.answerDrawing markup directory namePrefix).1,
        Progress.answered (sink.answerDrawing markup directory namePrefix).2) =
      sink.carryOut ((sink.scope (Owner.of namePrefix directory)).plan fetches
        (.drawing markup directory namePrefix)) := by
  by_cases drawn : Text.startsWith "<svg".toList (Text.lower (Text.trim markup)) = true
  · have proper : (Request.drawing markup directory namePrefix).fault? = none := if_pos drawn
    simp only [answerDrawing, drawn, Bool.not_true, Bool.false_eq_true, if_false]
    cases known : (sink.scope (Owner.of namePrefix directory)).record?
        (Request.drawing markup directory namePrefix).key with
    | some path =>
        rw [Scope.plan_of_record fetches proper known]
        simp only [Request.key, Scope.record?] at known
        simp only [known, carryOut]
    | none =>
        have granted := setScope_reserve sink (Owner.of namePrefix directory)
          (Request.drawing markup directory namePrefix).key "svg".toList
        have planned := Scope.plan_of_fresh fetches proper known
        simp only [Request.key, Scope.record?] at known
        simp only [Request.key, Scope.remember] at granted
        simp only [known, granted]
        simp only [reserve_path _ _ (Request.drawing markup directory namePrefix).key, planned,
          Request.freshPlan, Request.owner, Request.key, carryOut]
  · have refused : (Request.drawing markup directory namePrefix).fault? = some .notDrawing :=
      if_neg drawn
    rw [Scope.plan_of_fault fetches refused]
    simp only [answerDrawing, drawn, Bool.not_false, if_true, carryOut]

/-- Accepting a request is carrying out its plan. -/
theorem accept_eq_carryOut (sink : Sink) (request : Request) :
    sink.accept request = sink.carryOut ((sink.scope request.owner).plan true request) := by
  cases request with
  | image address directory namePrefix =>
      simp only [accept, acceptImage, inquire_eq, Scope.plan, Request.owner, Request.key, record?]
      cases (Request.image address directory namePrefix).fault? with
      | some fault => simp only [carryOut]
      | none =>
          cases (sink.scope (Owner.of namePrefix directory)).record?
              (.image (Url.canonical (Text.trim address))) with
          | some path => simp only [carryOut]
          | none =>
              simp only [Request.freshPlan, Plan.ofImage, reserveImage_eq_grant]
              cases Url.fileExtension? (Url.canonical (Text.trim address)) with
              | none => simp only [carryOut]
              | some extension => simp only [carryOut, Scope.nextClaim]
  | drawing markup directory namePrefix =>
      exact answerDrawing_eq_carryOut true sink markup directory namePrefix

/-- Answering a request without fetching is carrying out its plan. -/
theorem defer_eq_carryOut (sink : Sink) (request : Request) :
    ((sink.defer request).1, Progress.answered (sink.defer request).2) =
      sink.carryOut ((sink.scope request.owner).plan false request) := by
  cases request with
  | image address directory namePrefix =>
      simp only [defer, deferImage, inquire_eq, Scope.plan, Request.owner, Request.key, record?]
      cases (Request.image address directory namePrefix).fault? with
      | some fault => simp only [carryOut]
      | none =>
          cases (sink.scope (Owner.of namePrefix directory)).record?
              (.image (Url.canonical (Text.trim address))) with
          | some path => simp only [carryOut]
          | none =>
              simp only [Request.freshPlan, Plan.ofImage, reserveImage_eq_grant, carryOut]
  | drawing markup directory namePrefix =>
      exact answerDrawing_eq_carryOut false sink markup directory namePrefix

section Landing

attribute [local simp] land

variable (sink : Sink) {flight : Flight}

/-- The claim of a flight that brings an image without a name. -/
def landingClaim (sink : Sink) (flight : Flight) (image : FetchedImage) : Claim :=
  (sink.scope flight.owner).nextClaim flight.owner (.image flight.canonical)
    (((Media.extensionOfType? image.mediaType).map String.toList).getD defaultExtension)

/-- A flight that holds a name brings the entry for it. -/
theorem land_reserved (image : FetchedImage) {path : Text} {order : Nat}
    (reserved : flight.reserved = some (path, order)) :
    sink.land flight (.ok image) = (sink.push (fetchedEntry path order image), .ok path) := by
  simp [reserved]

/-- A flight without a name is answered by a record that has come up since. -/
theorem land_known (image : FetchedImage) (bare : flight.reserved = none) {path : Text}
    (known : sink.record? flight.owner (.image flight.canonical) = some path) :
    sink.land flight (.ok image) = (sink, .ok path) := by
  simp only [record?, Scope.record?] at known
  simp [bare, known]

/-- A flight without a name takes one when it lands. -/
theorem land_fresh (image : FetchedImage) (bare : flight.reserved = none)
    (fresh : sink.record? flight.owner (.image flight.canonical) = none) :
    sink.land flight (.ok image) =
      ((sink.grant (sink.landingClaim flight image)).push
          (fetchedEntry (sink.landingClaim flight image).path sink.nextOrder image),
        .ok (sink.landingClaim flight image).path) := by
  simp only [record?, Scope.record?] at fresh
  simp [bare, fresh, reserveImage_eq_grant, landingClaim]

/-- A flight that fails gives up the record of the name that it holds. -/
theorem land_failed_reserved (fault : Fault) {path : Text} {order : Nat}
    (reserved : flight.reserved = some (path, order)) :
    sink.land flight (.error fault) =
      (sink.forget flight.owner flight.canonical, .error fault) := by
  simp [reserved, forget]

/-- A flight without a name that fails changes nothing. -/
theorem land_failed_bare (fault : Fault) (bare : flight.reserved = none) :
    sink.land flight (.error fault) = (sink, .error fault) := by
  simp [bare]

end Landing

end Sink
end ArticleMarkdown.Asset
