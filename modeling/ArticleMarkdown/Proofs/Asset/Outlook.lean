import ArticleMarkdown.Proofs.Asset.Turns

/-!
# What becomes of an owner's requests

When every fetch succeeds, the answers to an owner's requests and the contents of the entries they
make depend on the owner's scope alone. The outlook of a task is what it will have answered and
what it will still make when it ends; a turn of the task only moves contents from its outlook to
the entries, and a turn of another owner's task leaves it as it is.
-/

namespace ArticleMarkdown.Asset

/-- What an entry holds, apart from its place in the order of creation. -/
structure Content where
  path : Text
  payload : Payload
  mediaType : Text
  kind : Kind
  deriving DecidableEq, Repr

/-- What an entry is without its place in the order of creation. -/
def Entry.content (entry : Entry) : Content :=
  ⟨entry.path, entry.payload, entry.mediaType, entry.kind⟩

/-- The contents of the entries of a sink. -/
def Sink.contents (sink : Sink) : List Content :=
  sink.entries.map Entry.content

/-- Answers, and contents still to be made. -/
structure Outlook where
  paths : List Text := []
  contents : List Content := []

/-- A fetcher brings given images, sooner or later. -/
def Fetcher.Brings (fetch : Fetcher) (image : Text → FetchedImage) : Prop :=
  ∀ address, (fetch address).outcome = .ok (image address)

section Served

variable (image : Text → FetchedImage)

namespace Scope

/-- What the landing of a flight makes of its owner's scope, its answer, and what it makes. -/
def landed (s : Scope) (flight : Flight) : Scope × Text × List Content :=
  match flight.reserved, s.record? (.image flight.canonical) with
  | some (path, _), _ =>
    (s, path, [(Sink.fetchedEntry path 0 (image flight.address)).content])
  | none, some path => (s, path, [])
  | none, none =>
    let extension := (Media.extensionOfType? (image flight.address).mediaType).map String.toList
    let c := s.nextClaim flight.owner (.image flight.canonical) (extension.getD defaultExtension)
    (s.take c, c.path, [(Sink.fetchedEntry c.path 0 (image flight.address)).content])

/-- What a request makes of its owner's scope in the end, its answer, and what it makes. -/
def served (s : Scope) (request : Request) : Scope × Text × List Content :=
  match s.plan true request with
  | .refuse _ => (s, [], [])
  | .reuse path => (s, path, [])
  | .fetch address canonical owner => s.landed image ⟨address, canonical, owner, none⟩
  | .reserve address canonical c =>
    (s.take c).landed image ⟨address, canonical, c.owner, some (c.path, 0)⟩
  | .make c payload mediaType kind => (s.take c, c.path, [⟨c.path, payload, mediaType, kind⟩])

/-- What becomes of requests one after another. -/
def servedAll : Scope → List Request → Outlook
  | _, [] => {}
  | s, request :: rest =>
    let (after, path, contents) := s.served image request
    let later := servedAll after rest
    ⟨path :: later.paths, contents ++ later.contents⟩

end Scope

/-- The outlook of a task whose owner has a given scope. -/
def Task.outlook (s : Scope) : Task → Outlook
  | .ready todo => s.servedAll image todo
  | .waiting flight _ _ paths todo =>
    let (after, path, contents) := s.landed image flight
    let later := after.servedAll image todo
    ⟨paths ++ path :: later.paths, contents ++ later.contents⟩
  | .finished paths => { paths }
  | .failed _ => {}

end Served

/-- Requests of one owner that can be served. -/
def Request.Proper (owner : Owner) (requests : List Request) : Prop :=
  ∀ request ∈ requests, request.owner = owner ∧ request.fault? = none

/-- A task that has made and will make requests of one owner only, all of which can be served. -/
def Task.Belongs (image : Text → FetchedImage) (owner : Owner) : Task → Prop
  | .ready todo => Request.Proper owner todo
  | .waiting flight outcome _ _ todo =>
    flight.owner = owner ∧ outcome = .ok (image flight.address) ∧ Request.Proper owner todo
  | .finished _ => True
  | .failed _ => False

namespace Sink

variable {image : Text → FetchedImage} (sink : Sink) {owner : Owner}

@[simp] private theorem contents_push (entry : Entry) :
    (sink.push entry).contents = sink.contents ++ [entry.content] := by
  simp [contents]

/-- Granting a name makes no entry. -/
@[simp] theorem contents_grant (c : Claim) :
    (sink.grant c).contents = sink.contents := rfl

private theorem scope_grant_self {c : Claim} (owned : c.owner = owner) :
    (sink.grant c).scope owner = (sink.scope owner).take c := by
  rw [scope_grant, if_pos owned.symm]

private theorem scope_grant_other {c : Claim} {other : Owner} (different : other ≠ c.owner) :
    (sink.grant c).scope other = sink.scope other := by
  rw [scope_grant, if_neg different]

/-- How serving a request, or landing a flight, shows in a sink: only the owner's scope changes,
and the answer and the new contents are those foreseen. -/
structure Serves (sink : Sink) (owner : Owner) (foreseen : Scope × Text × List Content)
    (after : Sink) (path : Text) : Prop where
  others : ∀ other, other ≠ owner → after.scope other = sink.scope other
  scope : after.scope owner = foreseen.1
  path : path = foreseen.2.1
  contents : after.contents = sink.contents ++ foreseen.2.2

private theorem Serves.of_begun {before between after : Sink}
    {foreseen : Scope × Text × List Content}
    {path : Text} (others : ∀ other, other ≠ owner → between.scope other = before.scope other)
    (contents : between.contents = before.contents)
    (served : between.Serves owner foreseen after path) :
    before.Serves owner foreseen after path where
  others other different := (served.others other different).trans (others other different)
  scope := served.scope
  path := served.path
  contents := by rw [served.contents, contents]

/-- A flight that succeeds does what was foreseen. -/
theorem land_serves {flight : Flight} (belongs : flight.owner = owner) :
    ∃ path, (sink.land flight (.ok (image flight.address))).2 = .ok path ∧
      Serves sink owner ((sink.scope owner).landed image flight)
        (sink.land flight (.ok (image flight.address))).1 path := by
  subst belongs
  cases reserved : flight.reserved with
  | some place =>
      obtain ⟨path, order⟩ := place
      rw [land_reserved _ _ reserved]
      refine ⟨path, rfl, fun other _ => rfl, ?_, ?_, ?_⟩
      · simp only [scope_push, Scope.landed, reserved]
      · simp only [Scope.landed, reserved]
      · simp only [contents_push, Scope.landed, reserved]
        rfl
  | none =>
      cases known : sink.record? flight.owner (.image flight.canonical) with
      | some path =>
          rw [land_known _ _ reserved known]
          rw [record?] at known
          refine ⟨path, rfl, fun other _ => rfl, ?_, ?_, ?_⟩
          · simp only [Scope.landed, reserved, known]
          · simp only [Scope.landed, reserved, known]
          · simp only [Scope.landed, reserved, known, List.append_nil]
      | none =>
          rw [land_fresh _ _ reserved known]
          rw [record?] at known
          refine ⟨_, rfl, fun other different => ?_, ?_, ?_, ?_⟩
          · exact scope_grant_other sink different
          · simp only [scope_push, Scope.landed, reserved, known]
            exact scope_grant_self sink rfl
          · simp only [Scope.landed, reserved, known, landingClaim]
          · simp only [contents_push, contents_grant, Scope.landed, reserved, known, landingClaim]
            rfl

/-- A request that is accepted is served as foreseen, or will be when its flight lands. -/
theorem accept_serves (image : Text → FetchedImage) {request : Request}
    (belongs : request.owner = owner)
    (proper : request.fault? = none) :
    match sink.accept request with
    | (after, .answered result) => ∃ path, result = .ok path ∧
        Serves sink owner ((sink.scope owner).served image request) after path
    | (after, .fetching flight) => flight.owner = owner ∧
        (∀ other, other ≠ owner → after.scope other = sink.scope other) ∧
        after.contents = sink.contents ∧
        (sink.scope owner).served image request = (after.scope owner).landed image flight := by
  subst belongs
  rw [accept_eq_carryOut]
  have planned := Scope.plan_for (sink.scope request.owner) request true
  cases plan : (sink.scope request.owner).plan true request with
  | refuse fault =>
      rw [plan] at planned
      cases planned with
      | refuse refused =>
          rw [proper] at refused
          cases refused
  | reuse path =>
      have foreseen : (sink.scope request.owner).served image request =
          (sink.scope request.owner, path, []) := by
        simp only [Scope.served, plan]
      rw [foreseen]
      exact ⟨path, rfl, fun other _ => rfl, rfl, rfl, (List.append_nil _).symm⟩
  | fetch address canonical owner =>
      rw [plan] at planned
      have foreseen : (sink.scope request.owner).served image request =
          (sink.scope request.owner).landed image ⟨address, canonical, owner, none⟩ := by
        simp only [Scope.served, plan]
      cases planned with
      | fetch fresh key => exact ⟨rfl, fun other _ => rfl, rfl, foreseen⟩
  | reserve address canonical c =>
      rw [plan] at planned
      have foreseen : (sink.scope request.owner).served image request =
          ((sink.scope request.owner).take c).landed image
            ⟨address, canonical, c.owner, some (c.path, 0)⟩ := by
        simp only [Scope.served, plan]
      cases planned with
      | reserve fresh key =>
          refine ⟨rfl, fun other different => scope_grant_other sink different, rfl, ?_⟩
          rw [foreseen]
          exact congrArg (Scope.landed image · _) (scope_grant_self sink rfl).symm
  | make c payload mediaType kind =>
      rw [plan] at planned
      have foreseen : (sink.scope request.owner).served image request =
          ((sink.scope request.owner).take c, c.path, [⟨c.path, payload, mediaType, kind⟩]) := by
        simp only [Scope.served, plan]
      rw [foreseen]
      cases planned with
      | make fresh =>
          exact ⟨_, rfl, fun other different => scope_grant_other sink different,
            scope_grant_self sink rfl, rfl, contents_push _ _⟩

end Sink

section Tasks

variable {image : Text → FetchedImage} {fetch : Fetcher} {owner : Owner}

/-- A store that fetches begins a request as foreseen. -/
theorem Store.start_serves (brings : fetch.Brings image) (store : Store) {request : Request}
    (belongs : request.owner = owner) (proper : request.fault? = none) :
    match store.start (some fetch) request with
    | (after, .answered result) => ∃ path, result = .ok path ∧
        Sink.Serves store.sink owner ((store.sink.scope owner).served image request) after.sink path
    | (after, .awaiting flight reply) => flight.owner = owner ∧
        reply.outcome = .ok (image flight.address) ∧
        (∀ other, other ≠ owner → after.sink.scope other = store.sink.scope other) ∧
        after.sink.contents = store.sink.contents ∧
        (store.sink.scope owner).served image request =
          (after.sink.scope owner).landed image flight := by
  have served := store.sink.accept_serves image belongs proper
  simp only [start]
  cases accepted : store.sink.accept request with
  | mk after progress =>
      rw [accepted] at served
      cases progress with
      | answered result => exact served
      | fetching flight =>
          obtain ⟨owned, others, contents, foreseen⟩ := served
          exact ⟨owned, brings flight.address, others, contents, foreseen⟩

private theorem Store.land_serves (store : Store) {flight : Flight}
    (belongs : flight.owner = owner) :
    ∃ after path, store.land flight (.ok (image flight.address)) = (after, .ok path) ∧
      Sink.Serves store.sink owner ((store.sink.scope owner).landed image flight)
        after.sink path := by
  obtain ⟨path, isAnswer, served⟩ := store.sink.land_serves belongs
  exact ⟨_, path, Prod.ext rfl isAnswer, served⟩

/-- How a task of an owner has advanced from a sink, where it had an outlook. -/
structure Advance (image : Text → FetchedImage) (owner : Owner) (before : Sink)
    (foreseen : Outlook) (after : Sink) (task : Task) : Prop where
  belongs : task.Belongs image owner
  others : ∀ other, other ≠ owner → after.scope other = before.scope other
  paths : (task.outlook image (after.scope owner)).paths = foreseen.paths
  contents : after.contents ++ (task.outlook image (after.scope owner)).contents =
    before.contents ++ foreseen.contents

/-- What a task does after its request is served continues what was foreseen. -/
theorem Advance.after_served {before between after : Sink} {task : Task} {path : Text}
    {paths : List Text} {todo : List Request} {foreseen : Scope × Text × List Content}
    (served : before.Serves owner foreseen between path)
    (later : Advance image owner between
      ⟨paths ++ [path] ++ ((between.scope owner).servedAll image todo).paths,
        ((between.scope owner).servedAll image todo).contents⟩ after task) :
    Advance image owner before
      ⟨paths ++ foreseen.2.1 :: (foreseen.1.servedAll image todo).paths,
        foreseen.2.2 ++ (foreseen.1.servedAll image todo).contents⟩ after task where
  belongs := later.belongs
  others other different := (later.others other different).trans (served.others other different)
  paths := by
    rw [later.paths, served.scope, served.path, List.append_assoc]
    rfl
  contents := by
    rw [later.contents, served.scope, served.contents, List.append_assoc]

private theorem Task.run_advances (brings : fetch.Brings image) (store : Store) (paths : List Text)
    {todo : List Request} (proper : Request.Proper owner todo) :
    Advance image owner store.sink
      ⟨paths ++ ((store.sink.scope owner).servedAll image todo).paths,
        ((store.sink.scope owner).servedAll image todo).contents⟩
      (Task.run (some fetch) store paths todo).1.sink
      (Task.run (some fetch) store paths todo).2 := by
  -- The store generalizes: each request is foreseen from the scope that the one before leaves.
  induction todo generalizing store paths with
  | nil => exact ⟨trivial, fun other _ => rfl, by simp [run, outlook, Scope.servedAll], rfl⟩
  | cons request todo ih =>
      obtain ⟨⟨belongs, faultless⟩, rest⟩ := List.forall_mem_cons.mp proper
      have served := store.start_serves brings belongs faultless
      simp only [run, Scope.servedAll]
      split
      · next begun =>
        rw [begun] at served
        obtain ⟨path, isAnswer, served⟩ := served
        cases isAnswer
        exact .after_served served (ih _ _ rest)
      · next begun =>
        rw [begun] at served
        obtain ⟨path, isAnswer, -⟩ := served
        cases isAnswer
      · next begun =>
        rw [begun] at served
        obtain ⟨owned, rfl, others, contents, foreseen⟩ := served
        obtain ⟨after, path, landed, served⟩ := Store.land_serves _ owned
        rw [landed, foreseen]
        exact .after_served (served.of_begun others contents) (ih _ _ rest)
      · next begun =>
        rw [begun] at served
        obtain ⟨owned, rfl, others, contents, foreseen⟩ := served
        rw [foreseen]
        exact ⟨⟨owned, rfl, rest⟩, others, rfl, by rw [contents]; rfl⟩

/-- A turn of a task moves contents from its outlook to the entries, and touches no other owner. -/
theorem Task.resume_advances (brings : fetch.Brings image) (store : Store) {task : Task}
    (belongs : task.Belongs image owner) :
    Advance image owner store.sink (task.outlook image (store.sink.scope owner))
      (task.resume (some fetch) store).1.sink (task.resume (some fetch) store).2 := by
  cases task with
  | ready todo => exact run_advances brings store [] belongs
  | finished paths => exact ⟨trivial, fun other _ => rfl, rfl, rfl⟩
  | failed fault => exact belongs.elim
  | waiting flight outcome turns paths todo =>
      cases turns with
      | succ turns => exact ⟨belongs, fun other _ => rfl, rfl, rfl⟩
      | zero =>
          obtain ⟨owned, rfl, proper⟩ := belongs
          obtain ⟨after, path, landed, served⟩ := store.land_serves owned
          simp only [resume]
          rw [landed]
          exact .after_served served (run_advances brings after _ proper)

/-- Requests that are answered one after another have the answers and make the contents foreseen. -/
theorem Store.answerAll_serves (brings : fetch.Brings image) (store : Store)
    {todo : List Request} (proper : Request.Proper owner todo) :
    ∃ after, store.answerAll (some fetch) todo =
        (after, .ok ((store.sink.scope owner).servedAll image todo).paths) ∧
      after.sink.contents =
        store.sink.contents ++ ((store.sink.scope owner).servedAll image todo).contents := by
  induction todo generalizing store with
  | nil => exact ⟨store, rfl, (List.append_nil _).symm⟩
  | cons request todo ih =>
      obtain ⟨⟨belongs, faultless⟩, rest⟩ := List.forall_mem_cons.mp proper
      have answered : ∃ between path, store.answer (some fetch) request = (between, .ok path) ∧
          Sink.Serves store.sink owner ((store.sink.scope owner).served image request)
            between.sink path := by
        have served := store.start_serves brings belongs faultless
        simp only [answer]
        split
        · next begun =>
          rw [begun] at served
          obtain ⟨path, rfl, served⟩ := served
          exact ⟨_, path, rfl, served⟩
        · next begun =>
          rw [begun] at served
          obtain ⟨owned, brought, others, contents, foreseen⟩ := served
          obtain ⟨after, path, landed, served⟩ := land_serves _ owned
          rw [brought, landed, foreseen]
          exact ⟨after, path, rfl, served.of_begun others contents⟩
      obtain ⟨between, path, isAnswer, served⟩ := answered
      obtain ⟨after, all, contents⟩ := ih between rest
      refine ⟨after, ?_, ?_⟩
      · simp only [answerAll, isAnswer, all, Scope.servedAll, ← served.scope, ← served.path]
        rfl
      · simp only [contents, served.contents, Scope.servedAll, ← served.scope, List.append_assoc]

end Tasks
end ArticleMarkdown.Asset
