import ArticleMarkdown.Asset.Task
import ArticleMarkdown.Proofs.Asset.Serving

/-!
# Whose paths a sink hands out

A sink that serves requests of some owners only has no paths but those of these owners: on record,
in its entries, in its answers, and with the flights that it starts. That holds however the requests
are made: called, deferred, one after another, or by tasks that take turns.
-/

namespace ArticleMarkdown.Asset

/-- A path of a file of a permitted owner. -/
def PathFor (permitted : Owner → Prop) (path : Text) : Prop :=
  ∃ c : Claim, permitted c.owner ∧ c.path = path

/-- An answer that is no path but one of a permitted owner. -/
def AnswerFor (permitted : Owner → Prop) (result : Except Fault Text) : Prop :=
  ∀ path, result = .ok path → PathFor permitted path

/-- A flight for a permitted owner, which holds no path but one of a permitted owner. -/
structure Flight.IsFor (permitted : Owner → Prop) (flight : Flight) : Prop where
  owner : permitted flight.owner
  reserved : ∀ path order, flight.reserved = some (path, order) → PathFor permitted path

/-- A sink whose paths are those of permitted owners. -/
structure Sink.IsFor (permitted : Owner → Prop) (sink : Sink) : Prop where
  recorded : ∀ owner key path, sink.record? owner key = some path → PathFor permitted path
  entries : ∀ entry ∈ sink.entries, PathFor permitted entry.path

variable {permitted : Owner → Prop}

private theorem AnswerFor.error (fault : Fault) : AnswerFor permitted (.error fault) := nofun

private theorem AnswerFor.ok {path : Text} (isFor : PathFor permitted path) :
    AnswerFor permitted (.ok path) := by
  rintro _ ⟨⟩
  exact isFor

namespace Sink.IsFor

variable {sink : Sink}

/-- A new sink has no paths at all. -/
theorem empty : Sink.IsFor permitted {} where
  recorded owner key path known := by
    rw [record?_empty] at known
    cases known
  entries entry member := absurd member List.not_mem_nil

private theorem grant (isFor : sink.IsFor permitted) {c : Claim} (owner : permitted c.owner) :
    (sink.grant c).IsFor permitted where
  recorded other key path known := by
    rw [record?_grant] at known
    split at known
    · exact ⟨c, owner, Option.some.inj known⟩
    · exact isFor.recorded other key path known
  entries := isFor.entries

private theorem push (isFor : sink.IsFor permitted) {entry : Entry}
    (path : PathFor permitted entry.path) :
    (sink.push entry).IsFor permitted where
  recorded := isFor.recorded
  entries other member := by
    rcases List.mem_append.mp member with old | isNew
    · exact isFor.entries other old
    · cases List.mem_singleton.mp isNew
      exact path

private theorem forget (isFor : sink.IsFor permitted) (owner : Owner) (canonical : Text) :
    (sink.forget owner canonical).IsFor permitted where
  recorded other key path known := by
    rw [record?_forget] at known
    split at known
    · cases known
    · exact isFor.recorded other key path known
  entries := isFor.entries

/-- Handing entries out keeps the paths that there are. -/
theorem drain (isFor : sink.IsFor permitted) :
    sink.drain.1.IsFor permitted ∧ ∀ entry ∈ sink.drain.2, PathFor permitted entry.path := by
  refine ⟨⟨isFor.recorded, fun entry member => absurd member List.not_mem_nil⟩, ?_⟩
  exact fun entry member => isFor.entries entry ((List.mergeSort_perm _ _).subset member)

/-- Carrying out the plan for a request of a permitted owner. -/
theorem carryOut (isFor : sink.IsFor permitted) {request : Request}
    (owner : permitted request.owner) {plan : Plan}
    (planned : Plan.For (sink.scope request.owner) request plan) :
    (sink.carryOut plan).1.IsFor permitted ∧
      (∀ result ∈ (sink.carryOut plan).2.answers, AnswerFor permitted result) ∧
        ∀ flight ∈ (sink.carryOut plan).2.flights, flight.IsFor permitted := by
  have single : ∀ {result : Except Fault Text}, AnswerFor permitted result →
      ∀ other ∈ [result], AnswerFor permitted other := by
    intro result isFor other member
    cases List.mem_singleton.mp member
    exact isFor
  cases planned with
  | refuse refused => exact ⟨isFor, single (.error _), nofun⟩
  | reuse known => exact ⟨isFor, single (.ok (isFor.recorded _ _ _ known)), nofun⟩
  | fetch fresh key =>
      refine ⟨isFor, nofun, fun flight member => ?_⟩
      cases List.mem_singleton.mp member
      exact ⟨owner, nofun⟩
  | reserve fresh key =>
      refine ⟨isFor.grant owner, nofun, fun flight member => ?_⟩
      cases List.mem_singleton.mp member
      refine ⟨owner, ?_⟩
      rintro _ _ ⟨⟩
      exact ⟨_, owner, rfl⟩
  | make fresh =>
      exact ⟨(isFor.grant owner).push ⟨_, owner, rfl⟩, single (.ok ⟨_, owner, rfl⟩), nofun⟩

/-- Serving a request of a permitted owner adds paths of permitted owners only. -/
theorem accept (isFor : sink.IsFor permitted) {request : Request}
    (owner : permitted request.owner) :
    (sink.accept request).1.IsFor permitted ∧
      (∀ result ∈ (sink.accept request).2.answers, AnswerFor permitted result) ∧
        ∀ flight ∈ (sink.accept request).2.flights, flight.IsFor permitted := by
  rw [accept_eq_carryOut]
  exact isFor.carryOut owner (Scope.plan_for _ _ true)

/-- So does serving it later. -/
theorem defer (isFor : sink.IsFor permitted) {request : Request}
    (owner : permitted request.owner) :
    (sink.defer request).1.IsFor permitted ∧ AnswerFor permitted (sink.defer request).2 := by
  have served := isFor.carryOut owner (Scope.plan_for (sink.scope request.owner) request false)
  rw [← defer_eq_carryOut] at served
  exact ⟨served.1, served.2.1 _ (List.mem_singleton.mpr rfl)⟩

/-- So does the landing of a flight for a permitted owner. -/
theorem land (isFor : sink.IsFor permitted) {flight : Flight} (flying : flight.IsFor permitted)
    (outcome : FetchOutcome) :
    (sink.land flight outcome).1.IsFor permitted ∧
      AnswerFor permitted (sink.land flight outcome).2 := by
  cases reserved : flight.reserved with
  | some place =>
      obtain ⟨path, order⟩ := place
      have named := flying.reserved path order reserved
      cases outcome with
      | ok image =>
          rw [land_reserved sink image reserved]
          exact ⟨isFor.push named, .ok named⟩
      | error fault =>
          rw [land_failed_reserved sink fault reserved]
          exact ⟨isFor.forget _ _, .error _⟩
  | none =>
      cases outcome with
      | ok image =>
          cases known : sink.record? flight.owner (.image flight.canonical) with
          | some path =>
              rw [land_known sink image reserved known]
              exact ⟨isFor, .ok (isFor.recorded _ _ _ known)⟩
          | none =>
              have named : PathFor permitted (sink.landingClaim flight image).path :=
                ⟨_, flying.owner, rfl⟩
              rw [land_fresh sink image reserved known]
              exact ⟨(isFor.grant flying.owner).push named, .ok named⟩
      | error fault =>
          rw [land_failed_bare sink fault reserved]
          exact ⟨isFor, .error _⟩

end Sink.IsFor

/-- The requests of permitted owners. -/
def RequestsFor (permitted : Owner → Prop) (requests : List Request) : Prop :=
  ∀ request ∈ requests, permitted request.owner

/-- A task whose requests and flight are for permitted owners. -/
def Task.IsFor (permitted : Owner → Prop) : Task → Prop
  | .ready todo => RequestsFor permitted todo
  | .waiting flight _ _ _ todo => flight.IsFor permitted ∧ RequestsFor permitted todo
  | .finished _ | .failed _ => True

variable (fetcher : Option Fetcher) {store : Store}

/-- A request that is begun. -/
theorem Store.isFor_start (isFor : store.sink.IsFor permitted) {request : Request}
    (owner : permitted request.owner) :
    (store.start fetcher request).1.sink.IsFor permitted ∧
      ∀ flight reply, (store.start fetcher request).2 = .awaiting flight reply →
        flight.IsFor permitted := by
  cases fetcher with
  | none => exact ⟨(isFor.defer owner).1, nofun⟩
  | some fetch =>
      obtain ⟨sink, _, flights⟩ := isFor.accept owner
      simp only [start]
      split
      · next served =>
        rw [served] at sink
        exact ⟨sink, nofun⟩
      · next flight served =>
        rw [served] at sink flights
        refine ⟨sink, ?_⟩
        rintro _ _ ⟨⟩
        exact flights flight (List.mem_singleton.mpr rfl)

private theorem Store.isFor_land (isFor : store.sink.IsFor permitted) {flight : Flight}
    (flying : flight.IsFor permitted) (outcome : FetchOutcome) :
    (store.land flight outcome).1.sink.IsFor permitted :=
  (isFor.land flying outcome).1

private theorem Store.isFor_answer (isFor : store.sink.IsFor permitted) {request : Request}
    (owner : permitted request.owner) :
    (store.answer fetcher request).1.sink.IsFor permitted := by
  obtain ⟨begun, flying⟩ := Store.isFor_start fetcher isFor owner
  rw [answer]
  split
  · next answered =>
    rw [answered] at begun
    exact begun
  · next awaits =>
    rw [awaits] at begun flying
    exact isFor_land begun (flying _ _ rfl) _

/-- So does answering requests of permitted owners. -/
theorem Store.isFor_answerAll (isFor : store.sink.IsFor permitted) {requests : List Request}
    (asked : RequestsFor permitted requests) :
    (store.answerAll fetcher requests).1.sink.IsFor permitted := by
  induction requests generalizing store with
  | nil => exact isFor
  | cons request rest ih =>
      obtain ⟨first, others⟩ := List.forall_mem_cons.mp asked
      have answered := isFor_answer fetcher isFor first
      rw [answerAll]
      split
      · next failed =>
        rw [failed] at answered
        exact answered
      · next served =>
        rw [served] at answered
        exact ih answered others

private theorem Task.isFor_run (isFor : store.sink.IsFor permitted) (paths : List Text)
    {todo : List Request} (asked : RequestsFor permitted todo) :
    (run fetcher store paths todo).1.sink.IsFor permitted ∧
      (run fetcher store paths todo).2.IsFor permitted := by
  fun_induction run fetcher store paths todo with
  | case1 => exact ⟨isFor, trivial⟩
  | case2 store paths request todo after path begun ih =>
      obtain ⟨first, others⟩ := List.forall_mem_cons.mp asked
      have served := (Store.isFor_start fetcher isFor first).1
      rw [begun] at served
      exact ih served others
  | case3 store paths request todo after fault begun =>
      have served := (Store.isFor_start fetcher isFor (List.forall_mem_cons.mp asked).1).1
      rw [begun] at served
      exact ⟨served, trivial⟩
  | case4 store paths request todo next flight outcome begun after path landed ih =>
      obtain ⟨first, others⟩ := List.forall_mem_cons.mp asked
      obtain ⟨served, flying⟩ := Store.isFor_start fetcher isFor first
      rw [begun] at served flying
      have arrived := Store.isFor_land served (flying _ _ rfl) outcome
      rw [landed] at arrived
      exact ih arrived others
  | case5 store paths request todo next flight outcome begun after fault landed =>
      obtain ⟨served, flying⟩ := Store.isFor_start fetcher isFor (List.forall_mem_cons.mp asked).1
      rw [begun] at served flying
      have arrived := Store.isFor_land served (flying _ _ rfl) outcome
      rw [landed] at arrived
      exact ⟨arrived, trivial⟩
  | case6 store paths request todo after flight turns outcome begun =>
      obtain ⟨first, others⟩ := List.forall_mem_cons.mp asked
      obtain ⟨served, flying⟩ := Store.isFor_start fetcher isFor first
      rw [begun] at served flying
      exact ⟨served, flying _ _ rfl, others⟩

private theorem Task.isFor_resume (isFor : store.sink.IsFor permitted) {task : Task}
    (own : task.IsFor permitted) :
    (task.resume fetcher store).1.sink.IsFor permitted ∧
      (task.resume fetcher store).2.IsFor permitted := by
  cases task with
  | ready todo => exact isFor_run fetcher isFor [] own
  | waiting flight outcome turns paths todo =>
      cases turns with
      | succ turns => exact ⟨isFor, own⟩
      | zero =>
          have arrived := Store.isFor_land isFor own.1 outcome
          simp only [resume]
          split
          · next landed =>
            rw [landed] at arrived
            exact isFor_run fetcher arrived _ own.2
          · next landed =>
            rw [landed] at arrived
            exact ⟨arrived, trivial⟩
  | finished paths => exact ⟨isFor, trivial⟩
  | failed fault => exact ⟨isFor, trivial⟩

/-- So does a round of tasks for permitted owners. -/
theorem isFor_runRound (stopAtFailure : Bool) (isFor : store.sink.IsFor permitted)
    {tasks : List Task} (own : ∀ task ∈ tasks, task.IsFor permitted) :
    (runRound fetcher stopAtFailure store tasks).1.sink.IsFor permitted ∧
      ∀ task ∈ (runRound fetcher stopAtFailure store tasks).2, task.IsFor permitted := by
  induction tasks generalizing store with
  | nil => exact ⟨isFor, own⟩
  | cons task rest ih =>
      obtain ⟨first, others⟩ := List.forall_mem_cons.mp own
      obtain ⟨sink, resumed⟩ := Task.isFor_resume fetcher isFor first
      obtain ⟨after, later⟩ := ih sink others
      simp only [runRound]
      split
      · exact ⟨sink, List.forall_mem_cons.mpr ⟨resumed, others⟩⟩
      · exact ⟨after, List.forall_mem_cons.mpr ⟨resumed, later⟩⟩

/-- So do rounds of tasks for permitted owners. -/
theorem isFor_runRoundsFor (stopAtFailure : Bool) (rounds : Nat)
    (isFor : store.sink.IsFor permitted) {tasks : List Task}
    (own : ∀ task ∈ tasks, task.IsFor permitted) :
    (runRoundsFor fetcher stopAtFailure rounds store tasks).1.sink.IsFor permitted := by
  induction rounds generalizing store tasks with
  | zero => exact isFor
  | succ rounds ih =>
      obtain ⟨sink, later⟩ := isFor_runRound fetcher stopAtFailure isFor own
      simp only [runRoundsFor]
      split
      · exact isFor
      · exact ih sink later

end ArticleMarkdown.Asset
