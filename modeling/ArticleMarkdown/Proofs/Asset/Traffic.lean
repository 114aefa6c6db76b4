import ArticleMarkdown.Proofs.Asset.Backing
import ArticleMarkdown.Proofs.Asset.Serving

/-!
# Calls on one sink

Many calls use one sink at a time. A call for an image that has to be fetched is suspended while
its flight is in the air; until the flight lands other calls are served, flights land in any order
and with any outcome, suspended calls are dropped, and entries are handed out. Traffic is the sink
with all of that, and a list of events is a run of it.

A path that was answered leads to an entry unless its flight did not bring one. A call that
reserves its name before it fetches makes the name known to every other call at once, so that a
call can be answered with the name of a flight that fails afterwards
(`Traffic.answered_name_of_failed_flight`).
-/

namespace ArticleMarkdown.Asset

/-- A sink and the calls on it: flights of suspended calls are in the air until they land or their
call is dropped, and `claims` lists the names given out by their place in the order of creation. -/
structure Traffic where
  sink : Sink := {}
  air : List Flight := []
  dropped : List Flight := []
  failed : List Flight := []
  drained : List Entry := []
  claims : List Claim := []
  answers : List (Except Fault Text) := []
  deriving DecidableEq

namespace Traffic

/-- What happens to a sink in use: a request is served, or written down for later; a flight lands
with its outcome, or its call is dropped; the entries are handed out. Flights are given by their
place in the air. -/
inductive Event where
  | call (request : Request)
  | callLater (request : Request)
  | land (index : Nat) (outcome : FetchOutcome)
  | drop (index : Nat)
  | drain

/-- The flights that fail with an outcome. -/
def failures (flight : Flight) : FetchOutcome → List Flight
  | .ok _ => []
  | .error _ => [flight]

/-- What one event does. A flight that is not in the air neither lands nor is dropped. -/
def step (t : Traffic) : Event → Traffic
  | .call request =>
    let (sink, progress) := t.sink.accept request
    { t with
      sink
      air := t.air ++ progress.flights
      claims := t.claims ++ t.sink.newClaims sink (t.sink.requestClaim request)
      answers := t.answers ++ progress.answers }
  | .callLater request =>
    let (sink, result) := t.sink.defer request
    { t with
      sink
      claims := t.claims ++ t.sink.newClaims sink (t.sink.requestClaim request)
      answers := t.answers ++ [result] }
  | .land index outcome =>
    match t.air[index]? with
    | none => t
    | some flight =>
      let (sink, result) := t.sink.land flight outcome
      { t with
        sink
        air := t.air.eraseIdx index
        failed := t.failed ++ failures flight outcome
        claims := t.claims ++ t.sink.landingClaims flight outcome
        answers := t.answers ++ [result] }
  | .drop index =>
    match t.air[index]? with
    | none => t
    | some flight =>
      { t with air := t.air.eraseIdx index, dropped := t.dropped ++ [flight] }
  | .drain =>
    let (sink, entries) := t.sink.drain
    { t with sink, drained := t.drained ++ entries }

/-- What events do, one after another. -/
def run (t : Traffic) (events : List Event) : Traffic :=
  events.foldl step t

/-- The account of traffic. A call that is dropped leaves its name held. -/
def account (t : Traffic) : Account where
  sink := t.sink
  holds := Flight.holds (t.air ++ t.dropped)
  lost := Flight.holds t.failed
  drained := t.drained
  claims := t.claims
  answers := t.answers

/-- Every entry made so far, held or handed out. -/
def made (t : Traffic) : List Entry :=
  t.drained ++ t.sink.entries

private theorem air_perm {t : Traffic} {index : Nat} {flight : Flight}
    (flying : t.air[index]? = some flight) : t.air.Perm (flight :: t.air.eraseIdx index) := by
  obtain ⟨inside, rfl⟩ := List.getElem?_eq_some_iff.mp flying
  exact (List.getElem_cons_eraseIdx_perm inside).symm

private theorem holds_split {t : Traffic} {index : Nat} {flight : Flight}
    (flying : t.air[index]? = some flight) :
    t.account.holds = Flight.holds [flight] + Flight.holds (t.air.eraseIdx index ++ t.dropped) := by
  rw [← Flight.holds_append, List.singleton_append, ← List.cons_append]
  exact Flight.holds_perm ((air_perm flying).append_right t.dropped)

private theorem account_call (t : Traffic) (request : Request) :
    (t.step (.call request)).account = t.account.serve request (t.sink.accept request) := by
  simp only [step, account, Account.serve, Flight.holds_append]
  congr 1
  rw [add_comm (Flight.holds t.air), add_assoc]

private theorem account_callLater (t : Traffic) (request : Request) :
    (t.step (.callLater request)).account =
      t.account.serve request ((t.sink.defer request).1, .answered (t.sink.defer request).2) := by
  simp [step, account, Account.serve, Progress.flights, Progress.answers]

private theorem account_land {t : Traffic} {index : Nat} {flight : Flight}
    (flying : t.air[index]? = some flight) (outcome : FetchOutcome) :
    (t.step (.land index outcome)).account = t.account.land flight outcome := by
  have fewer := holds_split flying
  have failed : Flight.holds (t.failed ++ failures flight outcome) =
      Account.losses flight outcome + Flight.holds t.failed := by
    cases outcome with
    | ok image => simp [failures, Account.losses]
    | error fault => simp [failures, Account.losses, add_comm]
  simp only [account] at fewer
  simp only [step, flying, account, Account.land, failed, fewer, add_tsub_cancel_left]

private theorem account_drop {t : Traffic} {index : Nat} {flight : Flight}
    (flying : t.air[index]? = some flight) : (t.step (.drop index)).account = t.account := by
  have fewer := holds_split flying
  simp only [account] at fewer
  simp only [step, flying, account, fewer, Flight.holds_append]
  congr 1
  rw [← add_assoc, add_comm]

/-- Every event is a step of the account, or none. -/
theorem reaches_step (t : Traffic) (event : Event) :
    t.account.Reaches (t.step event).account := by
  cases event with
  | call request =>
      rw [account_call]
      exact t.account.reaches_accept request
  | callLater request =>
      rw [account_callLater]
      exact t.account.reaches_defer request
  | land index outcome =>
      -- The flight was counted among the holds, so landing may take its name back.
      cases flying : t.air[index]? with
      | none => simp only [step, flying, Relation.ReflTransGen.refl]
      | some flight =>
          rw [account_land flying]
          exact t.account.reaches_land (holds_split flying ▸ Multiset.le_add_right _ _) outcome
  | drop index =>
      cases flying : t.air[index]? with
      | none => simp only [step, flying, Relation.ReflTransGen.refl]
      | some flight => rw [account_drop flying]
  | drain => exact .single .drain

/-- A run of traffic takes steps of the account only. -/
theorem reaches_run (t : Traffic) (events : List Event) :
    t.account.Reaches (t.run events).account := by
  induction events generalizing t with
  | nil => exact .refl
  | cons event rest ih => exact (t.reaches_step event).trans (ih (t.step event))

/-- Once calls have been made on a new sink, every path that was answered leads to an entry, if
and only if one does for each answered path whose flight is still in the air, was dropped or has
failed. -/
theorem answered_paths_have_entries_iff (events : List Event) :
    (∀ path, .ok path ∈ (run {} events).answers →
        ∃ entry ∈ (run {} events).made, entry.path = path) ↔
      ∀ flight ∈ (run {} events).air ++ (run {} events).dropped ++ (run {} events).failed,
        ∀ path order, flight.reserved = some (path, order) →
          .ok path ∈ (run {} events).answers →
            ∃ entry ∈ (run {} events).made, entry.path = path := by
  have reached : Account.Reaches { sink := {}, drained := [] } (run {} events).account :=
    reaches_run {} events
  have backed : (run {} events).account.Backed {} := reached.backed
  have exact_holds := backed.answers_have_entries_iff
  have nothing_old : ∀ owner key path, Sink.record? {} owner key = some path → False := by
    intro owner key path old
    rw [Sink.record?_empty] at old
    cases old
  constructor
  · intro all _ _ path _ _ answered
    exact all path answered
  · intro named
    refine exact_holds.mpr ⟨fun hold member answered => ?_, fun owner key path old =>
      (nothing_old owner key path old).elim⟩
    simp only [account, ← Flight.holds_append] at member
    obtain ⟨flight, inside, held⟩ := Flight.mem_holds.mp member
    obtain ⟨⟨path, order⟩, reserved, rfl⟩ := Option.map_eq_some_iff.mp held
    exact named flight inside path order reserved answered

/-- Two calls for one image, whose only fetch fails. -/
def sharedName : List Event :=
  let image := Request.image "a.png".toList "assets".toList []
  [.call image, .call image, .land 0 (.error (.unreachable "a.png".toList 1 "boom".toList))]

/-- The second of two calls is answered with a name that never gets an entry. -/
theorem answered_name_of_failed_flight :
    (run {} sharedName).air = [] ∧ .ok "assets/1.png".toList ∈ (run {} sharedName).answers ∧
      ¬∃ entry ∈ (run {} sharedName).made, entry.path = "assets/1.png".toList := by
  decide +kernel

end Traffic
end ArticleMarkdown.Asset
