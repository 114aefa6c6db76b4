import ArticleMarkdown.Proofs.Asset.Account
import Mathlib.Algebra.Order.Group.Multiset

/-!
# Serving requests as steps of the account

A request that is accepted or deferred, and a flight that lands, change the account of a sink by at
most one step. Which claim they make is read off the sink before them; that they make one shows in
the order of creation.
-/

namespace ArticleMarkdown.Asset

/-- The answers that serving a request has brought so far: one, or none yet. -/
def Progress.answers : Progress → List (Except Fault Text)
  | .answered result => [result]
  | .fetching _ => []

/-- The flights that serving a request has started: one, or none. -/
def Progress.flights : Progress → List Flight
  | .answered _ => []
  | .fetching flight => [flight]

/-- The names that flights hold. -/
def Flight.holds (flights : List Flight) : Multiset Hold :=
  Multiset.ofList (flights.filterMap hold?)

/-- Without flights no name is held. -/
@[simp] theorem Flight.holds_nil : holds [] = 0 := rfl

/-- Flights hold names each for itself. -/
@[simp] theorem Flight.holds_append (first second : List Flight) :
    holds (first ++ second) = holds first + holds second := by
  simp [holds]

/-- The order of flights plays no part in the names they hold. -/
theorem Flight.holds_perm {first second : List Flight} (perm : first.Perm second) :
    holds first = holds second :=
  Multiset.coe_eq_coe.mpr (perm.filterMap _)

private theorem Flight.holds_reserved {flight : Flight} {path : Text} {order : Nat}
    (reserved : flight.reserved = some (path, order)) :
    holds [flight] = {⟨flight.owner, flight.canonical, path, order⟩} := by
  simp [holds, hold?, reserved]

private theorem Flight.holds_bare {flight : Flight} (bare : flight.reserved = none) :
    holds [flight] = 0 := by
  simp [holds, hold?, bare]

/-- Each held name is held by a flight. -/
theorem Flight.mem_holds {flights : List Flight} {hold : Hold} :
    hold ∈ holds flights ↔ ∃ flight ∈ flights, flight.hold? = some hold := by
  simp [holds]

namespace Sink

/-- The claim that a request makes if it gets a name. -/
def requestClaim (sink : Sink) (request : Request) : Claim :=
  (sink.scope request.owner).nextClaim request.owner request.key request.extension

/-- The claims made between two states of a sink, when only one can have been made. -/
def newClaims (before after : Sink) (claim : Claim) : List Claim :=
  if after.nextOrder = before.nextOrder then [] else [claim]

/-- The claims made by completing a flight. -/
def landingClaims (sink : Sink) (flight : Flight) : FetchOutcome → List Claim
  | .ok image =>
    sink.newClaims (sink.land flight (.ok image)).1 (sink.landingClaim flight image)
  | .error _ => []

@[simp] private theorem newClaims_self (sink : Sink) (claim : Claim) :
    sink.newClaims sink claim = [] :=
  if_pos rfl

/-- Pushing an entry takes no name. -/
@[simp] theorem newClaims_push (before after : Sink) (entry : Entry) (claim : Claim) :
    before.newClaims (after.push entry) claim = before.newClaims after claim := rfl

@[simp] private theorem newClaims_grant (sink : Sink) (claim made : Claim) :
    sink.newClaims (sink.grant made) claim = [claim] :=
  if_neg (Nat.succ_ne_self _)

end Sink

namespace Account

/-- The account after a request is served, given what the sink made of it. -/
def serve (a : Account) (request : Request) (served : Sink × Progress) : Account :=
  { a with
    sink := served.1
    holds := Flight.holds served.2.flights + a.holds
    claims := a.claims ++ a.sink.newClaims served.1 (a.sink.requestClaim request)
    answers := a.answers ++ served.2.answers }

/-- The name that is lost when a flight ends, if it fails and holds one. -/
def losses (flight : Flight) : FetchOutcome → Multiset Hold
  | .ok _ => 0
  | .error _ => Flight.holds [flight]

/-- The account after a flight lands. -/
def land (a : Account) (flight : Flight) (outcome : FetchOutcome) : Account :=
  { a with
    sink := (a.sink.land flight outcome).1
    holds := a.holds - Flight.holds [flight]
    lost := losses flight outcome + a.lost
    claims := a.claims ++ a.sink.landingClaims flight outcome
    answers := a.answers ++ [(a.sink.land flight outcome).2] }

/-- Carrying out a plan for a request is at most one step. -/
theorem reaches_carryOut (a : Account) {request : Request} {plan : Plan}
    (planned : Plan.For (a.sink.scope request.owner) request plan) :
    Reaches a (a.serve request (a.sink.carryOut plan)) := by
  cases planned with
  | @refuse fault refused =>
      have same : a.serve request (a.sink.carryOut (.refuse fault)) = a.answer (.error fault) := by
        simp [serve, Sink.carryOut, Progress.flights, Progress.answers, answer]
      rw [same]
      exact .single (.answer fun path impossible => by cases impossible)
  | @reuse path known =>
      have same : a.serve request (a.sink.carryOut (.reuse path)) = a.answer (.ok path) := by
        simp [serve, Sink.carryOut, Progress.flights, Progress.answers, answer]
      rw [same]
      refine .single (.answer fun answered isAnswer => ?_)
      cases isAnswer
      exact ⟨request.owner, request.key, known⟩
  | @fetch address canonical fresh key =>
      have same : a.serve request (a.sink.carryOut (.fetch address canonical request.owner)) =
        a := by
        simp [serve, Sink.carryOut, Progress.flights, Progress.answers, Flight.holds_bare]
      rw [same]
  | @reserve address canonical fresh key =>
      have same : a.serve request
          (a.sink.carryOut (.reserve address canonical (a.sink.requestClaim request))) =
            a.reserve (a.sink.requestClaim request) canonical := by
        simp [serve, Sink.carryOut, Progress.flights, Progress.answers, reserve, Flight.holds,
          Flight.hold?]
      rw [Sink.requestClaim] at same
      rw [same, key]
      exact .single (.reserve (key ▸ fresh))
  | @make mediaType payload kind fresh =>
      have same : a.serve request
          (a.sink.carryOut (.make (a.sink.requestClaim request) payload mediaType kind)) =
            a.make (a.sink.requestClaim request)
              ⟨(a.sink.requestClaim request).path, payload, mediaType, a.sink.nextOrder, kind⟩ := by
        simp [serve, Sink.carryOut, Progress.flights, Progress.answers, make]
      rw [Sink.requestClaim] at same
      rw [same]
      exact .single (.make fresh rfl rfl)

/-- Accepting a request is at most one step. -/
theorem reaches_accept (a : Account) (request : Request) :
    Reaches a (a.serve request (a.sink.accept request)) := by
  rw [Sink.accept_eq_carryOut]
  exact a.reaches_carryOut (Scope.plan_for _ _ true)

/-- Answering a request without fetching is at most one step. -/
theorem reaches_defer (a : Account) (request : Request) :
    Reaches a (a.serve request ((a.sink.defer request).1, .answered (a.sink.defer request).2)) := by
  rw [Sink.defer_eq_carryOut]
  exact a.reaches_carryOut (Scope.plan_for _ _ false)

/-- Completing a flight whose name, if it has one, is held is one step. -/
theorem reaches_land (a : Account) {flight : Flight} (held : Flight.holds [flight] ≤ a.holds)
    (outcome : FetchOutcome) : Reaches a (a.land flight outcome) := by
  cases reserved : flight.reserved with
  | some place =>
      obtain ⟨path, order⟩ := place
      have hold := Flight.holds_reserved reserved
      rw [hold, Multiset.singleton_le] at held
      cases outcome with
      | ok image =>
          have same : a.land flight (.ok image) =
              a.deliver ⟨flight.owner, flight.canonical, path, order⟩
                (Sink.fetchedEntry path order image) := by
            simp [land, losses, Sink.landingClaims, Sink.land_reserved _ image reserved, hold,
              deliver, Multiset.sub_singleton]
          rw [same]
          exact .single (.deliver held rfl rfl)
      | error fault =>
          have same : a.land flight (.error fault) =
              a.lose ⟨flight.owner, flight.canonical, path, order⟩ fault := by
            simp [land, losses, Sink.landingClaims, Sink.land_failed_reserved _ fault reserved,
              hold, lose, Multiset.sub_singleton]
          rw [same]
          exact .single (.lose held)
  | none =>
      have hold := Flight.holds_bare reserved
      cases outcome with
      | ok image =>
          cases known : a.sink.record? flight.owner (.image flight.canonical) with
          | some path =>
              have same : a.land flight (.ok image) = a.answer (.ok path) := by
                simp [land, losses, Sink.landingClaims, Sink.land_known _ image reserved known,
                  hold, answer]
              rw [same]
              refine .single (.answer fun answered isAnswer => ?_)
              cases isAnswer
              exact ⟨_, _, known⟩
          | none =>
              have same : a.land flight (.ok image) =
                  a.make (a.sink.landingClaim flight image) (Sink.fetchedEntry
                    (a.sink.landingClaim flight image).path a.sink.nextOrder image) := by
                simp [land, losses, Sink.landingClaims, Sink.land_fresh _ image reserved known,
                  hold, make]
              rw [same]
              exact .single (.make known rfl rfl)
      | error fault =>
          have same : a.land flight (.error fault) = a.answer (.error fault) := by
            simp [land, losses, Sink.landingClaims, Sink.land_failed_bare _ fault reserved,
              hold, answer]
          rw [same]
          exact .single (.answer fun path impossible => by cases impossible)

end Account
end ArticleMarkdown.Asset
