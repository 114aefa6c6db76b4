import ArticleMarkdown.Asset.Sink

/-!
# Stores: sinks that fetch

A store is a sink with the record of the fetches made for it. With a fetcher, images are fetched
when they are asked for; without one, they are left to whoever writes the entries.
-/

namespace ArticleMarkdown.Asset

/-- What a fetch gives, after keeping its caller waiting for some turns. -/
structure Reply where
  waits : Nat
  outcome : FetchOutcome

/-- The reply for each address. -/
abbrev Fetcher := Text → Reply

/-- A sink and the addresses fetched for it, in order. -/
structure Store where
  sink : Sink := {}
  fetched : List Text := []
  deriving DecidableEq, Repr, Inhabited

/-- A request that was begun. -/
inductive Beginning where
  | answered (result : Except Fault Text)
  | awaiting (flight : Flight) (reply : Reply)

namespace Store

/-- Begins a request. A fetch that starts is recorded. -/
def start (fetcher : Option Fetcher) (store : Store) (request : Request) : Store × Beginning :=
  match fetcher with
  | none =>
    let (sink, result) := store.sink.defer request
    ({ store with sink }, .answered result)
  | some fetch =>
    match store.sink.accept request with
    | (sink, .answered result) => ({ store with sink }, .answered result)
    | (sink, .fetching flight) =>
      (⟨sink, store.fetched ++ [flight.address]⟩, .awaiting flight (fetch flight.address))

/-- Completes a flight. -/
def land (store : Store) (flight : Flight) (outcome : FetchOutcome) :
    Store × Except Fault Text :=
  let (sink, result) := store.sink.land flight outcome
  ({ store with sink }, result)

/-- Answers a request, waiting for its fetch if there is one. -/
def answer (fetcher : Option Fetcher) (store : Store) (request : Request) :
    Store × Except Fault Text :=
  match store.start fetcher request with
  | (store, .answered result) => (store, result)
  | (store, .awaiting flight reply) => store.land flight reply.outcome

/-- Answers requests one after another, up to the first that fails. -/
def answerAll (fetcher : Option Fetcher) : Store → List Request → Store × Except Fault (List Text)
  | store, [] => (store, .ok [])
  | store, request :: rest =>
    match store.answer fetcher request with
    | (store, .error fault) => (store, .error fault)
    | (store, .ok path) =>
      let (store, paths) := answerAll fetcher store rest
      (store, paths.map (path :: ·))

end Store
end ArticleMarkdown.Asset
