import ArticleMarkdown.Asset.Store

/-!
# Tasks that share a store

A task has requests to make, one after another. It runs until it waits for a fetch or ends;
meanwhile other tasks run on the same store. `Task.resume` gives one task its turn, so any order
of turns is a way to run tasks together. `runRounds` is one of these ways: every unfinished task
has a turn in each round. Up to thirty tasks are joined so; more of them have their turns as they
are woken, in an order that is not fixed. What is to hold of tasks is therefore proved for all
orders of turns.
-/

namespace ArticleMarkdown.Asset

/-- How far a task has come. -/
inductive Task where
  | ready (todo : List Request)
  /-- It waits for a fetch, for some further turns. -/
  | waiting (flight : Flight) (outcome : FetchOutcome) (turns : Nat) (paths : List Text)
      (todo : List Request)
  | finished (paths : List Text)
  /-- A request failed, and the task with it. -/
  | failed (fault : Fault)

namespace Task

/-- Runs a task that has the given answers, until it waits or ends. -/
def run (fetcher : Option Fetcher) (store : Store) (paths : List Text) :
    List Request → Store × Task
  | [] => (store, .finished paths)
  | request :: todo =>
    match store.start fetcher request with
    | (store, .answered (.ok path)) => run fetcher store (paths ++ [path]) todo
    | (store, .answered (.error fault)) => (store, .failed fault)
    | (store, .awaiting flight ⟨0, outcome⟩) =>
      match store.land flight outcome with
      | (store, .ok path) => run fetcher store (paths ++ [path]) todo
      | (store, .error fault) => (store, .failed fault)
    | (store, .awaiting flight ⟨turns + 1, outcome⟩) =>
      (store, .waiting flight outcome turns paths todo)

/-- Gives a task its turn. -/
def resume (fetcher : Option Fetcher) (store : Store) : Task → Store × Task
  | .ready todo => run fetcher store [] todo
  | .waiting flight outcome (turns + 1) paths todo =>
    (store, .waiting flight outcome turns paths todo)
  | .waiting flight outcome 0 paths todo =>
    match store.land flight outcome with
    | (store, .ok path) => run fetcher store (paths ++ [path]) todo
    | (store, .error fault) => (store, .failed fault)
  | .finished paths => (store, .finished paths)
  | .failed fault => (store, .failed fault)

/-- Whether a task has ended. -/
def isOver : Task → Bool
  | .finished _ | .failed _ => true
  | .ready _ | .waiting _ _ _ _ _ => false

/-- Whether a task has failed. -/
def isFailed : Task → Bool
  | .failed _ => true
  | .ready _ | .waiting _ _ _ _ _ | .finished _ => false

/-- The turns for which a request keeps its task waiting. -/
def requestWaits (fetcher : Option Fetcher) : Request → Nat
  | .image address _ _ => (fetcher.map fun fetch => (fetch (Text.trim address)).waits).getD 0
  | .drawing _ _ _ => 0

/-- The turns for which requests keep their task waiting, one after another. -/
def requestsWait (fetcher : Option Fetcher) : List Request → Nat
  | [] => 0
  | request :: rest => requestWaits fetcher request + requestsWait fetcher rest

/-- A bound on the turns that a task still takes. -/
def turnsLeft (fetcher : Option Fetcher) : Task → Nat
  | .ready todo => 1 + requestsWait fetcher todo
  | .waiting _ _ turns _ todo => 1 + turns + requestsWait fetcher todo
  | .finished _ | .failed _ => 0

/-- A bound on the turns that tasks still take together. -/
def allTurnsLeft (fetcher : Option Fetcher) : List Task → Nat
  | [] => 0
  | task :: rest => turnsLeft fetcher task + allTurnsLeft fetcher rest

end Task

/-- Gives every task a turn, in order. With `stopAtFailure` the round ends when a task fails. -/
def runRound (fetcher : Option Fetcher) (stopAtFailure : Bool) :
    Store → List Task → Store × List Task
  | store, [] => (store, [])
  | store, task :: rest =>
    match task.resume fetcher store with
    | (store, resumed) =>
      if stopAtFailure && resumed.isFailed then (store, resumed :: rest)
      else
        let (store, others) := runRound fetcher stopAtFailure store rest
        (store, resumed :: others)

/-- Runs rounds until every task is over, or until one fails with `stopAtFailure`. -/
def runRoundsFor (fetcher : Option Fetcher) (stopAtFailure : Bool) :
    (rounds : Nat) → Store → List Task → Store × List Task
  | 0, store, tasks => (store, tasks)
  | rounds + 1, store, tasks =>
    if tasks.all Task.isOver || (stopAtFailure && tasks.any Task.isFailed) then (store, tasks)
    else
      let (store, tasks) := runRound fetcher stopAtFailure store tasks
      runRoundsFor fetcher stopAtFailure rounds store tasks

/-- Runs tasks together in rounds, one order of turns among others: of many tasks, those may come
first whose images come first. No task takes more turns than are left to all of them. -/
def runRounds (fetcher : Option Fetcher) (stopAtFailure : Bool) (store : Store)
    (tasks : List Task) : Store × List Task :=
  runRoundsFor fetcher stopAtFailure (Task.allTurnsLeft fetcher tasks) store tasks

/-- Answers requests together, each as a task of its own. -/
def answerTogether (fetcher : Option Fetcher) (store : Store) (requests : List Request) :
    Store × List (Except Fault Text) :=
  let (store, tasks) := runRounds fetcher false store (requests.map fun r => .ready [r])
  let result : Task → Except Fault Text
    | .finished paths => .ok (paths.headD [])
    | .failed fault => .error fault
    | .ready _ | .waiting _ _ _ _ _ => .ok []
  (store, tasks.map result)

end ArticleMarkdown.Asset
