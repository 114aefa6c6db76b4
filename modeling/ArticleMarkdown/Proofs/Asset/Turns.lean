import ArticleMarkdown.Asset.Task
import ArticleMarkdown.Proofs.Asset.Backing
import ArticleMarkdown.Proofs.Asset.Serving

/-!
# Turns of tasks

Tasks on one store run by taking turns. Any order of turns is a schedule, and each turn may see
fetches that keep their callers waiting differently; rounds are one such schedule
(`runRounds_eq_takeTurns`). Whatever the schedule, it makes steps of the account only, and the
names held are those of the flights that tasks wait for.
-/

namespace ArticleMarkdown.Asset

/-- A turn: the task that has it, and the fetches it sees. -/
structure Turn where
  task : Nat
  fetcher : Option Fetcher

/-- A task takes its turn; the turn of a task that is not there changes nothing. -/
def takeTurn (pool : Store × List Task) (turn : Turn) : Store × List Task :=
  match pool.2[turn.task]? with
  | none => pool
  | some task =>
    let (store, resumed) := task.resume turn.fetcher pool.1
    (store, pool.2.set turn.task resumed)

/-- Tasks take turns, one after another. -/
def takeTurns (pool : Store × List Task) (turns : List Turn) : Store × List Task :=
  turns.foldl takeTurn pool

/-- The flights that a task waits for. -/
def Task.flights : Task → List Flight
  | .waiting flight _ _ _ _ => [flight]
  | .ready _ | .finished _ | .failed _ => []

/-- The flight that a request has begun. -/
def Beginning.flights : Beginning → List Flight
  | .answered _ => []
  | .awaiting flight _ => [flight]

section Rounds

variable (fetcher : Option Fetcher) (stopAtFailure : Bool)

@[simp] private theorem takeTurns_nil (pool : Store × List Task) : takeTurns pool [] = pool := rfl

private theorem takeTurns_cons (pool : Store × List Task) (turn : Turn) (turns : List Turn) :
    takeTurns pool (turn :: turns) = takeTurns (takeTurn pool turn) turns := rfl

private theorem takeTurns_append (pool : Store × List Task) (turns more : List Turn) :
    takeTurns pool (turns ++ more) = takeTurns (takeTurns pool turns) more :=
  List.foldl_append

private theorem takeTurn_middle (store : Store) (before rest : List Task) (task : Task) :
    takeTurn (store, before ++ task :: rest) ⟨before.length, fetcher⟩ =
      ((task.resume fetcher store).1, before ++ (task.resume fetcher store).2 :: rest) := by
  simp [takeTurn]

/-- A round is a sequence of turns. -/
theorem runRound_eq_takeTurns (store : Store) (before tasks : List Task) :
    ∃ turns, (∀ turn ∈ turns, turn.fetcher = fetcher) ∧
      takeTurns (store, before ++ tasks) turns =
        ((runRound fetcher stopAtFailure store tasks).1,
          before ++ (runRound fetcher stopAtFailure store tasks).2) := by
  induction tasks generalizing store before with
  | nil => exact ⟨[], by simp, rfl⟩
  | cons task rest ih =>
      by_cases stops : (stopAtFailure && (task.resume fetcher store).2.isFailed) = true
      · refine ⟨[⟨before.length, fetcher⟩], by simp, ?_⟩
        rw [takeTurns_cons, takeTurn_middle, takeTurns_nil]
        simp only [runRound, stops, if_true]
      · obtain ⟨turns, same, run⟩ :=
          ih (task.resume fetcher store).1 (before ++ [(task.resume fetcher store).2])
        refine ⟨⟨before.length, fetcher⟩ :: turns, List.forall_mem_cons.mpr ⟨rfl, same⟩, ?_⟩
        rw [takeTurns_cons, takeTurn_middle, List.append_cons, run]
        simp only [runRound, stops, List.append_assoc, List.singleton_append, if_false,
          Bool.false_eq_true]

private theorem runRoundsFor_eq_takeTurns (rounds : Nat) (store : Store) (tasks : List Task) :
    ∃ turns, (∀ turn ∈ turns, turn.fetcher = fetcher) ∧
      takeTurns (store, tasks) turns = runRoundsFor fetcher stopAtFailure rounds store tasks := by
  induction rounds generalizing store tasks with
  | zero => exact ⟨[], by simp, rfl⟩
  | succ rounds ih =>
      by_cases stops : (tasks.all Task.isOver || (stopAtFailure && tasks.any Task.isFailed)) = true
      · refine ⟨[], by simp, ?_⟩
        simp only [takeTurns_nil, runRoundsFor, stops, if_true]
      · obtain ⟨first, sameFirst, round⟩ :=
          runRound_eq_takeTurns fetcher stopAtFailure store [] tasks
        obtain ⟨later, sameLater, rest⟩ := ih (runRound fetcher stopAtFailure store tasks).1
          (runRound fetcher stopAtFailure store tasks).2
        refine ⟨first ++ later, List.forall_mem_append.mpr ⟨sameFirst, sameLater⟩, ?_⟩
        simp only [List.nil_append] at round
        rw [takeTurns_append, round, rest]
        simp only [runRoundsFor, stops, if_false, Bool.false_eq_true]

/-- Rounds are turns: some list of them leads to the same store and the same tasks. -/
theorem runRounds_eq_takeTurns (store : Store) (tasks : List Task) :
    ∃ turns, (∀ turn ∈ turns, turn.fetcher = fetcher) ∧
      takeTurns (store, tasks) turns = runRounds fetcher stopAtFailure store tasks :=
  runRoundsFor_eq_takeTurns fetcher stopAtFailure _ store tasks

end Rounds

/-- With a fetcher, a store begins a request as its sink accepts it. -/
theorem Store.start_accepts (store : Store) (fetch : Fetcher) (request : Request) :
    (store.start (some fetch) request).1.sink = (store.sink.accept request).1 ∧
      (store.start (some fetch) request).2.flights = (store.sink.accept request).2.flights := by
  simp only [start]
  split <;> next accepted => simp only [accepted, Beginning.flights, Progress.flights, and_self]

/-- Only a fetch that succeeds gives a path. -/
theorem Store.isOk_of_land {store after : Store} {flight : Flight} {outcome : FetchOutcome}
    {path : Text} (landed : store.land flight outcome = (after, .ok path)) :
    outcome.isOk = true := by
  cases outcome with
  | ok image => rfl
  | error fault =>
      cases reserved : flight.reserved with
      | none => simp [land, Sink.land_failed_bare _ fault reserved] at landed
      | some place => simp [land, Sink.land_failed_reserved _ fault reserved] at landed

namespace Account

/-- From an account, steps lead to a sink with given flights under way; `failed` tells whether a
fetch may have failed on the way. -/
def Leads (start : Account) (sink : Sink) (flights : List Flight) (failed : Bool) : Prop :=
  ∃ a, Reaches start a ∧ a.sink = sink ∧ a.holds = Flight.holds flights ∧
    a.drained = start.drained ∧ (failed = false → a.lost = start.lost)

namespace Leads

variable {start : Account} {store : Store} {flights : List Flight} {failed : Bool}

/-- Tasks that have had no turn wait for nothing. -/
theorem ready {sink : Sink} {drained : List Entry} (todos : List (List Request)) :
    Leads { sink := sink, drained := drained } sink ((todos.map Task.ready).flatMap Task.flights)
      ((todos.map Task.ready).any Task.isFailed) := by
  have none_flying : (todos.map Task.ready).flatMap Task.flights = [] := by
    simp [List.flatMap_map, Task.flights]
  have none_failed : (todos.map Task.ready).any Task.isFailed = false := by
    simp [Task.isFailed]
  rw [none_flying, none_failed]
  exact ⟨_, .refl, rfl, rfl, rfl, fun _ => rfl⟩

private theorem perm {sink : Sink} {other : List Flight} (leads : start.Leads sink flights failed)
    (same : flights.Perm other) : start.Leads sink other failed := by
  obtain ⟨a, reached, isSink, holds, drained, lost⟩ := leads
  exact ⟨a, reached, isSink, holds.trans (Flight.holds_perm same), drained, lost⟩

private theorem weaken {sink : Sink} (leads : start.Leads sink flights failed) {more : Bool}
    (implied : more = false → failed = false) : start.Leads sink flights more := by
  obtain ⟨a, reached, isSink, holds, drained, lost⟩ := leads
  exact ⟨a, reached, isSink, holds, drained, fun none => lost (implied none)⟩

private theorem begin (leads : start.Leads store.sink flights failed) (fetcher : Option Fetcher)
    (request : Request) :
    start.Leads (store.start fetcher request).1.sink
      ((store.start fetcher request).2.flights ++ flights) failed := by
  obtain ⟨a, reached, isSink, holds, drained, lost⟩ := leads
  cases fetcher with
  | none =>
      refine ⟨_, reached.trans (a.reaches_defer request), ?_, ?_, drained, lost⟩
      · simp only [serve, Store.start, isSink]
      · simp only [serve, Store.start, Progress.flights, Beginning.flights, Flight.holds_nil,
          zero_add, List.nil_append, holds]
  | some fetch =>
      obtain ⟨sameSink, sameFlights⟩ := store.start_accepts fetch request
      refine ⟨_, reached.trans (a.reaches_accept request), ?_, ?_, drained, lost⟩
      · simp only [serve, isSink, sameSink]
      · simp only [serve, isSink, holds, sameFlights, Flight.holds_append]

private theorem land {flight : Flight} (leads : start.Leads store.sink (flight :: flights) failed)
    (outcome : FetchOutcome) :
    start.Leads (store.land flight outcome).1.sink flights (failed || !outcome.isOk) := by
  obtain ⟨a, reached, isSink, holds, drained, lost⟩ := leads
  have split : a.holds = Flight.holds [flight] + Flight.holds flights := by
    rw [holds, ← Flight.holds_append, List.singleton_append]
  refine ⟨_, reached.trans (a.reaches_land (split ▸ Multiset.le_add_right _ _) outcome), ?_, ?_,
    drained, ?_⟩
  · simp only [Account.land, Store.land, isSink]
  · simp only [Account.land, split, add_tsub_cancel_left]
  · intro none_failed
    rw [Bool.or_eq_false_iff] at none_failed
    cases outcome with
    | ok image => simpa [Account.land, losses] using lost none_failed.1
    | error fault => cases none_failed.2

/-- Running a task leads on, with the flight it waits for in the end. -/
theorem run (fetcher : Option Fetcher) (paths : List Text) (todo : List Request)
    (leads : start.Leads store.sink flights failed) :
    start.Leads (Task.run fetcher store paths todo).1.sink
      ((Task.run fetcher store paths todo).2.flights ++ flights)
      (failed || (Task.run fetcher store paths todo).2.isFailed) := by
  fun_induction Task.run fetcher store paths todo with
  | case1 => exact leads.weaken (by simp [Task.isFailed])
  | case2 store paths request todo next path begun ih =>
      have began := leads.begin fetcher request
      rw [begun] at began
      exact ih began
  | case3 store paths request todo next fault begun =>
      have began := leads.begin fetcher request
      rw [begun] at began
      exact began.weaken (by simp [Task.isFailed])
  | case4 store paths request todo next flight outcome begun after path landed ih =>
      have began := leads.begin fetcher request
      rw [begun] at began
      have ended := began.land outcome
      rw [landed] at ended
      rw [Store.isOk_of_land landed] at ended
      exact ih (ended.weaken (by simp))
  | case5 store paths request todo next flight outcome begun after fault landed =>
      have began := leads.begin fetcher request
      rw [begun] at began
      have ended := began.land outcome
      rw [landed] at ended
      exact ended.weaken (by simp [Task.isFailed])
  | case6 store paths request todo next flight turns outcome begun =>
      have began := leads.begin fetcher request
      rw [begun] at began
      exact began.weaken (by simp [Task.isFailed])

private theorem resume (fetcher : Option Fetcher) (task : Task)
    (leads : start.Leads store.sink (task.flights ++ flights) (failed || task.isFailed)) :
    start.Leads (task.resume fetcher store).1.sink
      ((task.resume fetcher store).2.flights ++ flights)
      (failed || (task.resume fetcher store).2.isFailed) := by
  cases task with
  | ready todo => exact (leads.weaken (by simp [Task.isFailed])).run fetcher [] todo
  | finished paths => exact leads
  | failed fault => exact leads
  | waiting flight outcome turns paths todo =>
      cases turns with
      | succ turns => exact leads
      | zero =>
          have ended := leads.land outcome
          simp only [Task.resume]
          split
          · next landed =>
            rw [landed, Store.isOk_of_land landed] at ended
            exact (ended.weaken (by simp [Task.isFailed])).run fetcher _ todo
          · next landed =>
            rw [landed] at ended
            exact ended.weaken (by simp [Task.isFailed])

/-- The flights of tasks of which one is replaced. -/
theorem flights_set {tasks : List Task} {index : Nat} {task : Task}
    (there : tasks[index]? = some task) (other : Task) :
    ((tasks.set index other).flatMap Task.flights).Perm
        (other.flights ++ (tasks.eraseIdx index).flatMap Task.flights) ∧
      (tasks.set index other).any Task.isFailed =
        ((tasks.eraseIdx index).any Task.isFailed || other.isFailed) := by
  obtain ⟨inside, -⟩ := List.getElem?_eq_some_iff.mp there
  have perm := List.set_perm_cons_eraseIdx inside other
  exact ⟨perm.flatMap_right _, (perm.any_eq).trans (by simp [Bool.or_comm])⟩

private theorem takeTurn (pool : Store × List Task) (turn : Turn)
    (leads : start.Leads pool.1.sink (pool.2.flatMap Task.flights) (pool.2.any Task.isFailed)) :
    start.Leads (takeTurn pool turn).1.sink ((takeTurn pool turn).2.flatMap Task.flights)
      ((takeTurn pool turn).2.any Task.isFailed) := by
  cases there : pool.2[turn.task]? with
  | none => simpa only [Asset.takeTurn, there] using leads
  | some task =>
      have unchanged : pool.2.set turn.task task = pool.2 := by
        obtain ⟨inside, rfl⟩ := List.getElem?_eq_some_iff.mp there
        exact List.set_getElem_self inside
      obtain ⟨before, failedBefore⟩ := flights_set there task
      obtain ⟨after, failedAfter⟩ := flights_set there (task.resume turn.fetcher pool.1).2
      rw [unchanged] at before failedBefore
      rw [failedBefore] at leads
      simp only [Asset.takeTurn, there, failedAfter]
      exact ((leads.perm before).resume turn.fetcher task).perm after.symm

/-- Turns of tasks keep what their flights lead to. -/
theorem takeTurns (pool : Store × List Task) (turns : List Turn)
    (leads : start.Leads pool.1.sink (pool.2.flatMap Task.flights) (pool.2.any Task.isFailed)) :
    start.Leads (takeTurns pool turns).1.sink ((takeTurns pool turns).2.flatMap Task.flights)
      ((takeTurns pool turns).2.any Task.isFailed) := by
  induction turns generalizing pool with
  | nil => exact leads
  | cons turn rest ih => exact ih _ (leads.takeTurn pool turn)

end Leads
end Account

/-- Every record of a sink is the path of one of some entries. -/
def Sink.Covered (sink : Sink) (entries : List Entry) : Prop :=
  ∀ owner key path, sink.record? owner key = some path → ∃ entry ∈ entries, entry.path = path

/-- Every name that is held by a flight of tasks is the path of one of some entries. -/
def Task.FlightsCovered (tasks : List Task) (entries : List Entry) : Prop :=
  ∀ task ∈ tasks, ∀ flight ∈ task.flights, ∀ path order, flight.reserved = some (path, order) →
    ∃ entry ∈ entries, entry.path = path

/-- After any schedule of tasks that start afresh, old records and the flights that tasks wait for
are all that can keep a record from having an entry. -/
theorem takeTurns_covered_iff (todos : List (List Request)) (store : Store)
    (drained : List Entry) (turns : List Turn) :
    (takeTurns (store, todos.map Task.ready) turns).1.sink.Covered
        (drained ++ (takeTurns (store, todos.map Task.ready) turns).1.sink.entries) ↔
      store.sink.Covered
          (drained ++ (takeTurns (store, todos.map Task.ready) turns).1.sink.entries) ∧
        Task.FlightsCovered (takeTurns (store, todos.map Task.ready) turns).2
          (drained ++ (takeTurns (store, todos.map Task.ready) turns).1.sink.entries) := by
  have led : Account.Leads { sink := store.sink, drained := drained } _ _ _ :=
    Account.Leads.takeTurns (store, todos.map Task.ready) turns (.ready todos)
  obtain ⟨a, reached, isSink, holds, isDrained, -⟩ := led
  have made : a.made =
      drained ++ (takeTurns (store, todos.map Task.ready) turns).1.sink.entries := by
    rw [Account.made, isSink, isDrained]
  have covered := reached.backed.records_have_entries_iff
  simp only [Account.HasEntry, made, isSink, holds] at covered
  rw [Sink.Covered, covered, Sink.Covered, Task.FlightsCovered]
  refine and_congr_right fun _ => ⟨?_, ?_⟩
  · intro all task member flight flying path order reserved
    refine all ⟨flight.owner, flight.canonical, path, order⟩ (Flight.mem_holds.mpr ⟨flight, ?_, ?_⟩)
    · exact List.mem_flatMap.mpr ⟨task, member, flying⟩
    · simp only [Flight.hold?, reserved, Option.map_some]
  · intro all hold member
    obtain ⟨flight, flying, held⟩ := Flight.mem_holds.mp member
    obtain ⟨task, inside, flying⟩ := List.mem_flatMap.mp flying
    obtain ⟨⟨path, order⟩, reserved, rfl⟩ := Option.map_eq_some_iff.mp held
    exact all task inside flight flying path order reserved

end ArticleMarkdown.Asset
