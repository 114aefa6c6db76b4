import ArticleMarkdown.Asset.Task
import ArticleMarkdown.Proofs.Asset.Plan

/-!
# Rounds come to an end

The turns that tasks still take together are bounded by the waits of the fetches they still make.
Every turn of a task that has not ended uses up one of them, so rounds run until every task has
ended, or one has failed where that ends them.
-/

namespace ArticleMarkdown.Asset

variable {fetcher : Option Fetcher}

private theorem Sink.address_of_inquire {sink : Sink}
    {asked directory namePrefix address canonical : Text}
    {owner : Owner}
    (wanted : sink.inquire asked directory namePrefix = .wanted address canonical owner) :
    address = Text.trim asked := by
  rw [inquire_eq] at wanted
  split at wanted
  · cases wanted
  · cases wanted
  · injection wanted with same
    exact same.symm

/-- A flight goes to the address that its request asks for. -/
theorem Sink.address_of_accept {sink after : Sink} {request : Request} {flight : Flight}
    (accepted : sink.accept request = (after, .fetching flight)) :
    ∃ address directory namePrefix, request = .image address directory namePrefix ∧
      flight.address = Text.trim address := by
  cases request with
  | drawing markup directory namePrefix => cases accepted
  | image address directory namePrefix =>
      refine ⟨address, directory, namePrefix, rfl, ?_⟩
      simp only [accept, acceptImage] at accepted
      split at accepted
      · cases accepted
      · next wanted =>
        split at accepted
        · cases accepted
          exact address_of_inquire wanted
        · cases accepted
          exact address_of_inquire wanted

private theorem Store.waits_of_start {store after : Store} {request : Request} {flight : Flight}
    {reply : Reply} (begun : store.start fetcher request = (after, .awaiting flight reply)) :
    Task.requestWaits fetcher request = reply.waits := by
  cases fetcher with
  | none => cases begun
  | some fetch =>
      simp only [start] at begun
      split at begun
      · cases begun
      · next accepted =>
        cases begun
        obtain ⟨address, directory, namePrefix, rfl, same⟩ := Sink.address_of_accept accepted
        simp only [Task.requestWaits, same, Option.map_some, Option.getD_some]

/-- A task that runs waits no longer than its requests do. -/
theorem Task.turnsLeft_run (store : Store) (paths : List Text) (todo : List Request) :
    turnsLeft fetcher (run fetcher store paths todo).2 ≤ requestsWait fetcher todo := by
  fun_induction run fetcher store paths todo with
  | case1 => exact Nat.le_refl _
  | case2 store paths request todo after path begun ih =>
      exact Nat.le_trans ih (Nat.le_add_left _ _)
  | case3 => exact Nat.zero_le _
  | case4 store paths request todo next flight outcome begun after path landed ih =>
      exact Nat.le_trans ih (Nat.le_add_left _ _)
  | case5 => exact Nat.zero_le _
  | case6 store paths request todo after flight turns outcome begun =>
      have waits := Store.waits_of_start begun
      simp only [turnsLeft, requestsWait, waits]
      omega

/-- A turn of a task that has not ended is one turn less. -/
theorem Task.turnsLeft_resume (store : Store) {task : Task} (unfinished : task.isOver = false) :
    turnsLeft fetcher (task.resume fetcher store).2 < turnsLeft fetcher task := by
  cases task with
  | finished paths => cases unfinished
  | failed fault => cases unfinished
  | ready todo =>
      calc turnsLeft fetcher (run fetcher store [] todo).2
          ≤ requestsWait fetcher todo := turnsLeft_run store [] todo
        _ < 1 + requestsWait fetcher todo := by omega
  | waiting flight outcome turns paths todo =>
      cases turns with
      | succ turns =>
          simp only [resume, turnsLeft]
          omega
      | zero =>
          simp only [resume]
          split
          · next after path landed =>
            calc turnsLeft fetcher (run fetcher after (paths ++ [path]) todo).2
                ≤ requestsWait fetcher todo := turnsLeft_run after _ todo
              _ < 1 + 0 + requestsWait fetcher todo := by omega
          · simp only [turnsLeft]
            omega

private theorem Task.resume_of_isOver (store : Store) {task : Task}
    (hasEnded : task.isOver = true) :
    task.resume fetcher store = (store, task) := by
  cases task with
  | finished | failed => rfl
  | ready | waiting => cases hasEnded

private theorem Task.isOver_of_turnsLeft {task : Task} (none_left : turnsLeft fetcher task = 0) :
    task.isOver = true := by
  cases task with
  | finished | failed => rfl
  | ready todo => simp [turnsLeft] at none_left
  | waiting flight outcome turns paths todo => simp [turnsLeft] at none_left

/-- A round never adds turns. -/
theorem allTurnsLeft_runRound_le (fetcher : Option Fetcher) (stopAtFailure : Bool)
    (store : Store) (tasks : List Task) :
    Task.allTurnsLeft fetcher (runRound fetcher stopAtFailure store tasks).2 ≤
      Task.allTurnsLeft fetcher tasks := by
  induction tasks generalizing store with
  | nil => exact Nat.le_refl _
  | cons task rest ih =>
      have turn : (task.resume fetcher store).2.turnsLeft fetcher ≤ task.turnsLeft fetcher := by
        by_cases hasEnded : task.isOver = true
        · simp only [Task.resume_of_isOver store hasEnded, Nat.le_refl]
        · exact Nat.le_of_lt (Task.turnsLeft_resume store (Bool.eq_false_iff.mpr hasEnded))
      have later := ih (task.resume fetcher store).1
      simp only [runRound]
      split
      · simp only [Task.allTurnsLeft]
        omega
      · simp only [Task.allTurnsLeft]
        omega

/-- A round uses up turns, unless all tasks have ended or a failure ends the round. -/
theorem allTurnsLeft_runRound_lt (fetcher : Option Fetcher) (stopAtFailure : Bool)
    (store : Store) {tasks : List Task} (unfinished : tasks.all Task.isOver = false) :
    (stopAtFailure && (runRound fetcher stopAtFailure store tasks).2.any Task.isFailed) = true ∨
      Task.allTurnsLeft fetcher (runRound fetcher stopAtFailure store tasks).2 <
        Task.allTurnsLeft fetcher tasks := by
  induction tasks generalizing store with
  | nil => cases unfinished
  | cons task rest ih =>
      simp only [runRound]
      split
      · next stops =>
        rw [Bool.and_eq_true] at stops
        exact .inl (by simp [stops])
      · -- A task that has ended uses nothing up, so some later one must.
        by_cases hasEnded : task.isOver = true
        · rw [List.all_cons, hasEnded, Bool.true_and] at unfinished
          simp only [Task.resume_of_isOver store hasEnded]
          rcases ih store unfinished with stopped | fewer
          · rw [Bool.and_eq_true] at stopped
            obtain ⟨rfl, failed⟩ := stopped
            exact .inl (by rw [List.any_cons, failed, Bool.or_true, Bool.and_self])
          · right
            simp only [Task.allTurnsLeft]
            omega
        · have turn : (task.resume fetcher store).2.turnsLeft fetcher < task.turnsLeft fetcher :=
            Task.turnsLeft_resume store (Bool.eq_false_iff.mpr hasEnded)
          have later := allTurnsLeft_runRound_le fetcher stopAtFailure
            (task.resume fetcher store).1 rest
          right
          simp only [Task.allTurnsLeft]
          omega

private theorem all_isOver_of_turnsLeft {tasks : List Task}
    (none_left : Task.allTurnsLeft fetcher tasks = 0) :
    tasks.all Task.isOver = true := by
  induction tasks with
  | nil => rfl
  | cons task rest ih =>
      simp only [Task.allTurnsLeft] at none_left
      have first : task.turnsLeft fetcher = 0 := by omega
      have later : Task.allTurnsLeft fetcher rest = 0 := by omega
      rw [List.all_cons, Task.isOver_of_turnsLeft first, ih later, Bool.and_self]

private theorem runRoundsFor_of_ended {stopAtFailure : Bool} (rounds : Nat) (store : Store)
    {tasks : List Task}
    (ended : (tasks.all Task.isOver || (stopAtFailure && tasks.any Task.isFailed)) = true) :
    runRoundsFor fetcher stopAtFailure rounds store tasks = (store, tasks) := by
  cases rounds with
  | zero => rfl
  | succ rounds => simp only [runRoundsFor, ended, if_true]

private theorem runRoundsFor_end (stopAtFailure : Bool) {rounds : Nat} (store : Store)
    {tasks : List Task} (enough : Task.allTurnsLeft fetcher tasks ≤ rounds) :
    ((runRoundsFor fetcher stopAtFailure rounds store tasks).2.all Task.isOver ||
      (stopAtFailure &&
        (runRoundsFor fetcher stopAtFailure rounds store tasks).2.any Task.isFailed)) = true := by
  induction rounds generalizing store tasks with
  | zero =>
      simp only [runRoundsFor, all_isOver_of_turnsLeft (Nat.le_zero.mp enough), Bool.true_or]
  | succ rounds ih =>
      simp only [runRoundsFor]
      split
      · next ended => exact ended
      · next goes =>
        have unfinished : tasks.all Task.isOver = false := by
          rw [Bool.not_eq_true, Bool.or_eq_false_iff] at goes
          exact goes.1
        -- After a failure that ends them the rounds that are left change nothing.
        rcases allTurnsLeft_runRound_lt fetcher stopAtFailure store unfinished with stopped | fewer
        · rw [runRoundsFor_of_ended rounds _ (by rw [stopped, Bool.or_true])]
          rw [stopped, Bool.or_true]
        · exact ih _ (by omega)

/-- Rounds run until every task has ended, or until one has failed if that ends them. -/
theorem runRounds_end (fetcher : Option Fetcher) (stopAtFailure : Bool) (store : Store)
    (tasks : List Task) :
    ((runRounds fetcher stopAtFailure store tasks).2.all Task.isOver ||
      (stopAtFailure && (runRounds fetcher stopAtFailure store tasks).2.any Task.isFailed)) =
        true :=
  runRoundsFor_end stopAtFailure store (Nat.le_refl _)

end ArticleMarkdown.Asset
