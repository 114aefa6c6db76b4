import ArticleMarkdown.Proofs.Asset.Naming
import ArticleMarkdown.Proofs.Asset.Outlook

/-!
# Tasks of different owners

Tasks that share a store, each with an owner of its own, do not see each other: whatever the
schedule, each ends with the answers it would have had alone, and together they make the contents
that they would have made alone. Only the order of creation depends on the schedule.
-/

namespace ArticleMarkdown.Asset

variable {image : Text → FetchedImage} {owner : Nat → Owner}

/-- A turn in which every fetch succeeds, with given images. -/
def Turn.Brings (turn : Turn) (image : Text → FetchedImage) : Prop :=
  ∃ fetch : Fetcher, turn.fetcher = some fetch ∧ fetch.Brings image

/-- The outlooks of tasks, each with an owner of its own. -/
def outlooks (image : Text → FetchedImage) (owner : Nat → Owner) (pool : Store × List Task) :
    List Outlook :=
  pool.2.mapIdx fun index task => task.outlook image (pool.1.sink.scope (owner index))

/-- Tasks, each with an owner of its own, that will all have given answers, and with the sink's
entries given contents in some order. -/
structure Separate (image : Text → FetchedImage) (owner : Nat → Owner) (paths : List (List Text))
    (contents : List Content) (pool : Store × List Task) : Prop where
  belongs : ∀ index task, pool.2[index]? = some task → Task.Belongs image (owner index) task
  paths : (outlooks image owner pool).map Outlook.paths = paths
  contents : (pool.1.sink.contents ++
    (outlooks image owner pool).flatMap Outlook.contents).Perm contents

namespace Separate

variable {paths : List (List Text)} {contents : List Content} {pool : Store × List Task}

/-- A turn changes one outlook only. -/
theorem outlooks_takeTurn (injective : owner.Injective) {turn : Turn} {task : Task}
    (there : pool.2[turn.task]? = some task) {foreseen : Outlook}
    (advance : Advance image (owner turn.task) pool.1.sink foreseen
      (task.resume turn.fetcher pool.1).1.sink (task.resume turn.fetcher pool.1).2) :
    outlooks image owner (takeTurn pool turn) =
      (outlooks image owner pool).set turn.task
        ((task.resume turn.fetcher pool.1).2.outlook image
          ((task.resume turn.fetcher pool.1).1.sink.scope (owner turn.task))) := by
  obtain ⟨inside, -⟩ := List.getElem?_eq_some_iff.mp there
  apply List.ext_getElem?
  intro index
  simp only [outlooks, takeTurn, there, List.getElem?_mapIdx, List.getElem?_set,
    List.length_mapIdx, inside, if_true]
  by_cases same : turn.task = index
  · simp only [same, if_true, Option.map_some]
  · have different : owner index ≠ owner turn.task := fun equal => same (injective equal).symm
    simp only [same, if_false, advance.others _ different]

private theorem takeTurn (separate : Separate image owner paths contents pool)
    (injective : owner.Injective) {turn : Turn} (brings : turn.Brings image) :
    Separate image owner paths contents (takeTurn pool turn) := by
  cases there : pool.2[turn.task]? with
  | none => simpa only [Asset.takeTurn, there] using separate
  | some task =>
      obtain ⟨fetch, fetches, brings⟩ := brings
      have advance := task.resume_advances brings pool.1 (separate.belongs _ _ there)
      rw [← fetches] at advance
      have changed := outlooks_takeTurn injective there advance
      have before : (outlooks image owner pool)[turn.task]? =
          some (task.outlook image (pool.1.sink.scope (owner turn.task))) := by
        simp only [outlooks, List.getElem?_mapIdx, there, Option.map_some]
      obtain ⟨inside, isBefore⟩ := List.getElem?_eq_some_iff.mp before
      exact {
        belongs := fun index other found => by
          simp only [Asset.takeTurn, there] at found
          by_cases same : turn.task = index
          · subst same
            rw [List.getElem?_set_self (List.getElem?_eq_some_iff.mp there).1] at found
            cases found
            exact advance.belongs
          · rw [List.getElem?_set_ne same] at found
            exact separate.belongs index other found
        paths := by
          have mapped : turn.task < ((outlooks image owner pool).map Outlook.paths).length := by
            simpa only [List.length_map] using inside
          rw [changed, List.map_set, advance.paths, ← isBefore, ← separate.paths,
            ← List.getElem_map Outlook.paths (h := mapped), List.set_getElem_self]
        contents := by
          -- The outlook of the task that has its turn is brought to the front, before and after.
          refine List.Perm.trans ?_ separate.contents
          rw [changed]
          refine (((List.set_perm_cons_eraseIdx inside _).flatMap_right _).append_left _).trans ?_
          refine List.Perm.trans ?_
            (((List.getElem_cons_eraseIdx_perm inside).flatMap_right _).append_left _)
          have moved : (Asset.takeTurn pool turn).1 = (task.resume turn.fetcher pool.1).1 := by
            simp only [Asset.takeTurn, there]
          simp only [List.flatMap_cons, ← List.append_assoc, isBefore, moved, advance.contents]
          exact List.Perm.refl _ }

/-- Whatever the schedule, nothing that was foreseen changes. -/
theorem takeTurns (separate : Separate image owner paths contents pool)
    (injective : owner.Injective) {turns : List Turn}
    (brings : ∀ turn ∈ turns, turn.Brings image) :
    Separate image owner paths contents (takeTurns pool turns) := by
  induction turns generalizing pool with
  | nil => exact separate
  | cons turn rest ih =>
      obtain ⟨first, later⟩ := List.forall_mem_cons.mp brings
      exact ih (separate.takeTurn injective first) later

/-- On a new store, tasks will have the answers and make the contents that they would alone. -/
theorem initial {todos : List (List Request)}
    (proper : ∀ index todo, todos[index]? = some todo → Request.Proper (owner index) todo) :
    Separate image owner (todos.map fun todo => (Scope.servedAll image {} todo).paths)
      (todos.flatMap fun todo => (Scope.servedAll image {} todo).contents)
      ({}, todos.map Task.ready) := by
  have outlooks : outlooks image owner ({}, todos.map Task.ready) =
      todos.map (Scope.servedAll image {}) := by
    apply List.ext_getElem?
    intro index
    simp only [Asset.outlooks, List.getElem?_mapIdx, List.getElem?_map, Option.map_map]
    rfl
  exact {
    belongs := fun index task found => by
      rw [List.getElem?_map] at found
      obtain ⟨todo, there, rfl⟩ := Option.map_eq_some_iff.mp found
      exact proper index todo there
    paths := by rw [outlooks, List.map_map]; rfl
    contents := by rw [outlooks, List.flatMap_map]; rfl }

/-- No task has failed. -/
theorem none_failed (separate : Separate image owner paths contents pool) :
    pool.2.any Task.isFailed = false := by
  rw [List.any_eq_false]
  intro task member failed
  obtain ⟨index, there⟩ := List.mem_iff_getElem?.mp member
  have belongs := separate.belongs index task there
  cases task with
  | failed fault => exact belongs
  | ready | waiting | finished => cases failed

/-- Once all tasks have ended, they have the answers that were foreseen, and the sink's entries
have the contents that were. -/
theorem ended (separate : Separate image owner paths contents pool)
    (allOver : pool.2.all Task.isOver) :
    pool.2 = paths.map Task.finished ∧ pool.1.sink.contents.Perm contents := by
  have finished : ∀ (index : Nat) (task : Task), pool.2[index]? = some task →
      ∃ answers, task = Task.finished answers := by
    intro index task there
    have belongs := separate.belongs index task there
    have isOver := List.all_eq_true.mp allOver task (List.mem_of_getElem? there)
    cases task with
    | finished answers => exact ⟨answers, rfl⟩
    | failed fault => exact belongs.elim
    | ready | waiting => cases isOver
  constructor
  · rw [← separate.paths]
    apply List.ext_getElem?
    intro index
    simp only [outlooks, List.getElem?_map, List.getElem?_mapIdx, Option.map_map]
    cases there : pool.2[index]? with
    | none => rfl
    | some task =>
        obtain ⟨answers, rfl⟩ := finished index task there
        rfl
  · have nothing_left : (outlooks image owner pool).flatMap Outlook.contents = [] := by
      rw [List.flatMap_eq_nil_iff]
      intro outlook member
      obtain ⟨index, found⟩ := List.mem_iff_getElem?.mp member
      rw [outlooks, List.getElem?_mapIdx] at found
      obtain ⟨task, there, rfl⟩ := Option.map_eq_some_iff.mp found
      obtain ⟨answers, rfl⟩ := finished index task there
      rfl
    simpa only [nothing_left, List.append_nil] using separate.contents

end Separate

/-- Once tasks that share a new store have ended and none has failed, their entries have the places
from the first on. -/
theorem orders_of_ended {todos : List (List Request)} {turns : List Turn} {paths : List (List Text)}
    (ended : (takeTurns ({}, todos.map Task.ready) turns).2 = paths.map Task.finished) :
    ((takeTurns ({}, todos.map Task.ready) turns).1.sink.entries.map Entry.order).Perm
      (List.range (takeTurns ({}, todos.map Task.ready) turns).1.sink.entries.length) := by
  have led : Account.Leads {} _ _ _ :=
    Account.Leads.takeTurns ({}, todos.map Task.ready) turns (.ready todos)
  obtain ⟨a, reached, isSink, holds, isDrained, lost⟩ := led
  have landed : a.holds = 0 := by
    have none_flying : (paths.map Task.finished).flatMap Task.flights = [] := by
      simp [List.flatMap_map, Task.flights]
    rw [holds, ended, none_flying, Flight.holds_nil]
  have kept : a.lost = 0 := by
    apply lost
    rw [ended, List.any_map]
    simp [Function.comp_def, Task.isFailed]
  have made : a.made = (takeTurns ({}, todos.map Task.ready) turns).1.sink.entries := by
    rw [Account.made, isDrained, isSink]
    rfl
  exact made ▸ reached.named.orders_perm landed kept

end ArticleMarkdown.Asset
