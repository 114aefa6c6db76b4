import ArticleMarkdown.Proofs.Asset.Answer

/-!
# What files hold

An entry that a store makes for a request holds what was asked for: the markup of a drawing, the
address of an image that is to be fetched later, or the image that was fetched.
-/

namespace ArticleMarkdown.Asset

/-- What an entry that is made for a request can hold. -/
inductive Request.Stores (fetcher : Option Fetcher) : Request → Payload → Prop where
  | markup (markup directory namePrefix : Text) :
      Stores fetcher (.drawing markup directory namePrefix) (.text (Text.trim markup))
  | address (address directory namePrefix : Text) :
      Stores fetcher (.image address directory namePrefix) (.pending (Text.trim address))
  | image {address directory namePrefix : Text} {image : FetchedImage}
      (brings : Fetcher.outcome? fetcher (Text.trim address) = some (.ok image)) :
      Stores fetcher (.image address directory namePrefix) (.bytes image.body)

/-- A sink has more entries than another one, and these hold what is asked for. -/
def Sink.Gains (sink after : Sink) (holds : Payload → Prop) : Prop :=
  ∃ added, after.entries = sink.entries ++ added ∧ ∀ entry ∈ added, holds entry.payload

namespace Sink

variable {sink between after : Sink} {holds holds' : Payload → Prop}

private theorem Gains.of_same (same : after.entries = sink.entries) : sink.Gains after holds :=
  ⟨[], by rw [same, List.append_nil], nofun⟩

private theorem Gains.of_push {entry : Entry} (holds' : holds entry.payload)
    (same : between.entries = sink.entries) : sink.Gains (between.push entry) holds :=
  ⟨[entry], by rw [entries_push, same], List.forall_mem_singleton.mpr holds'⟩

private theorem Gains.trans (first : sink.Gains between holds)
    (second : between.Gains after holds) :
    sink.Gains after holds := by
  obtain ⟨added, entries, hold⟩ := first
  obtain ⟨later, entries', hold'⟩ := second
  refine ⟨added ++ later, ?_, List.forall_mem_append.mpr ⟨hold, hold'⟩⟩
  rw [entries', entries, List.append_assoc]

private theorem Gains.imp (gains : sink.Gains after holds)
    (weaker : ∀ {payload}, holds payload → holds' payload) : sink.Gains after holds' := by
  obtain ⟨added, entries, hold⟩ := gains
  exact ⟨added, entries, fun entry member => weaker (hold entry member)⟩

/-- A flight that is completed brings the fetched image, or nothing. -/
theorem gains_land (sink : Sink) (flight : Flight) (outcome : FetchOutcome) :
    sink.Gains (sink.land flight outcome).1
      fun payload => ∃ image, outcome = .ok image ∧ payload = .bytes image.body := by
  cases outcome with
  | error fault =>
      cases reserved : flight.reserved with
      | some name =>
          rw [land_failed_reserved sink fault reserved]
          exact .of_same (entries_forget _ _ _)
      | none =>
          rw [land_failed_bare sink fault reserved]
          exact .of_same rfl
  | ok image =>
      cases reserved : flight.reserved with
      | some name =>
          rw [land_reserved sink image reserved]
          exact .of_push ⟨image, rfl, rfl⟩ rfl
      | none =>
          cases known : sink.record? flight.owner (.image flight.canonical) with
          | some path =>
              rw [land_known sink image reserved known]
              exact .of_same rfl
          | none =>
              rw [land_fresh sink image reserved known]
              exact .of_push ⟨image, rfl, rfl⟩ (entries_grant _ _)

/-- A plan for a request makes an entry for it, or starts the fetch of its image. -/
theorem carryOut_plan (fetcher : Option Fetcher) (sink : Sink) (fetches : Bool) (request : Request)
    (s : Scope) :
    sink.Gains (sink.carryOut (s.plan fetches request)).1 (request.Stores fetcher) ∧
      ∀ flight, (sink.carryOut (s.plan fetches request)).2 = .fetching flight →
        ∃ address directory namePrefix, request = .image address directory namePrefix ∧
          flight.address = Text.trim address := by
  cases refused : request.fault? with
  | some fault =>
      rw [Scope.plan_of_fault fetches refused]
      exact ⟨.of_same rfl, fun flight started => by cases started⟩
  | none =>
  cases known : s.record? request.key with
  | some path =>
      rw [Scope.plan_of_record fetches refused known]
      exact ⟨.of_same rfl, fun flight started => by cases started⟩
  | none =>
  rw [Scope.plan_of_fresh fetches refused known]
  cases request with
  | drawing markup directory namePrefix =>
      exact ⟨.of_push (.markup _ _ _) (entries_grant _ _), fun flight started => by cases started⟩
  | image address directory namePrefix =>
      simp only [Request.freshPlan, Plan.ofImage]
      split
      · refine ⟨.of_same rfl, fun flight started => ⟨address, directory, namePrefix, rfl, ?_⟩⟩
        cases started
        rfl
      · refine ⟨.of_same (entries_grant _ _), fun flight started =>
          ⟨address, directory, namePrefix, rfl, ?_⟩⟩
        cases started
        rfl
      · refine ⟨.of_push (.address _ _ _) (entries_grant _ _), fun flight started => ?_⟩
        cases started

end Sink

namespace Store

/-- Entries are added for the request that is answered. -/
theorem gains_answer (fetcher : Option Fetcher) (store : Store) (request : Request) :
    store.sink.Gains (store.answer fetcher request).1.sink (request.Stores fetcher) := by
  cases fetcher with
  | none =>
      have served := store.sink.defer_eq_carryOut request
      obtain ⟨gains, -⟩ := Sink.carryOut_plan none store.sink false request
        (store.sink.scope request.owner)
      rw [← served] at gains
      rw [answer_none]
      exact gains
  | some fetch =>
      have served := store.sink.accept_eq_carryOut request
      obtain ⟨gains, fetching⟩ := Sink.carryOut_plan (some fetch) store.sink true request
        (store.sink.scope request.owner)
      rw [← served] at gains fetching
      rw [answer, start]
      cases accepted : store.sink.accept request with
      | mk after progress =>
          rw [accepted] at gains fetching
          cases progress with
          | answered result => exact gains
          | fetching flight =>
              obtain ⟨address, directory, namePrefix, rfl, same⟩ := fetching flight rfl
              refine gains.trans ((after.gains_land flight _).imp ?_)
              rintro payload ⟨image, outcome, rfl⟩
              refine .image ?_
              rw [Fetcher.outcome?, Option.map_some, ← same, outcome]

/-- Every entry that is added is made for one of the requests. -/
theorem gains_answerAll (fetcher : Option Fetcher) (store : Store) (requests : List Request) :
    store.sink.Gains (store.answerAll fetcher requests).1.sink
      fun payload => ∃ request ∈ requests, request.Stores fetcher payload := by
  induction requests generalizing store with
  | nil => exact .of_same rfl
  | cons request rest ih =>
      have first := (store.gains_answer fetcher request).imp
        fun stores => (⟨request, List.mem_cons_self, stores⟩ :
          ∃ other ∈ request :: rest, other.Stores fetcher _)
      rw [answerAll]
      cases answered : store.answer fetcher request with
      | mk between result =>
          rw [answered] at first
          cases result with
          | error fault => exact first
          | ok path =>
              refine first.trans ((ih between).imp ?_)
              rintro payload ⟨other, member, stores⟩
              exact ⟨other, List.mem_cons_of_mem _ member, stores⟩

end Store
end ArticleMarkdown.Asset
