import ArticleMarkdown.Http.Client
import Mathlib.Data.List.Basic

/-!
# Attempts at fetching

An answer is taken exactly if it tells success and its body arrives whole within the limit; neither
the announcement of the body nor the pieces in which it arrives decide anything
(`Response.Brings.image_eq_ok_iff`). Attempts follow each other up to the first that succeeds or to
the last that is allowed (`attempts_runsTo`); `fetch_makes_attempts` puts both together, for every
transport. The answers that the client of a scripted server gives arrive whole
(`Client.brings_of_send`).
-/

namespace ArticleMarkdown.Http

open Asset

/-! ## The verdict on an answer -/

/-- A body is received exactly if all its pieces arrive and are within the limit together, however
the body is cut. -/
theorem receive_eq_ok_iff {maxBytes : Nat} {received body : Bytes}
    (within : received.length ≤ maxBytes) (pieces : List (Except Text Bytes)) :
    receive maxBytes received pieces = .ok body ↔
      ∃ arrived : List Bytes, pieces = arrived.map .ok ∧ body = received ++ arrived.flatten ∧
        body.length ≤ maxBytes := by
  induction pieces generalizing received with
  | nil =>
      constructor
      · intro same
        cases same
        exact ⟨[], rfl, (List.append_nil _).symm, within⟩
      · rintro ⟨arrived, none, rfl, -⟩
        rw [List.map_eq_nil_iff.mp none.symm, List.flatten_nil, List.append_nil, receive]
  | cons piece rest ih =>
      cases piece with
      | error reason =>
          rw [receive]
          constructor
          · intro impossible
            cases impossible
          · rintro ⟨_ | ⟨first, others⟩, same, -⟩ <;> cases same
      | ok piece =>
          rw [receive]
          by_cases passed : maxBytes < received.length + piece.length
          · rw [if_pos passed]
            constructor
            · intro impossible
              cases impossible
            · rintro ⟨_ | ⟨first, others⟩, same, rfl, most⟩
              · cases same
              · cases same
                simp only [List.flatten_cons, List.length_append] at most
                omega
          · have still : (received ++ piece).length ≤ maxBytes := by
              rw [List.length_append]
              exact Nat.not_lt.mp passed
            rw [if_neg passed, ih still]
            constructor
            · rintro ⟨arrived, rfl, rfl, most⟩
              exact ⟨piece :: arrived, rfl, by simp, most⟩
            · rintro ⟨_ | ⟨first, others⟩, same, rfl, most⟩
              · cases same
              · cases same
                exact ⟨others, rfl, by simp, most⟩

/-- An answer is taken exactly if it tells success, announces no length beyond the limit, and its
body arrives whole within the limit. -/
theorem image_eq_ok_iff {maxBytes : Nat} {url : Text} {response : Response}
    {fetched : FetchedImage} :
    image maxBytes url response = .ok fetched ↔
      response.isSuccess = true ∧ response.announced.getD 0 ≤ maxBytes ∧
        ∃ arrived : List Bytes, response.pieces = arrived.map .ok ∧
          arrived.flatten.length ≤ maxBytes ∧
          fetched = ⟨arrived.flatten, mediaType url response⟩ := by
  have start : ([] : Bytes).length ≤ maxBytes := Nat.zero_le maxBytes
  rw [image]
  cases response.isSuccess with
  | false => simp
  | true =>
      by_cases beyond : maxBytes < response.announced.getD 0
      · simp [beyond, Nat.not_le.mpr beyond]
      · have received (body : Bytes) : receive maxBytes [] response.pieces = .ok body ↔
            ∃ arrived : List Bytes, response.pieces = arrived.map .ok ∧ body = arrived.flatten ∧
              body.length ≤ maxBytes :=
          receive_eq_ok_iff start response.pieces
        simp only [Bool.not_true, Bool.false_eq_true, if_false, beyond, Nat.not_lt.mp beyond,
          true_and]
        constructor
        · intro taken
          cases comes : receive maxBytes [] response.pieces with
          | error failure =>
              rw [comes] at taken
              cases taken
          | ok body =>
              rw [comes] at taken
              cases taken
              obtain ⟨arrived, whole, rfl, most⟩ := (received body).mp comes
              exact ⟨arrived, whole, most, rfl⟩
        · rintro ⟨arrived, whole, most, rfl⟩
          rw [(received _).mpr ⟨arrived, whole, rfl, most⟩]
          rfl

/-- An answer whose body arrives whole, in some pieces, and is as long as it was announced to be if
it was. -/
structure Response.Brings (response : Response) (body : Bytes) : Prop where
  whole : ∃ arrived : List Bytes, response.pieces = arrived.map .ok ∧ arrived.flatten = body
  announced : ∀ length ∈ response.announced, length = body.length

/-- Of an answer that brings a body, the status and the length of the body decide alone. -/
theorem Response.Brings.image_eq_ok_iff {maxBytes : Nat} {url : Text} {response : Response}
    {body : Bytes} {fetched : FetchedImage} (brings : response.Brings body) :
    image maxBytes url response = .ok fetched ↔
      (200 ≤ response.status ∧ response.status ≤ 299) ∧ body.length ≤ maxBytes ∧
        fetched = ⟨body, mediaType url response⟩ := by
  obtain ⟨⟨pieces, cut, rfl⟩, announced⟩ := brings
  have success : response.isSuccess = true ↔ 200 ≤ response.status ∧ response.status ≤ 299 := by
    rw [Response.isSuccess, Bool.and_eq_true, decide_eq_true_eq, decide_eq_true_eq]
  rw [Http.image_eq_ok_iff, success]
  refine and_congr_right fun _ => ⟨?_, ?_⟩
  · rintro ⟨-, arrived, whole, most, rfl⟩
    have same : arrived = pieces :=
      List.map_injective_iff.mpr (fun _ _ => Except.ok.inj) (whole.symm.trans cut)
    subst same
    exact ⟨most, rfl⟩
  · rintro ⟨most, rfl⟩
    refine ⟨?_, pieces, cut, most, rfl⟩
    cases told : response.announced with
    | none => exact Nat.zero_le maxBytes
    | some length => exact Nat.le_trans (Nat.le_of_eq (announced length told)) most

/-! ## Attempts -/

section Attempts

variable {σ : Type} {send : Transport σ} {maxBytes : Nat} {url : Text} {world : σ}

/-- What an attempt sends. -/
def requestFor (url : Text) : Request :=
  ⟨url, userAgent, accept⟩

private theorem attempt_of_answer {response : Response}
    (answers : (send world (requestFor url)).1 = .ok response) :
    (attempt send maxBytes url world).1 = image maxBytes url response := by
  unfold attempt
  split
  · next sends =>
    rw [requestFor, sends] at answers
    cases answers
  · next sends =>
    rw [requestFor, sends] at answers
    cases answers
    rfl

private theorem attempt_of_silence {reason : Text}
    (fails : (send world (requestFor url)).1 = .error reason) :
    (attempt send maxBytes url world).1 = .error (.unsent reason) := by
  unfold attempt
  split
  · next sends =>
    rw [requestFor, sends] at fails
    cases fails
    rfl
  · next sends =>
    rw [requestFor, sends] at fails
    cases fails

/-- An attempt changes the world by what it sends alone. -/
theorem attempt_world (send : Transport σ) (maxBytes : Nat) (url : Text) (world : σ) :
    (attempt send maxBytes url world).2 = (send world (requestFor url)).2 := by
  unfold attempt
  split
  · next sends => rw [requestFor, sends]
  · next sends => rw [requestFor, sends]

/-- No attempt succeeds whose answer has a body that breaks off. -/
theorem attempt_of_broken {response : Response} {reason : Text}
    (answers : (send world (requestFor url)).1 = .ok response)
    (breaks : .error reason ∈ response.pieces) :
    ∃ failure, (attempt send maxBytes url world).1 = .error failure := by
  rw [attempt_of_answer answers]
  cases comes : image maxBytes url response with
  | error failure => exact ⟨failure, rfl⟩
  | ok fetched =>
      obtain ⟨-, -, arrived, whole, -⟩ := image_eq_ok_iff.mp comes
      rw [whole] at breaks
      obtain ⟨piece, -, impossible⟩ := List.mem_map.mp breaks
      cases impossible

/-- The world after a number of attempts. -/
def worldAfter (send : Transport σ) (url : Text) (world : σ) : (attempts : Nat) → σ
  | 0 => world
  | attempts + 1 => (send (worldAfter send url world attempts) (requestFor url)).2

/-- After the first attempt, the others start in the world that it left. -/
theorem worldAfter_succ (send : Transport σ) (url : Text) (world : σ) (attempts : Nat) :
    worldAfter send url world (attempts + 1) =
      worldAfter send url (send world (requestFor url)).2 attempts := by
  induction attempts with
  | zero => rfl
  | succ attempts ih => rw [worldAfter, ih, worldAfter]

/-- Attempts of which all but the last fail, and whose outcome is that of the last. -/
structure RunsTo (send : Transport σ) (maxBytes : Nat) (url : Text) (world : σ) (failed : Nat)
    (course : Course σ Failure) : Prop where
  fails : ∀ earlier < failed, ∃ failure,
    (attempt send maxBytes url (worldAfter send url world earlier)).1 = .error failure
  attempts : course.attempts = failed + 1
  leaves : course.world = worldAfter send url world (failed + 1)
  outcome : course.outcome = (attempt send maxBytes url (worldAfter send url world failed)).1

private theorem RunsTo.first :
    RunsTo send maxBytes url world 0
      ⟨1, (attempt send maxBytes url world).2, (attempt send maxBytes url world).1⟩ where
  fails earlier none := absurd none (Nat.not_lt_zero earlier)
  attempts := rfl
  leaves := attempt_world send maxBytes url world
  outcome := rfl

/-- A failed attempt in front of attempts in the world that it left. -/
theorem RunsTo.cons {failure : Failure} {failed : Nat} {later : Course σ Failure}
    (fails : (attempt send maxBytes url world).1 = .error failure)
    (run : RunsTo send maxBytes url (attempt send maxBytes url world).2 failed later) :
    RunsTo send maxBytes url world (failed + 1)
      { later with attempts := later.attempts + 1 } := by
  rw [attempt_world] at run
  refine ⟨fun earlier before => ?_, congrArg (· + 1) run.attempts, ?_, ?_⟩
  · cases earlier with
    | zero => exact ⟨failure, fails⟩
    | succ earlier =>
        rw [worldAfter_succ]
        exact run.fails earlier (Nat.lt_of_succ_lt_succ before)
  · rw [worldAfter_succ]
    exact run.leaves
  · rw [worldAfter_succ]
    exact run.outcome

/-- Attempts end with the first that succeeds, or with the last. -/
theorem attempts_runsTo (send : Transport σ) (maxBytes : Nat) (url : Text) (further : Nat)
    (world : σ) :
    ∃ failed ≤ further,
      RunsTo send maxBytes url world failed (attempts send maxBytes url further world) ∧
        (failed = further ∨ ∃ fetched, (attempts send maxBytes url further world).outcome =
          .ok fetched) := by
  induction further generalizing world with
  | zero => exact ⟨0, Nat.le_refl 0, .first, .inl rfl⟩
  | succ further ih =>
      have first : RunsTo send maxBytes url world 0 _ := .first
      simp only [attempts]
      rcases made : attempt send maxBytes url world with ⟨failure | fetched, after⟩
      · obtain ⟨failed, most, run, ends⟩ := ih after
        have fails : (attempt send maxBytes url world).1 = .error failure := congrArg Prod.fst made
        have left : after = (attempt send maxBytes url world).2 := congrArg Prod.snd made.symm
        subst left
        exact ⟨failed + 1, Nat.succ_le_succ most, run.cons fails,
          ends.imp_left (congrArg (· + 1))⟩
      · rw [made] at first
        exact ⟨0, Nat.zero_le _, first, .inr ⟨fetched, rfl⟩⟩

/-- Fetching makes attempts up to the first that succeeds, and at most the allowed number. When all
fail, the fault tells their number and the message of the last. An attempt to which no answer comes
fails. One to which an answer comes that brings a body succeeds exactly when the answer tells
success and the body is within the limit, and gives the body as it is. -/
theorem fetch_makes_attempts (send : Transport σ) (limits : Limits) (url : Text) (world : σ) :
    let most := max 1 limits.maxAttempts
    let before := worldAfter send url world
    let nth := fun n => (attempt send limits.maxBytes url (before n)).1
    let course := fetch send limits url world
    (∃ failed < most,
      (∀ earlier < failed, ∃ failure, nth earlier = .error failure) ∧
        course.attempts = failed + 1 ∧ course.world = before (failed + 1) ∧
        ((∃ fetched, nth failed = .ok fetched ∧ course.outcome = .ok fetched) ∨
          failed + 1 = most ∧ ∃ failure, nth failed = .error failure ∧
            course.outcome = .error (.unreachable url most failure.message))) ∧
      ∀ n,
        (∀ reason, (send (before n) (requestFor url)).1 = .error reason →
          nth n = .error (.unsent reason)) ∧
        ∀ response body, (send (before n) (requestFor url)).1 = .ok response →
          response.Brings body → ∀ fetched,
            nth n = .ok fetched ↔
              (200 ≤ response.status ∧ response.status ≤ 299) ∧ body.length ≤ limits.maxBytes ∧
                fetched = ⟨body, mediaType url response⟩ := by
  intro most before nth course
  refine ⟨?_, fun n => ⟨fun reason fails => attempt_of_silence fails,
    fun response body answers brings fetched => ?_⟩⟩
  · obtain ⟨failed, bound, run, ends⟩ :=
      attempts_runsTo send limits.maxBytes url (most - 1) world
    have within : failed < most := by omega
    refine ⟨failed, within, run.fails, run.attempts, run.leaves, ?_⟩
    have outcome : course.outcome = (nth failed).mapError fun failure =>
        .unreachable url most failure.message := by
      rw [show nth failed = _ from run.outcome.symm]
      rfl
    rw [outcome]
    cases last : nth failed with
    | ok fetched => exact .inl ⟨fetched, rfl, rfl⟩
    | error failure =>
        have final : failed = most - 1 := by
          refine ends.resolve_right ?_
          rintro ⟨fetched, succeeds⟩
          rw [run.outcome] at succeeds
          cases last.symm.trans succeeds
        exact .inr ⟨by omega, failure, rfl, rfl⟩
  · rw [show nth n = _ from attempt_of_answer answers]
    exact brings.image_eq_ok_iff

/-- A transport to which laid down answers come, one after another. -/
def laidDown : Transport (List (Except Text Response))
  | [], _ => (.error "connection refused".toList, [])
  | first :: rest, _ => (first, rest)

/-- An image of three bytes whose length is not announced, in two pieces. -/
def cutImage : Response :=
  { status := 200, pieces := [.ok [1, 2], .ok [3]] }

/-- Before an image comes, a request times out, an answer tells that there is no service, and a body
breaks off. -/
def troubled : List (Except Text Response) :=
  [.error "operation timed out".toList, .ok { status := 503 },
    .ok { status := 200, announced := some 3, pieces := [.ok [1], .error "closed".toList] },
    .ok cutImage]

/-- The fourth attempt succeeds with a body that is just as long as it may be. With three attempts
the fault tells why the third failed. -/
theorem fetch_makes_attempts_troubled :
    let url := "http://[::1]/a.png".toList
    let patient := fetch laidDown { maxAttempts := 4, maxBytes := 3 } url troubled
    let hasty := fetch laidDown { maxAttempts := 3, maxBytes := 3 } url troubled
    (attempt laidDown 3 url (worldAfter laidDown url troubled 3)).1 =
        .ok ⟨[1, 2, 3], "image/png".toList⟩ ∧
      (patient.attempts = 4 ∧ patient.outcome = .ok ⟨[1, 2, 3], "image/png".toList⟩) ∧
      hasty.outcome = .error (.unreachable url 3 "failed to read body: closed".toList) := by
  intro url patient hasty
  have brings : cutImage.Brings [1, 2, 3] := ⟨⟨[[1, 2], [3]], rfl, rfl⟩, nofun⟩
  have verdict :=
    ((fetch_makes_attempts laidDown { maxAttempts := 4, maxBytes := 3 } url troubled).2 3).2
      cutImage [1, 2, 3] rfl brings
  have type : mediaType url cutImage = "image/png".toList := by decide +kernel
  refine ⟨(verdict _).mpr ⟨by decide, by decide, ?_⟩, by decide +kernel, by decide +kernel⟩
  rw [type]

end Attempts

/-! ## The client of a scripted server -/

namespace Client

private theorem mem_of_next? {answers left : List Answer} {answer : Answer}
    (next : next? answers = some (answer, left)) :
    answer ∈ answers ∧ ∀ other ∈ left, other ∈ answers := by
  match answers with
  | [last] =>
      cases next
      exact ⟨List.mem_cons_self, fun _ member => member⟩
  | first :: second :: rest =>
      cases next
      exact ⟨List.mem_cons_self, fun _ member => List.mem_cons_of_mem _ member⟩

/-- What is answered in the end is one of the answers that are laid down. -/
theorem mem_of_ask {serves : Url.Resource → Bool} {request : Request} {redirects : Nat}
    {resource : Url.Resource} {world : World} {answer : Answer}
    (answers : (ask serves request redirects resource world).1 = .ok answer) :
    answer ∈ world.answers := by
  fun_induction ask serves request redirects resource world with
  | case1 | case2 | case3 | case5 => cases answers
  | case4 redirects resource world _ _ given left next =>
      cases answers
      exact (mem_of_next? next).1
  | case6 resource world _ _ given left next _ _ place redirects _ ih =>
      exact (mem_of_next? next).2 _ (ih answers)

/-- Whatever the client gets as an answer arrives whole, and as long as it was announced. -/
theorem brings_of_send {serves : Url.Resource → Bool} {world : World} {request : Request}
    {response : Response} (answers : (send serves world request).1 = .ok response) :
    ∃ answer ∈ world.answers, response = answer.response ∧ response.Brings answer.content := by
  unfold send at answers
  split at answers
  · cases answers
  · next resource _ =>
    rcases asks : ask serves request maxRedirects resource.withoutUser world with ⟨result, after⟩
    rw [asks] at answers
    cases result with
    | error reason => cases answers
    | ok answer =>
        cases answers
        have first := congrArg Prod.fst asks
        refine ⟨answer, mem_of_ask first, rfl, ⟨[answer.content], rfl, by simp⟩, ?_⟩
        intro length told
        unfold Answer.response at told
        split at told
        · cases told
          rfl
        · cases told

end Client
end ArticleMarkdown.Http
