import ArticleMarkdown.Proofs.Asset.Answer
import ArticleMarkdown.Proofs.Asset.Naming
import ArticleMarkdown.Proofs.Asset.Traffic

/-!
# Requests one after another

A session uses a store for one request at a time: each request is answered before the next one is
made, and between requests the entries are listed or handed out. A request that fails leaves the
entries and the tables of every owner as they were (`Store.answer_error_unchanged`). A path that
was answered is the path of exactly one entry, and whoever asks for the same image or drawing again
gets it again, without an entry or a fetch (`Session.answers_are_final`).

Addresses are compared by their canonical form, but refused for how they are written. So an address
can be refused although an address of the same canonical form has been answered
(`Session.answered_address_refused`).
-/

namespace ArticleMarkdown.Asset

/-- Two sinks with the same entries and tables; they may differ in what has been numbered. -/
structure Sink.Matches (after before : Sink) : Prop where
  entries : after.entries = before.entries
  images : ∀ owner, (after.scope owner).images = (before.scope owner).images
  drawings : ∀ owner, (after.scope owner).drawings = (before.scope owner).drawings

namespace Sink.Matches

variable {after before : Sink}

private theorem refl (sink : Sink) : sink.Matches sink :=
  ⟨rfl, fun _ => rfl, fun _ => rfl⟩

private theorem record? (same : after.Matches before) (owner : Owner) (key : Key) :
    after.record? owner key = before.record? owner key := by
  cases key with
  | image canonical =>
      exact congrArg (List.lookup canonical) (same.images owner)
  | drawing digest =>
      exact congrArg (List.lookup digest) (same.drawings owner)

end Sink.Matches

/-- A key that was not in the table is taken out again. -/
theorem PathTable.erase_insert {table : PathTable} {key : Text}
    (absent : List.lookup key table = none) (path : Text) :
    (table.insert key path).erase key = table := by
  have others : ∀ entry ∈ table, (entry.1 != key) = true := by
    intro entry member
    have apart := List.lookup_eq_none_iff.mp absent entry member
    rw [bne_iff_ne]
    rintro same
    exact absurd same.symm (by simpa using apart)
  have kept : table.filter (·.1 != key) = table := List.filter_eq_self.mpr others
  rw [insert, erase, List.filter_cons_of_neg (by simp), kept, kept]

/-- An image's name that is given out and forgotten leaves no trace in the tables. -/
theorem Sink.forget_grant_matches (sink : Sink) {c : Claim} {canonical : Text}
    (image : c.key = .image canonical) (fresh : sink.record? c.owner c.key = none) :
    ((sink.grant c).forget c.owner canonical).Matches sink := by
  have absent : List.lookup canonical (sink.scope c.owner).images = none := by
    rw [image] at fresh
    exact fresh
  have scopes : ∀ owner, ((sink.grant c).forget c.owner canonical).scope owner =
      if owner = c.owner then ((sink.scope c.owner).take c).forgetImage canonical
      else sink.scope owner := by
    intro owner
    rw [forget, scope_setScope, scope_grant, scope_grant, if_pos rfl]
    split
    · rfl
    · rfl
  have taken : (sink.scope c.owner).take c =
      Scope.rememberImage { sink.scope c.owner with lastNumber := c.number } canonical
        c.path := by
    rw [Scope.take, image]
    rfl
  refine ⟨rfl, fun owner => ?_, fun owner => ?_⟩
  · rw [scopes]
    split
    · next same =>
      rw [same, taken]
      exact PathTable.erase_insert absent c.path
    · rfl
  · rw [scopes]
    split
    · next same =>
      rw [same, taken]
      rfl
    · rfl

namespace Store

/-- The names that answering a request gives out. -/
def answerClaims (fetcher : Option Fetcher) (store : Store) (request : Request) : List Claim :=
  match store.start fetcher request with
  | (after, .answered _) =>
    store.sink.newClaims after.sink (store.sink.requestClaim request)
  | (after, .awaiting flight reply) =>
    store.sink.newClaims after.sink (store.sink.requestClaim request) ++
      after.sink.landingClaims flight reply.outcome

/-- A request that fails leaves the entries and the tables of every owner as they were. -/
theorem answer_error_unchanged {fetcher : Option Fetcher} {store : Store} {request : Request}
    {fault : Fault} (fails : (store.answer fetcher request).2 = .error fault) :
    (store.answer fetcher request).1.sink.Matches store.sink := by
  cases fetcher with
  | none =>
      rw [answer_none] at fails ⊢
      have served := Sink.defer_eq_carryOut store.sink request
      have planned := Scope.plan_for (store.sink.scope request.owner) request false
      generalize (store.sink.scope request.owner).plan false request = plan at served planned
      cases planned with
      | refuse refused =>
          rw [(Prod.mk.inj served).1]
          exact .refl _
      | reuse known =>
          have answered := Progress.answered.inj (Prod.mk.inj served).2
          rw [fails] at answered
          cases answered
      | make fresh =>
          have answered := Progress.answered.inj (Prod.mk.inj served).2
          rw [fails] at answered
          cases answered
      | fetch fresh key => cases (Prod.mk.inj served).2
      | reserve fresh key => cases (Prod.mk.inj served).2
  | some fetch =>
      have served := Sink.accept_eq_carryOut store.sink request
      have planned := Scope.plan_for (store.sink.scope request.owner) request true
      generalize (store.sink.scope request.owner).plan true request = plan at served planned
      cases planned with
      | refuse refused =>
          rw [answer_of_answered served]
          exact .refl _
      | reuse known =>
          rw [answer_of_answered served] at fails
          cases fails
      | make fresh =>
          rw [answer_of_answered served] at fails
          cases fails
      | @fetch address canonical fresh key =>
          cases outcome : (fetch address).outcome with
          | ok image =>
              rw [key] at fresh
              have lands := @Sink.land_fresh store.sink ⟨address, canonical, request.owner, none⟩
                image rfl fresh
              rw [answer_of_fetching served outcome lands] at fails
              cases fails
          | error fault =>
              rw [answer_of_fetching served outcome (Sink.land_failed_bare _ fault rfl)]
              exact .refl _
      | @reserve address canonical fresh key =>
          cases outcome : (fetch address).outcome with
          | ok image =>
              rw [answer_of_fetching served outcome (Sink.land_reserved _ image rfl)] at fails
              cases fails
          | error fault =>
              rw [answer_of_fetching served outcome (Sink.land_failed_reserved _ fault rfl)]
              exact store.sink.forget_grant_matches key fresh

private theorem answer_refused (fetcher : Option Fetcher) (store : Store) {request : Request}
    {fault : Fault} (refused : request.fault? = some fault) :
    store.answer fetcher request = (store, .error fault) := by
  cases fetcher with
  | none =>
      have deferred : store.sink.defer request = (store.sink, .error fault) :=
        Sink.defer_eq_of_carryOut (Scope.plan_of_fault false refused) rfl
      rw [answer_none, deferred]
  | some fetch =>
      have accepted : store.sink.accept request = (store.sink, .answered (.error fault)) := by
        rw [Sink.accept_eq_carryOut, Scope.plan_of_fault true refused]
        rfl
      rw [answer_of_answered accepted]

private theorem fault?_of_answer {fetcher : Option Fetcher} {store : Store} {request : Request}
    {path : Text} (answers : (store.answer fetcher request).2 = .ok path) :
    request.fault? = none := by
  cases refused : request.fault? with
  | none => rfl
  | some fault =>
      rw [answer_refused fetcher store refused] at answers
      cases answers

/-- A request whose key is on record is answered from the record, or refused as it is written. -/
theorem answer_recorded (fetcher : Option Fetcher) {store : Store} {request : Request} {path : Text}
    (known : store.sink.record? request.owner request.key = some path) :
    store.answer fetcher request =
      (store, match request.fault? with
        | some fault => .error fault
        | none => .ok path) := by
  cases refused : request.fault? with
  | some fault => exact answer_refused fetcher store refused
  | none =>
      cases fetcher with
      | none => rw [answer_none, Sink.defer_known refused known]
      | some fetch => rw [answer_of_answered (Sink.accept_known refused known)]

/-- What is on record stays on record. -/
theorem record?_answer {fetcher : Option Fetcher} {store : Store} {request : Request}
    {owner : Owner} {key : Key} {path : Text} (known : store.sink.record? owner key = some path) :
    (store.answer fetcher request).1.sink.record? owner key = some path := by
  cases refused : request.fault? with
  | some fault =>
      rw [answer_refused fetcher store refused]
      exact known
  | none =>
      have served := answer_answered fetcher store refused
      generalize answered : store.answer fetcher request = result at served ⊢
      obtain ⟨after, result⟩ := result
      cases served with
      | known recorded => exact known
      | made fresh owned keyed plain brought =>
          rw [Sink.record?_enter]
          split
          · next same =>
            rw [same.1, same.2, owned, keyed, fresh] at known
            cases known
          · exact known
      | failed fresh keyed fails =>
          have unchanged := answer_error_unchanged (congrArg Prod.snd answered)
          rw [answered] at unchanged
          rw [unchanged.record?]
          exact known

/-- The path that a request is answered with is on record for it. -/
theorem record?_of_answer {fetcher : Option Fetcher} {store : Store} {request : Request}
    {path : Text} (answers : (store.answer fetcher request).2 = .ok path) :
    (store.answer fetcher request).1.sink.record? request.owner request.key = some path := by
  have served := answer_answered fetcher store (fault?_of_answer answers)
  generalize store.answer fetcher request = result at served answers ⊢
  obtain ⟨after, result⟩ := result
  cases served with
  | known recorded =>
      cases answers
      exact recorded
  | made fresh owned keyed plain brought =>
      cases answers
      rw [Sink.record?_enter, if_pos ⟨owned.symm, keyed.symm⟩]
  | failed fresh keyed fails => cases answers

private theorem owner_of_mem_newClaims {before after : Sink} {claim c : Claim}
    (member : c ∈ before.newClaims after claim) : c = claim := by
  unfold Sink.newClaims at member
  split at member
  · cases member
  · exact List.mem_singleton.mp member

section Claims

variable {fetch : Fetcher} {store : Store} {request : Request} {after : Sink}

private theorem answerClaims_none (store : Store) (request : Request) :
    store.answerClaims none request =
      store.sink.newClaims (store.sink.defer request).1 (store.sink.requestClaim request) :=
  rfl

private theorem answerClaims_of_answered {result : Except Fault Text}
    (served : store.sink.accept request = (after, .answered result)) :
    store.answerClaims (some fetch) request =
      store.sink.newClaims after (store.sink.requestClaim request) := by
  rw [answerClaims, start]
  simp only [served]

private theorem answerClaims_of_fetching {flight : Flight}
    (served : store.sink.accept request = (after, .fetching flight)) :
    store.answerClaims (some fetch) request =
      store.sink.newClaims after (store.sink.requestClaim request) ++
        after.landingClaims flight (fetch flight.address).outcome := by
  rw [answerClaims, start]
  simp only [served]

/-- The flight of a request belongs to the owner of the request. -/
theorem owner_of_fetching {flight : Flight}
    (served : store.sink.accept request = (after, .fetching flight)) :
    flight.owner = request.owner := by
  have planned := Scope.plan_for (store.sink.scope request.owner) request true
  rw [Sink.accept_eq_carryOut] at served
  generalize (store.sink.scope request.owner).plan true request = plan at served planned
  cases planned with
  | refuse refused => cases (Prod.mk.inj served).2
  | reuse known => cases (Prod.mk.inj served).2
  | make fresh => cases (Prod.mk.inj served).2
  | fetch fresh key =>
      cases (Prod.mk.inj served).2
      rfl
  | reserve fresh key =>
      cases (Prod.mk.inj served).2
      rfl

/-- Answering a request gives names to its owner only. -/
theorem owner_of_mem_answerClaims {fetcher : Option Fetcher} {c : Claim}
    (member : c ∈ store.answerClaims fetcher request) : c.owner = request.owner := by
  have requested : ∀ {after : Sink},
      c ∈ store.sink.newClaims after (store.sink.requestClaim request) →
        c.owner = request.owner := by
    intro after new
    rw [owner_of_mem_newClaims new]
    rfl
  cases fetcher with
  | none => exact requested member
  | some fetch =>
      rcases served : store.sink.accept request with ⟨after, result | flight⟩
      · rw [answerClaims_of_answered served] at member
        exact requested member
      · rw [answerClaims_of_fetching served] at member
        rcases List.mem_append.mp member with new | landed
        · exact requested new
        · cases outcome : (fetch flight.address).outcome with
          | ok image =>
              rw [outcome] at landed
              rw [owner_of_mem_newClaims landed]
              exact owner_of_fetching served
          | error fault =>
              rw [outcome] at landed
              cases landed

end Claims

/-- Answering a request takes steps of the account and leaves no fetch under way. -/
theorem reaches_answer {a : Account} (landed : a.holds = 0) (fetcher : Option Fetcher)
    (store : Store) (request : Request) (same : a.sink = store.sink) :
    ∃ b : Account, a.Reaches b ∧ b.holds = 0 ∧
      b.sink = (store.answer fetcher request).1.sink ∧ b.drained = a.drained ∧
        b.claims = a.claims ++ store.answerClaims fetcher request := by
  cases fetcher with
  | none =>
      refine ⟨_, a.reaches_defer request, ?_, ?_, rfl, ?_⟩
      · exact (congrArg (Flight.holds [] + ·) landed).trans (zero_add _)
      · rw [answer_none, ← same]
        rfl
      · rw [answerClaims_none, ← same]
        rfl
  | some fetch =>
      have accepted := a.reaches_accept request
      rw [same] at accepted
      rcases served : store.sink.accept request with ⟨after, result | flight⟩
      · rw [served] at accepted
        refine ⟨_, accepted, ?_, ?_, rfl, ?_⟩
        · exact (congrArg (Flight.holds [] + ·) landed).trans (zero_add _)
        · rw [answer_of_answered served]
          rfl
        · rw [answerClaims_of_answered served, ← same]
          rfl
      · rw [served] at accepted
        have held : (a.serve request (after, .fetching flight)).holds = Flight.holds [flight] :=
          (congrArg (Flight.holds [flight] + ·) landed).trans (add_zero _)
        have lands := Account.reaches_land _ held.symm.le (fetch flight.address).outcome
        refine ⟨_, accepted.trans lands, ?_, ?_, rfl, ?_⟩
        · rw [Account.land, held]
          have none_left := add_tsub_cancel_left (Flight.holds [flight]) 0
          rwa [add_zero] at none_left
        · rw [answer_of_fetching served rfl rfl]
          rfl
        · rw [answerClaims_of_fetching served, ← List.append_assoc, ← same]
          rfl

end Store

/-- A request for the image of the same canonical address, or for the same drawing. -/
def Request.Repeats (again request : Request) : Prop :=
  match again, request with
  | .image address _ _, .image earlier _ _ =>
    Url.canonical (Text.trim address) = Url.canonical (Text.trim earlier)
  | .drawing markup _ _, .drawing earlier _ _ => Text.trim markup = Text.trim earlier
  | .image _ _ _, .drawing _ _ _ | .drawing _ _ _, .image _ _ _ => False

namespace Request.Repeats

variable {again request : Request}

private theorem key_eq (repeats : again.Repeats request) : again.key = request.key := by
  cases again with
  | image address _ _ =>
      cases request with
      | image earlier _ _ => exact congrArg Key.image repeats
      | drawing _ _ _ => exact repeats.elim
  | drawing markup _ _ =>
      cases request with
      | image _ _ _ => exact repeats.elim
      | drawing earlier _ _ =>
        exact congrArg (fun t => Key.drawing (Digest.ofBytes (Text.utf8 t))) repeats

/-- Only the address of an image can be refused where the same key was served. -/
theorem refused_image (repeats : again.Repeats request) (proper : request.fault? = none)
    {fault : Fault} (refused : again.fault? = some fault) :
    ∃ canonical, again.key = .image canonical := by
  cases again with
  | image address _ _ => exact ⟨_, rfl⟩
  | drawing markup _ _ =>
      cases request with
      | image _ _ _ => exact repeats.elim
      | drawing earlier _ _ =>
          have same : Text.trim markup = Text.trim earlier := repeats
          rw [fault?, same] at refused
          rw [fault?, refused] at proper
          cases proper

end Request.Repeats

/-- What can be done with a store between two requests, and a request. -/
inductive Use where
  | ask (fetcher : Option Fetcher) (request : Request)
  | list
  | drain

/-- A store that answers one request at a time, the entries that it handed out, the names given
out by their place in the order of creation, and the answers given. -/
structure Session where
  store : Store := {}
  drained : List Entry := []
  claims : List Claim := []
  answers : List (Request × Except Fault Text) := []

namespace Session

/-- What one use of the store does. -/
def step (session : Session) : Use → Session
  | .ask fetcher request =>
    let (store, result) := session.store.answer fetcher request
    { session with
      store
      claims := session.claims ++ session.store.answerClaims fetcher request
      answers := session.answers ++ [(request, result)] }
  | .list => session
  | .drain =>
    let (sink, entries) := session.store.sink.drain
    { session with
      store := { session.store with sink }
      drained := session.drained ++ entries }

/-- What many uses of the store do, one after another. -/
def run (session : Session) (uses : List Use) : Session :=
  uses.foldl step session

/-- Every entry made so far, held or handed out. -/
def made (session : Session) : List Entry :=
  session.drained ++ session.store.sink.entries

/-- What holds between two requests: an account in which no fetch is under way, all names of one
owner, and every path that was answered on record. -/
structure Settled (owner : Owner) (session : Session) : Prop where
  account : ∃ a : Account, Account.Reaches {} a ∧ a.holds = 0 ∧
    a.sink = session.store.sink ∧ a.drained = session.drained ∧ a.claims = session.claims
  owned : ∀ c ∈ session.claims, c.owner = owner
  proper : ∀ request path, (request, .ok path) ∈ session.answers → request.fault? = none
  recorded : ∀ request path, (request, .ok path) ∈ session.answers →
    session.store.sink.record? request.owner request.key = some path

private theorem settled_start (owner : Owner) : Settled owner {} where
  account := ⟨{}, .refl, rfl, rfl, rfl, rfl⟩
  owned := nofun
  proper := nofun
  recorded := nofun

private theorem Settled.step {owner : Owner} {session : Session} (settled : session.Settled owner)
    {use : Use} (owned : ∀ fetcher request, use = .ask fetcher request → request.owner = owner) :
    (session.step use).Settled owner := by
  obtain ⟨a, reached, landed, sink, drained, claims⟩ := settled.account
  cases use with
  | list => exact settled
  | drain =>
      refine ⟨⟨a.drain, reached.tail .drain, landed, ?_, ?_, claims⟩, settled.owned, settled.proper,
        settled.recorded⟩
      · rw [Account.drain, sink]
        rfl
      · rw [Account.drain, sink, drained]
        rfl
  | ask fetcher request =>
      have own := owned fetcher request rfl
      obtain ⟨b, further, landed', sink', drained', claims'⟩ :=
        Store.reaches_answer landed fetcher session.store request sink
      refine ⟨⟨b, reached.trans further, landed', sink', drained'.trans drained, ?_⟩, ?_, ?_, ?_⟩
      · rw [claims', claims]
        rfl
      · refine List.forall_mem_append.mpr ⟨settled.owned, fun c member => ?_⟩
        rw [Store.owner_of_mem_answerClaims member, own]
      · intro earlier path member
        rcases List.mem_append.mp member with before | new
        · exact settled.proper earlier path before
        · obtain ⟨rfl, answers⟩ := Prod.mk.inj (List.mem_singleton.mp new)
          exact Store.fault?_of_answer answers.symm
      · intro earlier path member
        rcases List.mem_append.mp member with before | new
        · exact Store.record?_answer (settled.recorded earlier path before)
        · obtain ⟨rfl, answers⟩ := Prod.mk.inj (List.mem_singleton.mp new)
          exact Store.record?_of_answer answers.symm

private theorem settled_run {owner : Owner} {uses : List Use}
    (owned : ∀ fetcher request, Use.ask fetcher request ∈ uses → request.owner = owner)
    {session : Session} (settled : session.Settled owner) : (session.run uses).Settled owner := by
  induction uses generalizing session with
  | nil => exact settled
  | cons use rest ih =>
      refine ih (fun fetcher request member =>
        owned fetcher request (List.mem_cons_of_mem _ member))
        (settled.step ?_)
      rintro fetcher request rfl
      exact owned fetcher request List.mem_cons_self

/-- Between two requests, an entry is made for every path that was answered. -/
theorem Settled.exists_entry {owner : Owner} {session : Session} (settled : session.Settled owner)
    {request : Request} {path : Text} (answered : (request, .ok path) ∈ session.answers) :
    ∃ entry ∈ session.made, entry.path = path := by
  obtain ⟨a, reached, landed, sink, drained, -⟩ := settled.account
  have same : a.made = session.made := by
    rw [Account.made, sink, drained]
    rfl
  have backed : a.Backed {} := reached.backed
  have known := settled.recorded request path answered
  rw [← sink] at known
  rcases backed.record known with entry | ⟨hold, member, -⟩ | old
  · rw [← same]
    exact entry
  · rw [landed] at member
    exact absurd member (Multiset.notMem_zero hold)
  · rw [Sink.record?_empty] at old
    cases old

/-- Files of one owner whose names are not cut have different paths. -/
theorem Settled.paths_nodup {owner : Owner} {session : Session} (settled : session.Settled owner)
    (fits : ∀ c ∈ session.claims, c.Fits) : (session.made.map Entry.path).Nodup := by
  obtain ⟨a, reached, -, sink, drained, claims⟩ := settled.account
  have same : a.made = session.made := by
    rw [Account.made, sink, drained]
    rfl
  have named := reached.named
  have orders : (a.made.map Entry.order).Nodup := by
    have places := named.places_nodup
    rw [Account.live] at places
    exact Multiset.coe_nodup.mp (Multiset.nodup_of_le (Multiset.le_add_right _ _) places)
  rw [← same]
  rw [List.nodup_map_iff_inj_on (orders.of_map _)] 
  intro entry member other member' path
  obtain ⟨c, atPlace, ofEntry⟩ := named.made_named entry member
  obtain ⟨d, atPlace', ofOther⟩ := named.made_named other member'
  have inside : c ∈ session.claims := claims ▸ List.mem_of_getElem? atPlace
  have inside' : d ∈ session.claims := claims ▸ List.mem_of_getElem? atPlace'
  have place := named.ledger.path_injective atPlace atPlace'
    ((settled.owned c inside).trans (settled.owned d inside').symm) (fits c inside) (fits d inside')
    (ofEntry.trans (path.trans ofOther.symm))
  exact List.inj_on_of_nodup_map orders member member' place

/-- Whatever has been done with one owner's files, one request at a time: a path that was answered
is the path of exactly one entry. Whoever asks for it again is answered with the same path, and
nothing is changed or fetched, unless the address of the image is refused as it is written. And a
request that fails leaves the entries and the tables of every owner as they were. -/
theorem answers_are_final {owner : Owner} {uses : List Use}
    (owned : ∀ fetcher request, Use.ask fetcher request ∈ uses → request.owner = owner)
    (fits : ∀ c ∈ (run {} uses).claims, c.Fits) :
    (∀ request path, (request, .ok path) ∈ (run {} uses).answers →
      ((run {} uses).made.map Entry.path).count path = 1 ∧
      ∀ fetcher again, again.owner = request.owner → again.Repeats request →
        (run {} uses).store.answer fetcher again = ((run {} uses).store, .ok path) ∨
        ∃ canonical fault, again.key = .image canonical ∧ again.fault? = some fault ∧
          (run {} uses).store.answer fetcher again = ((run {} uses).store, .error fault)) ∧
    ∀ fetcher request fault, ((run {} uses).store.answer fetcher request).2 = .error fault →
      ((run {} uses).store.answer fetcher request).1.sink.Matches (run {} uses).store.sink := by
  have settled := settled_run owned (settled_start owner)
  refine ⟨fun request path answered => ⟨?_, ?_⟩, fun fetcher request fault =>
    Store.answer_error_unchanged⟩
  · obtain ⟨entry, member, path'⟩ := settled.exists_entry answered
    apply List.count_eq_one_of_mem (settled.paths_nodup fits)
    exact List.mem_map.mpr ⟨entry, member, path'⟩
  · intro fetcher again own repeats
    have known := settled.recorded request path answered
    rw [← own, ← repeats.key_eq] at known
    have answers := Store.answer_recorded fetcher known
    cases refused : again.fault? with
    | none =>
        rw [refused] at answers
        exact .inl answers
    | some fault =>
        rw [refused] at answers
        have proper := settled.proper request path answered
        obtain ⟨canonical, image⟩ := repeats.refused_image proper refused
        exact .inr ⟨canonical, fault, image, rfl, answers⟩

/-- An image that cannot be fetched at first, and a drawing; the entries are handed out between
them. -/
def errands : List Use :=
  let failing : Fetcher := fun address =>
    ⟨0, .error (.unreachable address 1 "gone".toList)⟩
  let bringing : Fetcher := fun _ => ⟨0, .ok ⟨[1], "image/gif".toList⟩⟩
  [.ask (some failing) (.image "a.png".toList "assets".toList []),
    .ask (some bringing) (.image "a.png#top".toList "assets/".toList []), .drain,
    .ask (some bringing) (.drawing "<svg/>".toList "assets".toList []), .list]

/-- The image keeps its path after its entry was handed out. -/
theorem answers_are_final_errands :
    (∀ fetcher request, Use.ask fetcher request ∈ errands →
      request.owner = ⟨[], "assets".toList⟩) ∧
    (∀ c ∈ (run {} errands).claims, c.Fits) ∧
    ((run {} errands).made.map Entry.path).count "assets/2.png".toList = 1 := by
  have owned : ∀ fetcher request, Use.ask fetcher request ∈ errands →
      request.owner = ⟨[], "assets".toList⟩ := by
    intro fetcher request member
    simp only [errands, List.mem_cons, List.not_mem_nil, or_false, reduceCtorEq, false_or,
      Use.ask.injEq] at member
    rcases member with ⟨-, rfl⟩ | ⟨-, rfl⟩ | ⟨-, rfl⟩ <;> rfl
  have fits : ∀ c ∈ (run {} errands).claims, c.Fits := by decide +kernel
  have answered : (Request.image "a.png#top".toList "assets/".toList [],
      Except.ok "assets/2.png".toList) ∈ (run {} errands).answers := by decide +kernel
  exact ⟨owned, fits, ((answers_are_final owned fits).1 _ _ answered).1⟩

/-- The address of an image that was answered has the canonical form of the empty address, which is
refused. -/
theorem answered_address_refused :
    let first := Request.image "#a".toList "assets".toList []
    let again := Request.image [] "assets".toList []
    let session := run {} [.ask none first]
    (first, .ok "assets/1.png".toList) ∈ session.answers ∧ again.Repeats first ∧
      session.store.answer none again = (session.store, .error .emptyAddress) := by
  refine ⟨by decide +kernel, ?_, by decide +kernel⟩
  have same : Url.canonical (Text.trim []) = Url.canonical (Text.trim "#a".toList) := by
    decide +kernel
  exact same

end Session
end ArticleMarkdown.Asset
