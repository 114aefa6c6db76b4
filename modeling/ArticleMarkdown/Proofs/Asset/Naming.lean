import ArticleMarkdown.Proofs.Asset.Backing
import ArticleMarkdown.Proofs.Asset.Numbering
import ArticleMarkdown.Proofs.Asset.Traffic

/-!
# Names are given out once

The names that a sink has given out are listed by their place in the order of creation. A place is
live while its name is held or once its entry is made; the places of failed fetches are lost. Live
names are on record, so an owner has at most one live name for a key, and since each name takes the
owner's next number, its files have different paths.
-/

namespace ArticleMarkdown.Asset

/-- How a sink's records and numbers relate to the names given out and to the live places: a live
name is on record, and is its owner's only live one for its key; an owner's numbers go up. -/
structure Ledger (sink : Sink) (claims : List Claim) (live : Multiset Nat) : Prop where
  places : claims.length = sink.nextOrder
  recorded : ∀ place ∈ live, ∃ c, claims[place]? = some c ∧ sink.record? c.owner c.key ≠ none
  unique : ∀ first ∈ live, ∀ second ∈ live, ∀ c d, claims[first]? = some c →
    claims[second]? = some d → c.owner = d.owner → c.key = d.key → first = second
  ascending : claims.Pairwise fun c d => c.owner = d.owner → c.number < d.number
  bounded : ∀ c ∈ claims, c.number ≤ (sink.scope c.owner).lastNumber

namespace Ledger

variable {sink : Sink} {claims : List Claim} {live : Multiset Nat}

private theorem empty : Ledger {} [] 0 where
  places := rfl
  recorded place member := absurd member (Multiset.notMem_zero place)
  unique place member := absurd member (Multiset.notMem_zero place)
  ascending := .nil
  bounded _ member := absurd member List.not_mem_nil

private theorem of_scopes (ledger : Ledger sink claims live) {other : Sink}
    (scopes : other.scopes = sink.scopes) (nextOrder : other.nextOrder = sink.nextOrder) :
    Ledger other claims live := by
  have same : ∀ owner, other.scope owner = sink.scope owner := fun owner => by
    rw [Sink.scope, scopes, Sink.scope]
  exact {
    places := nextOrder ▸ ledger.places
    recorded := fun place member => by
      simpa only [Sink.record?, same] using ledger.recorded place member
    unique := ledger.unique
    ascending := ledger.ascending
    bounded := fun c member => by simpa only [same] using ledger.bounded c member }

/-- A name with the owner's next number, for a key that has no record, takes the next place. -/
theorem grant (ledger : Ledger sink claims live) {owner : Owner} {key : Key} {extension : Text}
    (fresh : sink.record? owner key = none) :
    Ledger (sink.grant ((sink.scope owner).nextClaim owner key extension))
      (claims ++ [(sink.scope owner).nextClaim owner key extension])
      (sink.nextOrder ::ₘ live) := by
  -- A live name is an earlier one, and not for the key.
  have earlier : ∀ place ∈ live, ∀ c,
      (claims ++ [(sink.scope owner).nextClaim owner key extension])[place]? = some c →
        claims[place]? = some c ∧ sink.record? c.owner c.key ≠ none := by
    intro place member c at_place
    obtain ⟨d, found, known⟩ := ledger.recorded place member
    obtain ⟨inside, -⟩ := List.getElem?_eq_some_iff.mp found
    rw [List.getElem?_append_left inside, found] at at_place
    cases at_place
    exact ⟨found, known⟩
  have last : (claims ++ [(sink.scope owner).nextClaim owner key extension])[sink.nextOrder]? =
      some ((sink.scope owner).nextClaim owner key extension) := by
    rw [← ledger.places]
    exact List.getElem?_concat_length
  have apart : ∀ c : Claim, sink.record? c.owner c.key ≠ none → c.owner = owner → c.key = key →
      False := by
    rintro c known rfl rfl
    exact known fresh
  exact {
    places := by simp [ledger.places]
    recorded := fun place member => by
      rcases Multiset.mem_cons.mp member with rfl | member
      · exact ⟨_, last, by simp [Scope.nextClaim]⟩
      · obtain ⟨c, found, known⟩ := ledger.recorded place member
        obtain ⟨inside, -⟩ := List.getElem?_eq_some_iff.mp found
        refine ⟨c, (List.getElem?_append_left inside).trans found, ?_⟩
        rw [Sink.record?_grant]
        split
        · exact Option.some_ne_none _
        · exact known
    unique := fun first firstLive second secondLive c d atFirst atSecond owner key => by
      rcases Multiset.mem_cons.mp firstLive with rfl | firstLive <;>
        rcases Multiset.mem_cons.mp secondLive with rfl | secondLive
      · rfl
      · rw [last] at atFirst
        cases atFirst
        exact (apart d (earlier second secondLive d atSecond).2 owner.symm key.symm).elim
      · rw [last] at atSecond
        cases atSecond
        exact (apart c (earlier first firstLive c atFirst).2 owner key).elim
      · exact ledger.unique first firstLive second secondLive c d
          (earlier first firstLive c atFirst).1 (earlier second secondLive d atSecond).1 owner key
    ascending := by
      refine List.pairwise_append.mpr ⟨ledger.ascending, List.pairwise_singleton _ _, ?_⟩
      intro c member d isNew sameOwner
      cases List.mem_singleton.mp isNew
      have bound := ledger.bounded c member
      rw [sameOwner] at bound
      exact Nat.lt_succ_of_le bound
    bounded := fun c member => by
      rw [Sink.lastNumber_grant]
      rcases List.mem_append.mp member with old | isNew
      · have bound := ledger.bounded c old
        split
        · next same =>
          rw [same] at bound
          exact Nat.le_succ_of_le bound
        · exact bound
      · cases List.mem_singleton.mp isNew
        rw [if_pos rfl] }

/-- A name that is forgotten is live no more. -/
theorem forget {place : Nat} (ledger : Ledger sink claims (place ::ₘ live)) {c : Claim}
    {canonical : Text} (named : claims[place]? = some c) (image : c.key = .image canonical)
    (once : place ∉ live) : Ledger (sink.forget c.owner canonical) claims live where
  places := ledger.places
  recorded other member := by
    obtain ⟨d, found, known⟩ := ledger.recorded other (Multiset.mem_cons_of_mem member)
    refine ⟨d, found, ?_⟩
    rw [Sink.record?_forget, if_neg]
    · exact known
    · rintro ⟨owner, key⟩
      have same := ledger.unique other (Multiset.mem_cons_of_mem member) place
        (Multiset.mem_cons_self _ _) d c found named owner (key.trans image.symm)
      exact once (same ▸ member)
  unique first firstLive second secondLive :=
    ledger.unique first (Multiset.mem_cons_of_mem firstLive) second
      (Multiset.mem_cons_of_mem secondLive)
  ascending := ledger.ascending
  bounded d member := by
    rw [Sink.lastNumber_forget]
    exact ledger.bounded d member

end Ledger

namespace Account

/-- The places of the entries made and of the names held. -/
def live (a : Account) : Multiset Nat :=
  Multiset.ofList (a.made.map Entry.order) + a.holds.map Hold.order

/-- How an account's entries and holds relate to the names given out. Each place is either live or
lost, and an entry or a hold is the name at its place. -/
structure Named (a : Account) : Prop where
  ledger : Ledger a.sink a.claims a.live
  orders : a.live + a.lost.map Hold.order = Multiset.range a.sink.nextOrder
  made_named : ∀ entry ∈ a.made, ∃ c, a.claims[entry.order]? = some c ∧ c.path = entry.path
  hold_named : ∀ hold ∈ a.holds, ∃ c, a.claims[hold.order]? = some c ∧ c.owner = hold.owner ∧
    c.key = .image hold.canonical ∧ c.path = hold.path

namespace Named

variable {a : Account}

private theorem initial : Named {} where
  ledger := .empty
  orders := rfl
  made_named _ member := absurd member List.not_mem_nil
  hold_named hold member := absurd member (Multiset.notMem_zero hold)

/-- No place in the order of creation is taken twice. -/
theorem places_nodup (named : a.Named) : a.live.Nodup := by
  have all : (a.live + a.lost.map Hold.order).Nodup :=
    named.orders ▸ Multiset.nodup_range a.sink.nextOrder
  exact Multiset.nodup_of_le (Multiset.le_add_right _ _) all

private theorem answer (named : a.Named) (result : Except Fault Text) :
    (a.answer result).Named where
  ledger := named.ledger
  orders := named.orders
  made_named := named.made_named
  hold_named := named.hold_named

private theorem claim_append {claims : List Claim} {place : Nat} {c : Claim} (new : Claim)
    (found : claims[place]? = some c) : (claims ++ [new])[place]? = some c := by
  obtain ⟨inside, -⟩ := List.getElem?_eq_some_iff.mp found
  rw [List.getElem?_append_left inside, found]

private theorem reserve (named : a.Named) {owner : Owner} {canonical extension : Text}
    (fresh : a.sink.record? owner (.image canonical) = none) :
    (a.reserve ((a.sink.scope owner).nextClaim owner (.image canonical) extension)
      canonical).Named := by
  have live : (a.reserve ((a.sink.scope owner).nextClaim owner (.image canonical) extension)
      canonical).live = a.sink.nextOrder ::ₘ a.live := by
    simp [Account.live, Account.reserve, made, Multiset.add_cons]
  exact {
    ledger := live ▸ named.ledger.grant fresh
    orders := by
      rw [live, Multiset.cons_add]
      exact (congrArg _ named.orders).trans (Multiset.range_succ _).symm
    made_named := fun entry member => by
      obtain ⟨c, found, path⟩ := named.made_named entry member
      exact ⟨c, claim_append _ found, path⟩
    hold_named := fun hold member => by
      rcases Multiset.mem_cons.mp member with rfl | member
      · refine ⟨_, ?_, rfl, rfl, rfl⟩
        simp only [Account.reserve, ← named.ledger.places]
        exact List.getElem?_concat_length
      · obtain ⟨c, found, same⟩ := named.hold_named hold member
        exact ⟨c, claim_append _ found, same⟩ }

private theorem make (named : a.Named) {owner : Owner} {key : Key} {extension : Text}
    {entry : Entry}
    (fresh : a.sink.record? owner key = none)
    (path : entry.path = ((a.sink.scope owner).nextClaim owner key extension).path)
    (order : entry.order = a.sink.nextOrder) :
    (a.make ((a.sink.scope owner).nextClaim owner key extension) entry).Named := by
  have live : (a.make ((a.sink.scope owner).nextClaim owner key extension) entry).live =
      a.sink.nextOrder ::ₘ a.live := by
    simp only [Account.live, made_make, List.map_append, List.map_cons, List.map_nil, order,
      ← Multiset.coe_add, Multiset.coe_singleton]
    rw [add_right_comm, add_comm, Multiset.singleton_add]
    rfl
  exact {
    ledger := live ▸ (named.ledger.grant fresh).of_scopes rfl rfl
    orders := by
      rw [live, Multiset.cons_add]
      exact (congrArg _ named.orders).trans (Multiset.range_succ _).symm
    made_named := fun other member => by
      rw [made_make] at member
      rcases List.mem_append.mp member with old | isNew
      · obtain ⟨c, found, path⟩ := named.made_named other old
        exact ⟨c, claim_append _ found, path⟩
      · cases List.mem_singleton.mp isNew
        refine ⟨_, ?_, path.symm⟩
        simp only [Account.make, order, ← named.ledger.places]
        exact List.getElem?_concat_length
    hold_named := fun hold member => by
      obtain ⟨c, found, same⟩ := named.hold_named hold member
      exact ⟨c, claim_append _ found, same⟩ }

private theorem deliver (named : a.Named) {hold : Hold} {entry : Entry} (held : hold ∈ a.holds)
    (path : entry.path = hold.path) (order : entry.order = hold.order) :
    (a.deliver hold entry).Named := by
  have live : (a.deliver hold entry).live = a.live := by
    have split := congrArg (Multiset.map Hold.order) (Multiset.cons_erase held)
    rw [Multiset.map_cons] at split
    simp only [Account.live, made_deliver, List.map_append, List.map_cons, List.map_nil, order,
      ← Multiset.coe_add, Multiset.coe_singleton, ← split, add_assoc, Multiset.singleton_add]
    rfl
  exact {
    ledger := live ▸ named.ledger.of_scopes rfl rfl
    orders := live ▸ named.orders
    made_named := fun other member => by
      rw [made_deliver] at member
      rcases List.mem_append.mp member with old | isNew
      · exact named.made_named other old
      · cases List.mem_singleton.mp isNew
        obtain ⟨c, found, -, -, same⟩ := named.hold_named hold held
        exact ⟨c, order ▸ found, same.trans path.symm⟩
    hold_named := fun other member =>
      named.hold_named other (Multiset.mem_of_mem_erase member) }

private theorem lose (named : a.Named) {hold : Hold} (fault : Fault) (held : hold ∈ a.holds) :
    (a.lose hold fault).Named := by
  have live : a.live = hold.order ::ₘ (a.lose hold fault).live := by
    have split := congrArg (Multiset.map Hold.order) (Multiset.cons_erase held)
    rw [Multiset.map_cons] at split
    rw [Account.live, ← split, Multiset.add_cons]
    rfl
  have once : hold.order ∉ (a.lose hold fault).live :=
    (Multiset.nodup_cons.mp (live ▸ named.places_nodup)).1
  obtain ⟨c, found, owner, key, -⟩ := named.hold_named hold held
  have forgotten := (live ▸ named.ledger).forget found key once
  rw [owner] at forgotten
  exact {
    ledger := forgotten
    orders := by
      refine Eq.trans ?_ named.orders
      rw [live, Account.lose, Multiset.map_cons, Multiset.add_cons, Multiset.cons_add]
    made_named := fun entry member => named.made_named entry (by simpa using member)
    hold_named := fun other member =>
      named.hold_named other (Multiset.mem_of_mem_erase member) }

private theorem drain (named : a.Named) : a.drain.Named := by
  have live : a.drain.live = a.live := by
    have same := Multiset.coe_eq_coe.mpr (a.made_drain_perm.map Entry.order)
    rw [Account.live, same]
    rfl
  exact {
    ledger := live ▸ named.ledger.of_scopes rfl rfl
    orders := live ▸ named.orders
    made_named := fun entry member => named.made_named entry (a.made_drain_perm.subset member)
    hold_named := named.hold_named }

end Named

private theorem Step.named {a b : Account} (step : Step a b) (named : a.Named) : b.Named := by
  cases step with
  | answer _ => exact named.answer _
  | reserve fresh => exact named.reserve fresh
  | make fresh path order => exact named.make fresh path order
  | deliver held path order => exact named.deliver held path order
  | lose held => exact named.lose _ held
  | drain => exact named.drain

/-- Whatever happens at a new sink, its names stay in order. -/
theorem Reaches.named {a : Account} (reached : Reaches {} a) : a.Named :=
  reached.invariant Step.named .initial

/-- When no name is held and none was lost, the entries made fill the places from the first on. -/
theorem Named.orders_perm {a : Account} (named : a.Named) (landed : a.holds = 0)
    (kept : a.lost = 0) : (a.made.map Entry.order).Perm (List.range a.made.length) := by
  have places := named.orders
  rw [live, landed, kept, Multiset.map_zero, add_zero, add_zero] at places
  have perm : (a.made.map Entry.order).Perm (List.range a.sink.nextOrder) :=
    Multiset.coe_eq_coe.mp places
  have length := perm.length_eq
  rw [List.length_map, List.length_range] at length
  rwa [length]

end Account

namespace Ledger

variable {sink : Sink} {claims : List Claim} {live : Multiset Nat}

/-- One owner gives no number out twice. -/
theorem number_injective (ledger : Ledger sink claims live) {first second : Nat} {c d : Claim}
    (atFirst : claims[first]? = some c) (atSecond : claims[second]? = some d)
    (owner : c.owner = d.owner) (number : c.number = d.number) : first = second := by
  obtain ⟨firstInside, rfl⟩ := List.getElem?_eq_some_iff.mp atFirst
  obtain ⟨secondInside, rfl⟩ := List.getElem?_eq_some_iff.mp atSecond
  have ascending := List.pairwise_iff_getElem.mp ledger.ascending
  rcases Nat.lt_trichotomy first second with before | same | after
  · exact absurd (ascending first second firstInside secondInside before owner) (by omega)
  · exact same
  · exact absurd (ascending second first secondInside firstInside after owner.symm) (by omega)

/-- Two names of one owner have different paths, if they are not cut. -/
theorem path_injective (ledger : Ledger sink claims live) {first second : Nat} {c d : Claim}
    (atFirst : claims[first]? = some c) (atSecond : claims[second]? = some d)
    (owner : c.owner = d.owner) (fits : c.Fits) (fits' : d.Fits) (path : c.path = d.path) :
    first = second :=
  ledger.number_injective atFirst atSecond owner (Claim.number_of_path owner fits fits' path)

end Ledger

namespace Traffic

/-- Whatever calls are made on a new sink, and however they run: the entries made have places of
their own in the order of creation, and each lies where the name at its place says. Of the names
of one owner, at most one for each key has an entry, and two entries lie at different paths unless
their names are cut. A flight holds the name at its place. -/
theorem names_given_out_once (events : List Event) :
    ((run {} events).made.map Entry.order).Nodup ∧
    (∀ entry ∈ (run {} events).made, ∃ c,
      (run {} events).claims[entry.order]? = some c ∧ c.path = entry.path) ∧
    (∀ entry ∈ (run {} events).made, ∀ other ∈ (run {} events).made, ∀ c d,
      (run {} events).claims[entry.order]? = some c →
      (run {} events).claims[other.order]? = some d → c.owner = d.owner →
        (c.key = d.key → entry = other) ∧
        (entry ≠ other → c.Fits → d.Fits → entry.path ≠ other.path)) ∧
    ∀ flight ∈ (run {} events).air, ∀ path order, flight.reserved = some (path, order) →
      ∃ c, (run {} events).claims[order]? = some c ∧ c.owner = flight.owner ∧
        c.key = .image flight.canonical ∧ c.path = path := by
  have named : (run {} events).account.Named := Account.Reaches.named (reaches_run {} events)
  have places : ((run {} events).made.map Entry.order).Nodup :=
    Multiset.coe_nodup.mp (Multiset.nodup_of_le (Multiset.le_add_right _ _) named.places_nodup)
  have live : ∀ entry ∈ (run {} events).made, entry.order ∈ (run {} events).account.live :=
    fun entry member => Multiset.mem_add.mpr (.inl (List.mem_map_of_mem member))
  refine ⟨places, named.made_named, ?_, ?_⟩
  · intro entry inside other inside' c d found found' owner
    have same_place : entry.order = other.order → entry = other :=
      fun place => List.inj_on_of_nodup_map places inside inside' place
    constructor
    · intro key
      exact same_place (named.ledger.unique entry.order (live entry inside) other.order
        (live other inside') c d found found' owner key)
    · intro different fits fits' same
      obtain ⟨c', foundC, path⟩ := named.made_named entry inside
      obtain ⟨d', foundD, path'⟩ := named.made_named other inside'
      obtain rfl : c = c' := Option.some.inj (found.symm.trans foundC)
      obtain rfl : d = d' := Option.some.inj (found'.symm.trans foundD)
      exact different (same_place (named.ledger.path_injective found found' owner fits fits'
        (path.trans (same.trans path'.symm))))
  · intro flight flying path order reserved
    refine named.hold_named ⟨flight.owner, flight.canonical, path, order⟩ ?_
    refine Flight.mem_holds.mpr ⟨flight, List.mem_append_left _ flying, ?_⟩
    simp only [Flight.hold?, reserved, Option.map_some]

/-- Names go by the order of the calls, entries by the order of the landings. -/
example :
    let image address := Event.call (.image (String.toList address) "assets".toList [])
    let brought : FetchOutcome := .ok ⟨[97], "image/png".toList⟩
    let t := run {} [image "a.png", image "b.png", .land 1 brought, .land 0 brought]
    t.made.map (fun entry => (entry.path, entry.order)) =
      [("assets/2.png".toList, 1), ("assets/1.png".toList, 0)] := by
  decide +kernel

end Traffic
end ArticleMarkdown.Asset
