import ArticleMarkdown.Proofs.Asset.Plan
import Mathlib.Data.Multiset.Range

/-!
# The account of a sink's work

What happens at a sink is kept account of: the names that fetches under way hold, the names whose
fetch failed, the entries handed out, every name given out, and every answer. One step of the
account is one of six things (`Account.Step`); whatever runs requests on a sink, in whatever order,
takes such steps only. The account only grows: an entry once made stays on it.
-/

namespace ArticleMarkdown.Asset

/-- A name that a fetch under way holds. -/
structure Hold where
  owner : Owner
  canonical : Text
  path : Text
  order : Nat
  deriving DecidableEq

/-- The name that a flight holds, if the address told the file's type. -/
def Flight.hold? (flight : Flight) : Option Hold :=
  flight.reserved.map fun (path, order) => ⟨flight.owner, flight.canonical, path, order⟩

/-- A sink, the names that fetches under way hold, those whose fetch failed, the entries handed out,
the names given out by their place in the order of creation, and the answers. -/
structure Account where
  sink : Sink := {}
  holds : Multiset Hold := 0
  lost : Multiset Hold := 0
  drained : List Entry := []
  claims : List Claim := []
  answers : List (Except Fault Text) := []

namespace Account

/-- Every entry made so far, held or handed out. -/
def made (a : Account) : List Entry :=
  a.drained ++ a.sink.entries

/-- Whether an entry has been made for a path. -/
def HasEntry (a : Account) (path : Text) : Prop :=
  ∃ entry ∈ a.made, entry.path = path

/-- The account after an answer that names nothing new. -/
def answer (a : Account) (result : Except Fault Text) : Account :=
  { a with answers := a.answers ++ [result] }

/-- The account after a name is taken for an image that is to be fetched. -/
def reserve (a : Account) (claim : Claim) (canonical : Text) : Account :=
  { a with
    sink := a.sink.grant claim
    holds := ⟨claim.owner, canonical, claim.path, a.sink.nextOrder⟩ ::ₘ a.holds
    claims := a.claims ++ [claim] }

/-- The account after a name is taken for a file whose entry is made at once. -/
def make (a : Account) (claim : Claim) (entry : Entry) : Account :=
  { a with
    sink := (a.sink.grant claim).push entry
    claims := a.claims ++ [claim]
    answers := a.answers ++ [.ok claim.path] }

/-- The account after a fetch has brought the image for a held name. -/
def deliver (a : Account) (hold : Hold) (entry : Entry) : Account :=
  { a with
    sink := a.sink.push entry
    holds := a.holds.erase hold
    answers := a.answers ++ [.ok hold.path] }

/-- The account after the fetch for a held name has failed. -/
def lose (a : Account) (hold : Hold) (fault : Fault) : Account :=
  { a with
    sink := a.sink.forget hold.owner hold.canonical
    holds := a.holds.erase hold
    lost := hold ::ₘ a.lost
    answers := a.answers ++ [.error fault] }

/-- The account after the entries of the sink are handed out. -/
def drain (a : Account) : Account :=
  { a with
    sink := a.sink.drain.1
    drained := a.drained ++ a.sink.drain.2 }

/-- One change of an account. A name is taken only for what has no record; a fetch ends only for a
name that is held; and an answer that takes no name is a path on record, or a failure. -/
inductive Step : Account → Account → Prop where
  | answer {a : Account} {result : Except Fault Text}
      (known : ∀ path, result = .ok path →
        ∃ owner key, a.sink.record? owner key = some path) :
      Step a (a.answer result)
  | reserve {a : Account} {owner : Owner} {canonical extension : Text}
      (fresh : a.sink.record? owner (.image canonical) = none) :
      Step a (a.reserve ((a.sink.scope owner).nextClaim owner (.image canonical) extension)
        canonical)
  | make {a : Account} {owner : Owner} {key : Key} {extension : Text} {entry : Entry}
      (fresh : a.sink.record? owner key = none)
      (path : entry.path = ((a.sink.scope owner).nextClaim owner key extension).path)
      (order : entry.order = a.sink.nextOrder) :
      Step a (a.make ((a.sink.scope owner).nextClaim owner key extension) entry)
  | deliver {a : Account} {hold : Hold} {entry : Entry} (held : hold ∈ a.holds)
      (path : entry.path = hold.path) (order : entry.order = hold.order) :
      Step a (a.deliver hold entry)
  | lose {a : Account} {hold : Hold} {fault : Fault} (held : hold ∈ a.holds) :
      Step a (a.lose hold fault)
  | drain {a : Account} : Step a a.drain

/-- One account comes out of another by steps. -/
abbrev Reaches : Account → Account → Prop :=
  Relation.ReflTransGen Step

/-- What holds at the start and is kept by every step holds of all that is reached. -/
theorem Reaches.invariant {property : Account → Prop}
    (step : ∀ {a b : Account}, Step a b → property a → property b) {a b : Account}
    (reached : Reaches a b) (start : property a) : property b := by
  induction reached with
  | refl => exact start
  | tail _ next ih => exact step next ih

/-- The entry of a new name is made behind the others. -/
@[simp] theorem made_make (a : Account) (claim : Claim) (entry : Entry) :
    (a.make claim entry).made = a.made ++ [entry] := by
  simp [made, make]

/-- The entry of a held name is made behind the others. -/
@[simp] theorem made_deliver (a : Account) (hold : Hold) (entry : Entry) :
    (a.deliver hold entry).made = a.made ++ [entry] := by
  simp [made, deliver]

/-- A fetch that fails makes no entry. -/
@[simp] theorem made_lose (a : Account) (hold : Hold) (fault : Fault) :
    (a.lose hold fault).made = a.made := by
  simp [made, lose]

/-- Handing entries out sorts them and loses none. -/
theorem made_drain_perm (a : Account) : a.drain.made.Perm a.made := by
  simpa [made, drain, Sink.drain, Sink.sortedEntries, Entry.sorted] using
    (List.mergeSort_perm a.sink.entries _).append_left a.drained

/-- An entry once made stays on the account. -/
theorem Step.made_subset {a b : Account} (step : Step a b) : a.made ⊆ b.made := by
  cases step with
  | answer => exact List.Subset.refl _
  | reserve => exact List.Subset.refl _
  | make => simp
  | deliver => simp
  | lose => simp
  | drain => exact a.made_drain_perm.symm.subset

/-- Entries that stay keep leading to their paths. -/
theorem HasEntry.mono {a b : Account} (made : a.made ⊆ b.made) {path : Text}
    (found : a.HasEntry path) : b.HasEntry path := by
  obtain ⟨entry, member, same⟩ := found
  exact ⟨entry, made member, same⟩

end Account
end ArticleMarkdown.Asset
