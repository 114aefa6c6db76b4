import ArticleMarkdown.Asset.Sink
import Mathlib.Data.List.Basic

/-!
# What a sink remembers

A sink remembers paths by owner and key: images by canonical address, drawings by digest. The four
changes that serving requests makes to a sink are the granting of a name, the pushing of an entry,
the forgetting of an image, and draining. Each is described here by what it does to the records,
to the numbers given out, to the entries and to the order of creation.
-/

namespace ArticleMarkdown.Asset

section Tables

variable {Key Value : Type} [BEq Key] [LawfulBEq Key]

/-- Filtering out a key leaves the other keys as they were. -/
theorem lookup_filter_key (table : List (Key × Value)) (key other : Key) [Decidable (other = key)] :
    (table.filter (·.1 != key)).lookup other =
      if other = key then none else table.lookup other := by
  induction table with
  | nil => simp
  | cons entry rest ih =>
      obtain ⟨own, value⟩ := entry
      by_cases dropped : own = key
      · subst own
        by_cases same : other = key
        · simpa [same] using ih
        · simpa [List.lookup_cons, same, beq_false_of_ne same] using ih
      · by_cases found : other = own
        · subst other
          simp [dropped]
        · simp [dropped, List.lookup_cons, beq_false_of_ne found, ih]

end Tables

@[simp] private theorem PathTable.lookup_insert (table : PathTable) (key path other : Text) :
    List.lookup other (table.insert key path) =
      if other = key then some path else List.lookup other table := by
  by_cases same : other = key
  · subst other
    simp [PathTable.insert]
  · rw [PathTable.insert, List.lookup_cons, beq_false_of_ne same, if_neg same,
      lookup_filter_key, if_neg same]

@[simp] private theorem PathTable.lookup_erase (table : PathTable) (key other : Text) :
    List.lookup other (table.erase key) =
      if other = key then none else List.lookup other table :=
  lookup_filter_key table key other

/-- What an owner remembers a path for. -/
inductive Key where
  | image (canonical : Text)
  | drawing (digest : Text)
  deriving DecidableEq

namespace Scope

/-- The path that a scope remembers for a key. -/
def record? (s : Scope) : Key → Option Text
  | .image canonical => s.imagePath? canonical
  | .drawing digest => s.drawingPath? digest

/-- The scope that remembers a path for a key. -/
def remember (s : Scope) (key : Key) (path : Text) : Scope :=
  match key with
  | .image canonical => s.rememberImage canonical path
  | .drawing digest => s.rememberDrawing digest path

@[simp] private theorem record?_default (key : Key) : record? {} key = none := by
  cases key <;> rfl

@[simp] private theorem record?_remember (s : Scope) (key other : Key) (path : Text) :
    (s.remember key path).record? other = if other = key then some path else s.record? other := by
  cases key <;> cases other <;>
    simp [remember, record?, imagePath?, drawingPath?, rememberImage, rememberDrawing]

@[simp] private theorem record?_forgetImage (s : Scope) (canonical : Text) (other : Key) :
    (s.forgetImage canonical).record? other =
      if other = .image canonical then none else s.record? other := by
  cases other <;> simp [forgetImage, record?, imagePath?, drawingPath?]

@[simp] private theorem lastNumber_remember (s : Scope) (key : Key) (path : Text) :
    (s.remember key path).lastNumber = s.lastNumber := by
  cases key <;> rfl

@[simp] private theorem record?_setNumber (s : Scope) (number : Nat) (key : Key) :
    { s with lastNumber := number }.record? key = s.record? key := by
  cases key <;> rfl

end Scope

/-- A name given out: to whom, for what, and what it is made from. -/
structure Claim where
  owner : Owner
  key : Key
  number : Nat
  extension : Text
  deriving DecidableEq

/-- The path of a claimed name. -/
def Claim.path (c : Claim) : Text :=
  Sink.filePath c.owner c.number c.extension

/-- The claim to the name with the next number of a scope. -/
def Scope.nextClaim (s : Scope) (owner : Owner) (key : Key) (extension : Text) : Claim :=
  ⟨owner, key, s.lastNumber + 1, extension⟩

/-- The scope after a claim: its number is used up, and its path is remembered. -/
def Scope.take (s : Scope) (c : Claim) : Scope :=
  ({ s with lastNumber := c.number } : Scope).remember c.key c.path

@[simp] private theorem Scope.record?_take (s : Scope) (c : Claim) (key : Key) :
    (s.take c).record? key = if key = c.key then some c.path else s.record? key := by
  simp [take]

@[simp] private theorem Scope.lastNumber_take (s : Scope) (c : Claim) :
    (s.take c).lastNumber = c.number := by
  simp [take]

namespace Sink

/-- The path that an owner remembers for a key. -/
def record? (sink : Sink) (owner : Owner) (key : Key) : Option Text :=
  (sink.scope owner).record? key

/-- The sink after a claim, which takes a place in the order of creation. -/
def grant (sink : Sink) (c : Claim) : Sink :=
  { sink.setScope c.owner ((sink.scope c.owner).take c) with nextOrder := sink.nextOrder + 1 }

/-- The sink in which an owner no longer remembers an image. -/
def forget (sink : Sink) (owner : Owner) (canonical : Text) : Sink :=
  sink.setScope owner ((sink.scope owner).forgetImage canonical)

/-- Changing one scope leaves the others alone. -/
@[simp] theorem scope_setScope (sink : Sink) (owner other : Owner) (s : Scope) :
    (sink.setScope owner s).scope other = if other = owner then s else sink.scope other := by
  by_cases same : other = owner
  · subst other
    simp [setScope, scope]
  · rw [setScope, scope, List.lookup_cons, beq_false_of_ne same, if_neg same]
    simp only [lookup_filter_key, same, if_false, scope]

/-- Pushing an entry changes no scope. -/
@[simp] theorem scope_push (sink : Sink) (entry : Entry) (owner : Owner) :
    (sink.push entry).scope owner = sink.scope owner := rfl

/-- Pushing an entry changes no record. -/
@[simp] theorem record?_push (sink : Sink) (entry : Entry) (owner : Owner) (key : Key) :
    (sink.push entry).record? owner key = sink.record? owner key := rfl

/-- An entry is pushed behind the others. -/
@[simp] theorem entries_push (sink : Sink) (entry : Entry) :
    (sink.push entry).entries = sink.entries ++ [entry] := rfl

/-- Granting a name makes no entry. -/
@[simp] theorem entries_grant (sink : Sink) (c : Claim) :
    (sink.grant c).entries = sink.entries := rfl

/-- Granting a name takes a place in the order of creation. -/
@[simp] theorem nextOrder_grant (sink : Sink) (c : Claim) :
    (sink.grant c).nextOrder = sink.nextOrder + 1 := rfl

/-- A claim changes nothing but its owner's scope. -/
theorem scope_grant (sink : Sink) (c : Claim) (owner : Owner) :
    (sink.grant c).scope owner =
      if owner = c.owner then (sink.scope owner).take c else sink.scope owner := by
  refine (scope_setScope sink c.owner owner _).trans ?_
  split
  · next same => rw [same]
  · rfl

/-- Granting a name puts its path on record, and changes no other record. -/
@[simp] theorem record?_grant (sink : Sink) (c : Claim) (owner : Owner) (key : Key) :
    (sink.grant c).record? owner key =
      if owner = c.owner ∧ key = c.key then some c.path else sink.record? owner key := by
  rw [record?, scope_grant]
  by_cases same : owner = c.owner
  · simp [same, record?]
  · simp [same, record?]

/-- Granting a name uses up the next number of its owner. -/
@[simp] theorem lastNumber_grant (sink : Sink) (c : Claim) (owner : Owner) :
    ((sink.grant c).scope owner).lastNumber =
      if owner = c.owner then c.number else (sink.scope owner).lastNumber := by
  rw [scope_grant]
  split <;> simp

/-- Forgetting an image keeps the entries. -/
@[simp] theorem entries_forget (sink : Sink) (owner : Owner) (canonical : Text) :
    (sink.forget owner canonical).entries = sink.entries := rfl

/-- Forgetting an image takes its record away, and no other. -/
@[simp] theorem record?_forget (sink : Sink) (owner other : Owner) (canonical : Text) (key : Key) :
    (sink.forget owner canonical).record? other key =
      if other = owner ∧ key = .image canonical then none else sink.record? other key := by
  rw [record?, forget, scope_setScope]
  by_cases same : other = owner
  · subst other
    simp [record?]
  · simp [same, record?]

/-- Forgetting an image keeps the numbers. -/
@[simp] theorem lastNumber_forget (sink : Sink) (owner other : Owner) (canonical : Text) :
    ((sink.forget owner canonical).scope other).lastNumber = (sink.scope other).lastNumber := by
  rw [forget, scope_setScope]
  split
  · next same => rw [same]; rfl
  · rfl

/-- A new sink has nothing on record. -/
@[simp] theorem record?_empty (owner : Owner) (key : Key) : record? {} owner key = none :=
  Scope.record?_default key

/-- Taking the next name of an owner and remembering it for a key is a claim. -/
theorem setScope_reserve (sink : Sink) (owner : Owner) (key : Key) (extension : Text) :
    (sink.reserve owner extension).1.setScope owner
        (((sink.reserve owner extension).1.scope owner).remember key
          (sink.reserve owner extension).2.1) =
      sink.grant ((sink.scope owner).nextClaim owner key extension) := by
  have numbered : (sink.reserve owner extension).1.scope owner =
      { sink.scope owner with lastNumber := (sink.scope owner).lastNumber + 1 } := by
    simp [reserve, Scope.nextNumber, scope, setScope]
  rw [numbered]
  simp only [reserve, Scope.nextNumber, grant, Scope.take, Scope.nextClaim, setScope, Claim.path]
  simp [List.filter_filter]

/-- A reserved path is the one of the next claim. -/
theorem reserve_path (sink : Sink) (owner : Owner) (key : Key) (extension : Text) :
    (sink.reserve owner extension).2 =
      (((sink.scope owner).nextClaim owner key extension).path, sink.nextOrder) :=
  rfl

/-- Reserving an image is granting the next claim to it. -/
theorem reserveImage_eq_grant (sink : Sink) (owner : Owner) (canonical extension : Text) :
    sink.reserveImage owner canonical extension =
      (sink.grant ((sink.scope owner).nextClaim owner (.image canonical) extension),
        ((sink.scope owner).nextClaim owner (.image canonical) extension).path, sink.nextOrder) :=
  congrArg (·, _) (setScope_reserve sink owner (.image canonical) extension)

end Sink
end ArticleMarkdown.Asset
