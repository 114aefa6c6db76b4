import ArticleMarkdown.Proofs.Asset.Account

/-!
# Records and their entries

A record of a sink leads to an entry, or belongs to a name that a fetch under way holds, or was
there at the start. Conversely a held name is the record of its image until its fetch ends, and a
record that was there at the start stays. An answer is as good as the record it was read from: the
path of an entry, or of a name that is held, or of a name whose fetch failed.
-/

namespace ArticleMarkdown.Asset

/-- The owner and the key under which a held name is on record. -/
def Hold.key (hold : Hold) : Owner × Key :=
  (hold.owner, .image hold.canonical)

namespace Account

/-- How the records and answers of an account relate to entries and held names, when `start` was
the sink at the start. A record or answer leads to an entry unless it is held, lost, or old; what
is held was not there at the start, and what was there stays. -/
structure Backed (start : Sink) (a : Account) : Prop where
  record : ∀ {owner : Owner} {key : Key} {path : Text},
    a.sink.record? owner key = some path →
      a.HasEntry path ∨ (∃ hold ∈ a.holds, hold.key = (owner, key) ∧ hold.path = path) ∨
        start.record? owner key = some path
  held : ∀ hold ∈ a.holds, a.sink.record? hold.key.1 hold.key.2 = some hold.path ∧
    start.record? hold.key.1 hold.key.2 = none
  distinct : (a.holds.map Hold.key).Nodup
  kept : ∀ {owner : Owner} {key : Key} {path : Text},
    start.record? owner key = some path → a.sink.record? owner key = some path
  answered : ∀ {path : Text}, .ok path ∈ a.answers →
    a.HasEntry path ∨ (∃ hold ∈ a.holds + a.lost, hold.path = path) ∨
      ∃ owner key, start.record? owner key = some path

namespace Backed

variable {start : Sink} {a : Account}

private theorem initial (start : Sink) (drained : List Entry) :
    Backed start { sink := start, drained := drained } where
  record found := .inr (.inr found)
  held hold member := absurd member (Multiset.notMem_zero hold)
  distinct := Multiset.nodup_zero
  kept found := found
  answered member := absurd member List.not_mem_nil

/-- A key without a record is neither held nor old. -/
theorem fresh_free (backed : a.Backed start) {owner : Owner} {key : Key}
    (fresh : a.sink.record? owner key = none) :
    (∀ hold ∈ a.holds, hold.key ≠ (owner, key)) ∧ start.record? owner key = none := by
  constructor
  · intro hold member same
    have found := (backed.held hold member).1
    rw [same, fresh] at found
    cases found
  · cases old : start.record? owner key with
    | none => rfl
    | some path => exact absurd (backed.kept old) (by simp [fresh])

private theorem answer (backed : a.Backed start) {result : Except Fault Text}
    (known : ∀ path, result = .ok path → ∃ owner key, a.sink.record? owner key = some path) :
    (a.answer result).Backed start where
  record := backed.record
  held := backed.held
  distinct := backed.distinct
  kept := backed.kept
  answered {path} member := by
    rcases List.mem_append.mp member with old | new
    · exact backed.answered old
    · obtain ⟨owner, key, found⟩ := known path (List.mem_singleton.mp new).symm
      rcases backed.record found with entry | ⟨hold, inside, -, same⟩ | old
      · exact .inl entry
      · exact .inr (.inl ⟨hold, Multiset.mem_add.mpr (.inl inside), same⟩)
      · exact .inr (.inr ⟨owner, key, old⟩)

/-- Records and held names survive a claim for a key that has no record. -/
theorem record_grant (backed : a.Backed start) {claim : Claim}
    (fresh : a.sink.record? claim.owner claim.key = none) :
    (∀ hold ∈ a.holds, (a.sink.grant claim).record? hold.key.1 hold.key.2 = some hold.path) ∧
      ∀ {owner key path}, start.record? owner key = some path →
        (a.sink.grant claim).record? owner key = some path := by
  obtain ⟨unheld, new⟩ := backed.fresh_free fresh
  constructor
  · intro hold member
    have other : ¬(hold.key.1 = claim.owner ∧ hold.key.2 = claim.key) :=
      fun same => unheld hold member (Prod.ext same.1 same.2)
    rw [Sink.record?_grant, if_neg other]
    exact (backed.held hold member).1
  · intro owner key path old
    have other : ¬(owner = claim.owner ∧ key = claim.key) := by
      rintro ⟨rfl, rfl⟩
      rw [new] at old
      cases old
    rw [Sink.record?_grant, if_neg other]
    exact backed.kept old

private theorem reserve (backed : a.Backed start) {claim : Claim} {canonical : Text}
    (image : claim.key = .image canonical)
    (fresh : a.sink.record? claim.owner claim.key = none) :
    (a.reserve claim canonical).Backed start where
  record {owner key path} found := by
    simp only [Account.reserve, Sink.record?_grant, image] at found
    split at found
    · next same =>
      cases found
      refine .inr (.inl ⟨_, Multiset.mem_cons_self _ _, ?_, rfl⟩)
      simp only [Hold.key, same]
    · rcases backed.record found with entry | ⟨hold, inside, same⟩ | old
      · exact .inl entry
      · exact .inr (.inl ⟨hold, Multiset.mem_cons_of_mem inside, same⟩)
      · exact .inr (.inr old)
  held hold member := by
    rcases Multiset.mem_cons.mp member with rfl | inside
    · constructor
      · simp [Account.reserve, Hold.key, image]
      · simpa only [Hold.key, ← image] using (backed.fresh_free fresh).2
    · exact ⟨(backed.record_grant fresh).1 hold inside, (backed.held hold inside).2⟩
  distinct := by
    simp only [Account.reserve, Multiset.map_cons, Multiset.nodup_cons, Multiset.mem_map]
    refine ⟨?_, backed.distinct⟩
    rintro ⟨hold, inside, same⟩
    exact (backed.fresh_free fresh).1 hold inside (by rw [same, image, Hold.key])
  kept old := (backed.record_grant fresh).2 old
  answered member := by
    rcases backed.answered member with entry | ⟨hold, inside, same⟩ | old
    · exact .inl entry
    · refine .inr (.inl ⟨hold, ?_, same⟩)
      simp only [Account.reserve, Multiset.cons_add, Multiset.mem_cons]
      exact .inr inside
    · exact .inr (.inr old)

private theorem make (backed : a.Backed start) {claim : Claim} {entry : Entry}
    (path : entry.path = claim.path)
    (fresh : a.sink.record? claim.owner claim.key = none) :
    (a.make claim entry).Backed start where
  record {owner key found} isFound := by
    simp only [Account.make, Sink.record?_push, Sink.record?_grant] at isFound
    split at isFound
    · cases isFound
      exact .inl ⟨entry, by simp, path⟩
    · rcases backed.record isFound with old | rest
      · exact .inl (old.mono (by simp))
      · exact .inr rest
  held hold member :=
    ⟨(backed.record_grant fresh).1 hold member, (backed.held hold member).2⟩
  distinct := backed.distinct
  kept old := (backed.record_grant fresh).2 old
  answered member := by
    rcases List.mem_append.mp member with old | new
    · rcases backed.answered old with found | rest
      · exact .inl (found.mono (by simp))
      · exact .inr rest
    · cases List.mem_singleton.mp new
      exact .inl ⟨entry, by simp, path⟩

private theorem deliver (backed : a.Backed start) {hold : Hold} {entry : Entry}
    (path : entry.path = hold.path) : (a.deliver hold entry).Backed start := by
  -- The delivered hold becomes an entry; every other one stays a hold.
  have settled : ∀ other ∈ a.holds,
      (a.deliver hold entry).HasEntry other.path ∨ other ∈ a.holds.erase hold := by
    intro other inside
    by_cases same : other = hold
    · subst other
      exact .inl ⟨entry, by simp, path⟩
    · exact .inr ((Multiset.mem_erase_of_ne same).mpr inside)
  exact {
    record := fun found => by
      rcases backed.record found with old | ⟨other, inside, same⟩ | old
      · exact .inl (old.mono (by simp))
      · rcases settled other inside with new | still
        · exact .inl (same.2 ▸ new)
        · exact .inr (.inl ⟨other, still, same⟩)
      · exact .inr (.inr old)
    held := fun other member => backed.held other (Multiset.mem_of_mem_erase member)
    distinct := Multiset.nodup_of_le (Multiset.map_le_map (Multiset.erase_le _ _)) backed.distinct
    kept := backed.kept
    answered := fun member => by
      rcases List.mem_append.mp member with old | new
      · rcases backed.answered old with found | ⟨other, inside, same⟩ | old
        · exact .inl (found.mono (by simp))
        · rcases Multiset.mem_add.mp inside with inside | gone
          · rcases settled other inside with new | still
            · exact .inl (same ▸ new)
            · exact .inr (.inl ⟨other, Multiset.mem_add.mpr (.inl still), same⟩)
          · exact .inr (.inl ⟨other, Multiset.mem_add.mpr (.inr gone), same⟩)
        · exact .inr (.inr old)
      · cases List.mem_singleton.mp new
        exact .inl ⟨entry, by simp, path⟩ }

private theorem lose (backed : a.Backed start) {hold : Hold} (fault : Fault)
    (held : hold ∈ a.holds) :
    (a.lose hold fault).Backed start := by
  -- Only the lost hold has its key, so no other record is forgotten.
  have others : ∀ other ∈ a.holds.erase hold, other.key ≠ hold.key := by
    intro other inside same
    have split := backed.distinct
    rw [← Multiset.cons_erase held, Multiset.map_cons, Multiset.nodup_cons] at split
    exact split.1 (Multiset.mem_map.mpr ⟨other, inside, same⟩)
  exact {
    record := fun {owner key path} found => by
      simp only [Account.lose, Sink.record?_forget] at found
      split at found
      · cases found
      · next different =>
        rcases backed.record found with entry | ⟨other, inside, same⟩ | old
        · exact .inl (entry.mono (by simp))
        · refine .inr (.inl ⟨other, (Multiset.mem_erase_of_ne ?_).mpr inside, same⟩)
          rintro rfl
          exact different (Prod.mk.inj same.1.symm)
        · exact .inr (.inr old)
    held := fun other member => by
      have different : ¬(other.key.1 = hold.owner ∧ other.key.2 = .image hold.canonical) :=
        fun same => others other member (Prod.ext same.1 same.2)
      simp only [Account.lose, Sink.record?_forget, if_neg different]
      exact backed.held other (Multiset.mem_of_mem_erase member)
    distinct := Multiset.nodup_of_le (Multiset.map_le_map (Multiset.erase_le _ _)) backed.distinct
    kept := fun {owner key path} old => by
      have different : ¬(owner = hold.owner ∧ key = .image hold.canonical) := by
        rintro ⟨rfl, rfl⟩
        have absent := (backed.held hold held).2
        simp only [Hold.key] at absent
        rw [absent] at old
        cases old
      simp only [Account.lose, Sink.record?_forget, if_neg different]
      exact backed.kept old
    answered := fun {path} member => by
      have old : .ok path ∈ a.answers := by simpa [Account.lose] using member
      have all : (a.lose hold fault).holds + (a.lose hold fault).lost = a.holds + a.lost := by
        simp only [Account.lose, Multiset.add_cons, ← Multiset.cons_add, Multiset.cons_erase held]
      rw [all]
      rcases backed.answered old with found | rest
      · exact .inl (found.mono (by simp))
      · exact .inr rest }

private theorem drain (backed : a.Backed start) : a.drain.Backed start where
  record found := by
    rcases backed.record found with entry | rest
    · exact .inl (entry.mono (Step.made_subset .drain))
    · exact .inr rest
  held := backed.held
  distinct := backed.distinct
  kept := backed.kept
  answered member := by
    rcases backed.answered member with entry | rest
    · exact .inl (entry.mono (Step.made_subset .drain))
    · exact .inr rest

end Backed

private theorem Step.backed {start : Sink} {a b : Account} (step : Step a b)
    (backed : a.Backed start) :
    b.Backed start := by
  cases step with
  | answer known => exact backed.answer known
  | reserve fresh => exact backed.reserve rfl fresh
  | make fresh path _ => exact backed.make path fresh
  | deliver _ path _ => exact backed.deliver path
  | lose held => exact backed.lose _ held
  | drain => exact backed.drain

/-- Whatever happens at a sink, its records stay backed. -/
theorem Reaches.backed {start : Sink} {drained : List Entry} {a : Account}
    (reached : Reaches { sink := start, drained := drained } a) : a.Backed start :=
  reached.invariant Step.backed (Backed.initial start drained)

/-- An old record without an entry, and a held name without one, are all that records can lack. -/
theorem Backed.records_have_entries_iff {start : Sink} {a : Account} (backed : a.Backed start) :
    (∀ owner key path, a.sink.record? owner key = some path → a.HasEntry path) ↔
      (∀ owner key path, start.record? owner key = some path → a.HasEntry path) ∧
        ∀ hold ∈ a.holds, a.HasEntry hold.path := by
  constructor
  · intro all
    exact ⟨fun owner key path old => all owner key path (backed.kept old),
      fun hold member => all _ _ _ (backed.held hold member).1⟩
  · rintro ⟨old, held⟩ owner key path found
    rcases backed.record found with entry | ⟨hold, inside, -, rfl⟩ | before
    · exact entry
    · exact held hold inside
    · exact old owner key path before

/-- An answer without an entry is the name of a fetch that is under way or has failed, or old. -/
theorem Backed.answers_have_entries_iff {start : Sink} {a : Account} (backed : a.Backed start) :
    (∀ path, .ok path ∈ a.answers → a.HasEntry path) ↔
      (∀ hold ∈ a.holds + a.lost, .ok hold.path ∈ a.answers → a.HasEntry hold.path) ∧
        ∀ owner key path, start.record? owner key = some path →
          .ok path ∈ a.answers → a.HasEntry path := by
  constructor
  · intro all
    exact ⟨fun hold _ answered => all hold.path answered, fun _ _ path _ answered =>
      all path answered⟩
  · rintro ⟨named, old⟩ path answered
    rcases backed.answered answered with entry | ⟨hold, inside, rfl⟩ | ⟨owner, key, before⟩
    · exact entry
    · exact named hold inside answered
    · exact old owner key path before answered

end Account
end ArticleMarkdown.Asset
