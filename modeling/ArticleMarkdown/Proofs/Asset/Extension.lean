import ArticleMarkdown.Proofs.Asset.Traffic
import ArticleMarkdown.Proofs.Asset.Numbering

/-!
# Extensions of files

The extension of a file comes from the address of an image, from its media type, or is the one of
drawings; it is always made of ASCII letters and digits.
-/

namespace ArticleMarkdown.Asset

/-- An extension of ASCII letters and digits. -/
def PlainExtension (extension : Text) : Prop :=
  extension.all Text.isAsciiAlphanumeric = true

instance (extension : Text) : Decidable (PlainExtension extension) :=
  inferInstanceAs (Decidable (_ = true))

/-- The extension that an address tells is plain. -/
theorem PlainExtension.ofAddress {address extension : Text}
    (told : Url.fileExtension? address = some extension) : PlainExtension extension := by
  simp only [Url.fileExtension?] at told
  split at told
  · cases told
  · split at told
    · cases told
    · next stem own _ proper =>
      cases told
      simp only [Bool.or_eq_true, Bool.not_eq_true', not_or, Bool.not_eq_false] at proper
      rw [PlainExtension, Text.lower, List.all_map]
      refine List.all_eq_true.mpr fun c member => ?_
      exact Text.isAsciiAlphanumeric_lowerChar (List.all_eq_true.mp proper.2 c member)

/-- The extension that a media type tells is plain. -/
theorem PlainExtension.ofType (mediaType : Text) :
    PlainExtension
      (((Media.extensionOfType? mediaType).map String.toList).getD defaultExtension) := by
  rw [Media.extensionOfType?]
  split <;> decide

/-- The extension that a request tells is plain. -/
theorem Request.extension_plain (request : Request) : PlainExtension request.extension := by
  cases request with
  | drawing markup directory namePrefix =>
      have plain : PlainExtension "svg".toList := by decide
      exact plain
  | image address directory namePrefix =>
      rw [extension]
      cases told : Url.fileExtension? (Url.canonical (Text.trim address)) with
      | none =>
          have plain : PlainExtension defaultExtension := by decide
          exact plain
      | some extension => exact .ofAddress told

namespace Traffic

private theorem plain_newClaims {claims : List Claim}
    (plain : ∀ c ∈ claims, PlainExtension c.extension)
    {claim : Claim} (new : PlainExtension claim.extension) (before after : Sink) :
    ∀ c ∈ claims ++ before.newClaims after claim, PlainExtension c.extension := by
  intro c member
  rcases List.mem_append.mp member with old | isNew
  · exact plain c old
  · rw [Sink.newClaims] at isNew
    split at isNew
    · cases isNew
    · cases List.mem_singleton.mp isNew
      exact new

private theorem plain_step {t : Traffic} (plain : ∀ c ∈ t.claims, PlainExtension c.extension)
    (event : Event) : ∀ c ∈ (t.step event).claims, PlainExtension c.extension := by
  cases event with
  | call request => exact plain_newClaims plain request.extension_plain _ _
  | callLater request => exact plain_newClaims plain request.extension_plain _ _
  | land index outcome =>
      simp only [step]
      split
      · exact plain
      · cases outcome with
        | ok image => exact plain_newClaims plain (.ofType image.mediaType) _ _
        | error fault =>
            rw [Sink.landingClaims, List.append_nil]
            exact plain
  | drop index =>
      simp only [step]
      split <;> exact plain
  | drain => exact plain

/-- Every name given out has an extension of letters and digits. -/
theorem plain_run (events : List Event) :
    ∀ c ∈ (run {} events).claims, PlainExtension c.extension := by
  have all : ∀ t : Traffic, (∀ c ∈ t.claims, PlainExtension c.extension) →
      ∀ c ∈ (t.run events).claims, PlainExtension c.extension := by
    induction events with
    | nil => exact fun _ plain => plain
    | cons event rest ih => exact fun _ plain => ih _ (plain_step plain event)
  exact all {} fun _ member => absurd member List.not_mem_nil

end Traffic
end ArticleMarkdown.Asset
