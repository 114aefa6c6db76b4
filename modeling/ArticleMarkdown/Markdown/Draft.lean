import ArticleMarkdown.Asset.Sink
import ArticleMarkdown.Fragment.Basic

/-!
# Drafts

What a document wants as files does not depend on where the files end up. A draft is therefore
the list of all requests, in document order, with the result as a function of their answers.
Drafts are put together piece by piece; each piece reads its own part of the answers.
-/

namespace ArticleMarkdown

/-- A result that waits for the paths of assets. -/
structure Draft (α : Type) where
  requests : List Asset.Request
  /-- The result, given one path for each request. -/
  fill : List Text → α

namespace Draft

/-- A result that needs no assets. -/
def of (a : α) : Draft α :=
  ⟨[], fun _ => a⟩

/-- The path of a single asset. -/
def path (request : Asset.Request) : Draft Text :=
  ⟨[request], fun paths => paths.headD []⟩

/-- The draft with its result changed. -/
def map (f : α → β) (d : Draft α) : Draft β :=
  ⟨d.requests, fun paths => f (d.fill paths)⟩

/-- Two drafts one after another, their results combined. -/
def combine (f : α → β → γ) (first : Draft α) (second : Draft β) : Draft γ :=
  ⟨first.requests ++ second.requests, fun paths =>
    f (first.fill (paths.take first.requests.length))
      (second.fill (paths.drop first.requests.length))⟩

/-- A draft in front of the drafts of a list. -/
def cons (first : Draft α) (rest : Draft (List α)) : Draft (List α) :=
  combine (· :: ·) first rest

/-- Two drafts of fragments joined. -/
def append (first second : Draft Fragment) : Draft Fragment :=
  combine (· ++ ·) first second

/-- Changing the result asks for nothing more. -/
theorem fill_map {α β : Type} (f : α → β) (d : Draft α) (paths : List Text) :
    (d.map f).fill paths = f (d.fill paths) := rfl

/-- Each of two joined drafts reads the answers to its own requests. -/
theorem fill_append (first second : Draft Fragment) (paths : List Text) :
    (first.append second).fill paths =
      first.fill (paths.take first.requests.length) ++
        second.fill (paths.drop first.requests.length) := rfl

end Draft
end ArticleMarkdown
