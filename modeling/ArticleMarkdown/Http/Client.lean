import ArticleMarkdown.Http.Fetch
import ArticleMarkdown.Url.Resource

/-!
# A client of a scripted server

A transport that asks a server whose answers are laid down. Answers that name another place are
followed, up to a number of times, with another request. Bodies arrive whole.
-/

namespace ArticleMarkdown.Http.Client

/-- An answer of the server. -/
structure Answer where
  status : Nat
  headers : List (Text × Text) := []
  body : Bytes := []
  /-- Whether the length of the body is announced. -/
  isAnnounced : Bool := true
  deriving DecidableEq, Repr

/-- A line by which the server was asked, with what the asker told of itself. -/
structure Asked where
  target : Text
  userAgent : Text
  accept : Text
  deriving DecidableEq, Repr

/-- The answers that are left, of which the last repeats, and what was asked. -/
structure World where
  answers : List Answer
  asked : List Asked := []
  deriving DecidableEq, Repr

/-- How many redirects are followed. -/
def maxRedirects : Nat := 10

/-- The next answer, and the answers that are left. -/
def next? : List Answer → Option (Answer × List Answer)
  | [] => none
  | [last] => some (last, [last])
  | first :: rest => some (first, rest)

namespace Answer

/-- The place that an answer names. -/
def redirect? (base : Url.Resource) (answer : Answer) : Option Url.Resource :=
  if [301, 302, 303, 307, 308].contains answer.status then
    (header? answer.headers "location").bind base.resolve?
  else none

/-- The body as it is received. An answer that tells of no content has none. -/
def content (answer : Answer) : Bytes :=
  if answer.status = 204 then [] else answer.body

/-- The answer as it is received. -/
def response (answer : Answer) : Response where
  status := answer.status
  headers := answer.headers
  announced := if answer.isAnnounced then some answer.content.length else none
  pieces := [.ok answer.content]

end Answer

/-- The text of a reason that concerns a resource. -/
def reasonAt (what : String) (resource : Url.Resource) : Text :=
  what.toList ++ " for url (".toList ++ resource.write ++ [')']

/-- Asks for a resource and follows up to `redirects` answers that name another place. -/
def ask (serves : Url.Resource → Bool) (request : Request) : (redirects : Nat) → Url.Resource →
    World → Except Text Answer × World
  | redirects, resource, world =>
    if !resource.isOnWeb then (.error (reasonAt "builder error" resource), world)
    else if !serves resource then (.error (reasonAt "error sending request" resource), world)
    else
      match next? world.answers with
      | none => (.error (reasonAt "error sending request" resource), world)
      | some (answer, answers) =>
        let asked := ⟨resource.target, request.userAgent, request.accept⟩
        let after : World := ⟨answers, world.asked ++ [asked]⟩
        match answer.redirect? resource, redirects with
        | none, _ => (.ok answer, after)
        | some _, 0 => (.error (reasonAt "error following redirect" resource), after)
        | some place, redirects + 1 => ask serves request redirects place after

/-- The transport of the client, where the server answers for some resources. -/
def send (serves : Url.Resource → Bool) : Transport World := fun world request =>
  match Url.Resource.read? request.url with
  | none => (.error "builder error".toList, world)
  | some resource =>
    let (result, after) := ask serves request maxRedirects resource.withoutUser world
    (result.map Answer.response, after)

end ArticleMarkdown.Http.Client
