import ArticleMarkdown.Asset.Entry
import ArticleMarkdown.Http.Message
import ArticleMarkdown.Text.Basic
import ArticleMarkdown.Url.Address

/-!
# Fetching images from the web

An image is fetched in several attempts, up to the first that succeeds. An attempt sends one
request; what comes of it is left to a transport. The body must not be longer than a limit: it is
refused before it is received if its length is announced, and else when the limit is passed. How
long an attempt may take, and the pause before the next one, are left out.
-/

namespace ArticleMarkdown.Http

/-- What sends a request, in a state of the world: an answer comes, or the sending fails for a
reason, and the world has changed. Redirects are followed within. -/
abbrev Transport (σ : Type) := σ → Request → Except Text Response × σ

/-- How much is tried. -/
structure Limits where
  /-- The greatest number of attempts; at least one is made. -/
  maxAttempts : Nat := 3
  maxBytes : Nat := 10485760
  deriving DecidableEq, Repr

/-- Why an attempt fails. -/
inductive Failure where
  /-- No answer came. -/
  | unsent (reason : Text)
  /-- The answer is not what was asked for. -/
  | status (code : Nat)
  /-- The announced length is beyond the limit. -/
  | announcedTooLong (length limit : Nat)
  /-- The body broke off. -/
  | unread (reason : Text)
  /-- The body turned out to be beyond the limit. -/
  | receivedTooLong (limit : Nat)
  deriving DecidableEq, Repr

/-- The text of a failure. -/
def Failure.message : Failure → Text
  | .unsent reason => "request failed: ".toList ++ reason
  | .status code => "status ".toList ++ statusText code
  | .announcedTooLong length limit =>
    "image too large: ".toList ++ Text.ofNat length ++ " bytes exceeds limit of ".toList ++
      Text.ofNat limit ++ " bytes".toList
  | .unread reason => "failed to read body: ".toList ++ reason
  | .receivedTooLong limit =>
    "image exceeded size limit during download (max: ".toList ++ Text.ofNat limit ++ [')']

/-- The name that requests give their sender. -/
def userAgent : Text :=
  "Mozilla/5.0 (Windows NT 10.0; Win64; x64) AppleWebKit/537.36 (KHTML, like Gecko) ".toList ++
    "Chrome/132.0.6834.160 Safari/537.36".toList

/-- The media types that requests prefer. -/
def accept : Text :=
  "image/avif,image/webp,image/apng,image/*,*/*;q=0.8".toList

/-- A printable character of ASCII, or a tab. -/
def isHeaderText (c : Char) : Bool :=
  c == '\t' || (' ' ≤ c && c ≤ '~')

/-- The media type of an answer: of its header, if that is readable and names an image, else that of
the address. -/
def mediaType (url : Text) (response : Response) : Text :=
  let named := ((header? response.headers "content-type").filter (·.all isHeaderText)).map
    fun value => Text.trim (value.takeWhile (· != ';'))
  match named.filter (Text.startsWith "image/".toList) with
  | some type => type
  | none =>
    match Url.fileExtension? url with
    | some extension => (Media.typeOfExtension extension).toList
    | none => Media.unknownType.toList

/-- Receives pieces of a body behind what was received, up to the first that passes the limit or
does not arrive. -/
def receive (maxBytes : Nat) (received : Bytes) : List (Except Text Bytes) → Except Failure Bytes
  | [] => .ok received
  | .error reason :: _ => .error (.unread reason)
  | .ok piece :: rest =>
    if maxBytes < received.length + piece.length then .error (.receivedTooLong maxBytes)
    else receive maxBytes (received ++ piece) rest

/-- The image that an answer holds. -/
def image (maxBytes : Nat) (url : Text) (response : Response) :
    Except Failure Asset.FetchedImage :=
  let length := response.announced.getD 0
  if !response.isSuccess then .error (.status response.status)
  else if maxBytes < length then .error (.announcedTooLong length maxBytes)
  else (receive maxBytes [] response.pieces).map fun body => ⟨body, mediaType url response⟩

variable {σ : Type}

/-- Makes one attempt. -/
def attempt (send : Transport σ) (maxBytes : Nat) (url : Text) (world : σ) :
    Except Failure Asset.FetchedImage × σ :=
  match send world ⟨url, userAgent, accept⟩ with
  | (.error reason, after) => (.error (.unsent reason), after)
  | (.ok response, after) => (image maxBytes url response, after)

/-- What came of some attempts: their number, the world after them, and the outcome. -/
structure Course (σ ε : Type) where
  attempts : Nat
  world : σ
  outcome : Except ε Asset.FetchedImage

/-- Makes attempts up to the first that succeeds; at most one more than `further`. -/
def attempts (send : Transport σ) (maxBytes : Nat) (url : Text) : (further : Nat) → σ →
    Course σ Failure
  | 0, world =>
    let (outcome, after) := attempt send maxBytes url world
    ⟨1, after, outcome⟩
  | further + 1, world =>
    match attempt send maxBytes url world with
    | (.ok image, after) => ⟨1, after, .ok image⟩
    | (.error _, after) =>
      let later := attempts send maxBytes url further after
      { later with attempts := later.attempts + 1 }

/-- Fetches an image. The fault tells the number of attempts and the last failure. -/
def fetch (send : Transport σ) (limits : Limits) (url : Text) (world : σ) :
    Course σ Asset.Fault :=
  let most := max 1 limits.maxAttempts
  let course := attempts send limits.maxBytes url (most - 1) world
  { course with
    outcome := course.outcome.mapError fun failure => .unreachable url most failure.message }

end ArticleMarkdown.Http
