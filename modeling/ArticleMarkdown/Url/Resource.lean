import ArticleMarkdown.Url.Address

/-!
# Resources of the web

An address with its query and fragment, as a client uses it: it can be asked for, and it resolves
the references that an answer from it holds.
-/

namespace ArticleMarkdown.Url

/-- An address with query and fragment. -/
structure Resource where
  address : Address
  query : Option Text := none
  fragment : Option Text := none
  deriving DecidableEq, Repr

namespace Resource

/-- The query and the fragment in a text without ignored characters. -/
def tails (t : Text) : Option Text × Option Text :=
  let (before, fragment) := match Text.splitFirst? '#' t with
    | some (before, fragment) => (before, some fragment)
    | none => (t, none)
  (((Text.splitFirst? '?' before).map (·.2)).map (percentEncode isQueryReserved),
    fragment.map (percentEncode isFragmentReserved))

/-- Reads an absolute address with its query and fragment. -/
def read? (t : Text) : Option Resource :=
  (Address.read? t).map fun address =>
    let (query, fragment) := tails (Address.prepare t)
    { address, query, fragment }

/-- The resource as it is written. -/
def write (r : Resource) : Text :=
  let part (mark : Char) (t : Option Text) : Text := (t.map (mark :: ·)).getD []
  r.address.write ++ part '?' r.query ++ part '#' r.fragment

/-- What a server is asked for: path and query. -/
def target (r : Resource) : Text :=
  r.address.path.write ++ (r.query.map ('?' :: ·)).getD []

/-- The resource without user name and password. -/
def withoutUser (r : Resource) : Resource :=
  let authority := r.address.authority.map fun a => { a with user := [], password := [] }
  { r with address := { r.address with authority } }

/-- Whether the resource is on the web. -/
def isOnWeb (r : Resource) : Bool :=
  r.address.scheme == "http".toList || r.address.scheme == "https".toList

/-- The segments of the path. -/
def segments (r : Resource) : List Text :=
  match r.address.path with
  | .segments list => list
  | .plain _ => []

/-- The resource at another path of the same host. -/
def withPath (r : Resource) (segments : List Text) (t : Text) : Resource :=
  let (query, fragment) := tails t
  { address := { r.address with path := .segments segments }, query, fragment }

/-- Resolves a reference without scheme. -/
def resolveRelative? (base : Resource) (t : Text) : Option Resource :=
  let isSeparator := Family.web.isSeparator
  let path := t.takeWhile fun c => !endsPath c
  match path with
  | [] =>
    let r := base.withPath base.segments t
    some (if r.query.isSome then r else { r with query := base.query })
  | first :: rest =>
    if isSeparator first then
      if rest.head?.any isSeparator then
        read? (base.address.scheme ++ ':' :: t)
      else some (base.withPath (Path.readSegments .web rest) t)
    else
      let pieces := (Text.splitBy isSeparator path).map (percentEncode isPathReserved)
      some (base.withPath (Path.resolve .web base.segments.dropLast pieces) t)

/-- Resolves a reference that an answer of the web holds. -/
def resolve? (base : Resource) (reference : Text) : Option Resource :=
  let t := Address.prepare reference
  match Address.splitScheme? t with
  | none => base.resolveRelative? t
  | some (scheme, rest) =>
    if scheme == base.address.scheme && !Text.startsWith "//".toList rest then
      base.resolveRelative? rest
    else read? t

end Resource
end ArticleMarkdown.Url
