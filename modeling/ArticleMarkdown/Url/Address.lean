import ArticleMarkdown.Text.Basic
import ArticleMarkdown.Url.Domain
import ArticleMarkdown.Url.Percent

/-!
# Web addresses

An absolute address without query and fragment: how it is read, following the URL standard, and
how it is written. The written form of an address serves as the key under which its resource is
known.
-/

namespace ArticleMarkdown.Url

/-- The families of schemes, which differ in separators, hosts and paths. -/
inductive Family where
  /-- Schemes of the web, which always have a host. -/
  | web
  | file
  | other
  deriving DecidableEq, Repr

/-- The family of a scheme in lower case. -/
def Family.ofScheme (scheme : Text) : Family :=
  match String.ofList scheme with
  | "http" | "https" | "ws" | "wss" | "ftp" => .web
  | "file" => .file
  | _ => .other

/-- The port that a scheme uses when none is written. -/
def defaultPort? (scheme : Text) : Option Nat :=
  match String.ofList scheme with
  | "http" | "ws" => some 80
  | "https" | "wss" => some 443
  | "ftp" => some 21
  | _ => none

/-- Whether a character separates the segments of a path. -/
def Family.isSeparator (family : Family) (c : Char) : Bool :=
  c == '/' || (c == '\\' && family != .other)

/-- Whether a character starts the query or the fragment. -/
def endsPath (c : Char) : Bool :=
  c == '?' || c == '#'

/-- Whom the resource is asked from. User name and password are percent-encoded. -/
structure Authority where
  user : Text
  password : Text
  /-- The host, if it is not empty. -/
  host : Option Host
  /-- The port, if it is not the scheme's own. -/
  port : Option Nat
  deriving DecidableEq, Repr

/-- The path of an address. -/
inductive Path where
  /-- Text without structure, as in a mail address. -/
  | plain (text : Text)
  /-- Segments, each written after a slash. -/
  | segments (list : List Text)
  deriving DecidableEq, Repr

/-- An absolute address without query and fragment. -/
structure Address where
  scheme : Text
  authority : Option Authority
  path : Path
  deriving DecidableEq, Repr

namespace Path

/-- A segment that stands for the same directory. -/
def isSingleDot (segment : Text) : Bool :=
  [".".toList, "%2e".toList].contains (Text.lower segment)

/-- A segment that stands for the directory above. -/
def isDoubleDot (segment : Text) : Bool :=
  ["..".toList, "%2e.".toList, ".%2e".toList, "%2e%2e".toList].contains (Text.lower segment)

/-- A letter and a colon or bar, which names a drive at the start of a file's path. -/
def isDriveLetter : Text → Bool
  | [letter, mark] => Text.isAsciiLetter letter && (mark == ':' || mark == '|')
  | _ => false

/-- The segments without the last one; a file's path keeps its drive. -/
def dropLastSegment (family : Family) (segments : List Text) : List Text :=
  match segments.getLast? with
  | some last => if family == .file && isDriveLetter last then segments else segments.dropLast
  | none => segments

/-- A segment as it is kept; the drive of a file's path is written with a colon. -/
def keepSegment (family : Family) (done : List Text) (segment : Text) : Text :=
  if family == .file && isDriveLetter segment && done.all List.isEmpty then
    segment.take 1 ++ [':']
  else segment

/-- Adds further segments to the segments of a path, resolving dots. The last one is what follows
the last separator, so dots there leave a final separator. -/
def resolve (family : Family) (done : List Text) : List Text → List Text
  | [] => done
  | segment :: rest =>
    let ending := if rest.isEmpty then [[]] else []
    let done :=
      if isDoubleDot segment then dropLastSegment family done ++ ending
      else if isSingleDot segment then done ++ ending
      else done ++ [keepSegment family done segment]
    resolve family done rest

/-- The segments of a path, given without its first separator. -/
def readSegments (family : Family) (t : Text) : List Text :=
  resolve family [] ((Text.splitBy family.isSeparator t).map (percentEncode isPathReserved))

/-- The text without one separator at its start. -/
def dropSeparator (family : Family) (t : Text) : Text :=
  match t with
  | c :: rest => if family.isSeparator c then rest else t
  | [] => []

/-- The path as it is written. -/
def write : Path → Text
  | .plain text => text
  | .segments list => list.flatMap fun segment => '/' :: segment

end Path

namespace Authority

/-- Reads user name and password, given without the at sign. -/
def readUser (t : Text) : Text × Text :=
  let (user, password) := (Text.splitFirst? ':' t).getD (t, [])
  (percentEncode isUserReserved user, percentEncode isUserReserved password)

/-- Splits a host from the colon and port after it; colons in brackets belong to the host. -/
def splitPort (bracketed : Bool) : Text → Text × Option Text
  | [] => ([], none)
  | c :: rest =>
    if c == ':' && !bracketed then ([], some rest)
    else
      let bracketed := if c == '[' then true else if c == ']' then false else bracketed
      let (host, port) := splitPort bracketed rest
      (c :: host, port)

/-- Reads a port; the result is the number, if any digit is written, and what follows it. -/
def readPort? (t : Text) : Option (Option Nat × Text) :=
  let digits := t.takeWhile Text.isAsciiDigit
  let rest := t.dropWhile Text.isAsciiDigit
  let port := Host.digitsValue 10 (digits.map fun d => d.toNat - 48)
  if port > 65535 then none
  else if rest.isEmpty || rest.head? == some '\\' then
    some (if digits.isEmpty then none else some port, rest)
  else none

/-- A character that no host of a scheme without domains can hold. -/
def isForbiddenInName (c : Char) : Bool :=
  "\x00\t\n\r #/:<>?@[\\]^|".toList.contains c

/-- Reads a version 6 address in brackets. -/
def readBracketed? (t : Text) : Option Host :=
  match t with
  | '[' :: rest => (Text.dropLast? ']' rest).bind fun inner => (Host.ipv6? inner).map .ipv6
  | _ => none

/-- Reads the host of a scheme with domains. -/
def readDomain? (t : Text) : Option Host :=
  if t.head? == some '[' then readBracketed? t
  else (Text.ofUtf8? (percentDecode t)).bind fun decoded =>
    (Domain.toAscii? decoded).bind fun domain =>
      if domain.isEmpty then none
      else if Host.endsInNumber domain then (Host.ipv4? domain).map .ipv4
      else some (.name domain)

/-- Reads the host of a scheme without domains. -/
def readName? (t : Text) : Option Host :=
  if t.head? == some '[' then readBracketed? t
  else if t.any isForbiddenInName then none
  else some (.name (percentEncode isControl t))

/-- Reads what stands between the slashes and the path. `beforePath` tells that a path, query or
fragment follows. The result holds the text after the port, which the path then starts with. -/
def read? (scheme : Text) (family : Family) (beforePath : Bool) (t : Text) :
    Option (Authority × Text) :=
  let (userText, hostText) :=
    (Text.splitLast? '@' t).map (fun (u, h) => (some u, h)) |>.getD (none, t)
  if userText == some [] && hostText.isEmpty && beforePath then none
  else
    let (user, password) := readUser (userText.getD [])
    let (name, portText) := splitPort false hostText
    if name.isEmpty then
      if family == .web || portText.isSome || !user.isEmpty || !password.isEmpty then none
      else some (⟨[], [], none, none⟩, [])
    else
      ((if family == .web then readDomain? name else readName? name)).bind fun host =>
        (match portText with
          | none => some (none, [])
          | some portText => readPort? portText).bind fun (port, rest) =>
          let port := if port == defaultPort? scheme then none else port
          some (⟨user, password, some host, port⟩, rest)

/-- The authority as it is written after the slashes. -/
def write (a : Authority) : Text :=
  let password := if a.password.isEmpty then [] else ':' :: a.password
  let user := if a.user.isEmpty && a.password.isEmpty then [] else a.user ++ password ++ ['@']
  let port := match a.port with
    | none => []
    | some n => ':' :: Text.ofNat n
  user ++ (a.host.map Host.write).getD [] ++ port

end Authority

namespace Address

/-- Whether a character is ignored wherever it stands in an address. -/
def isIgnored (c : Char) : Bool :=
  c == '\t' || c == '\n' || c == '\r'

/-- The text without control characters and spaces at its ends and without ignored characters. -/
def prepare (t : Text) : Text :=
  let outer (c : Char) : Bool := c.toNat ≤ 0x20
  (Text.dropEndWhile outer (t.dropWhile outer)).filter fun c => !isIgnored c

/-- Splits a text at the colon after a scheme; the scheme is returned in lower case. -/
def splitScheme? (t : Text) : Option (Text × Text) :=
  let isSchemeChar (c : Char) : Bool :=
    Text.isAsciiAlphanumeric c || c == '+' || c == '-' || c == '.'
  let scheme := t.takeWhile isSchemeChar
  match scheme, t.dropWhile isSchemeChar with
  | first :: _, ':' :: rest =>
    if Text.isAsciiLetter first then some (Text.lower scheme, rest) else none
  | _, _ => none

/-- What stands before the first separator, query or fragment, and the rest. -/
def spanAuthority (family : Family) (t : Text) : Text × Text :=
  t.span fun c => !family.isSeparator c && !endsPath c

/-- Reads what follows the slashes before an authority. -/
def readWithAuthority? (scheme : Text) (family : Family) (t : Text) : Option Address :=
  let (authorityText, rest) := spanAuthority family t
  (Authority.read? scheme family (!rest.isEmpty) authorityText).map fun (authority, skipped) =>
    let pathText := skipped ++ rest.takeWhile fun c => !endsPath c
    let segments :=
      if pathText.isEmpty && family == .other then []
      else Path.readSegments family (Path.dropSeparator family pathText)
    ⟨scheme, some authority, .segments segments⟩

/-- The segments of a file's path, without empty ones before others. -/
def dropLeadingEmpty : List Text → List Text
  | [] :: next :: rest => dropLeadingEmpty (next :: rest)
  | segments => segments

/-- The address of a file on a host, from the text of its path. -/
def ofFilePath (scheme : Text) (host : Option Host) (pathText : Text) : Address :=
  let segments := dropLeadingEmpty (Path.readSegments .file pathText)
  let host := if segments.head?.any Path.isDriveLetter then none else host
  ⟨scheme, some ⟨[], [], host, none⟩, .segments segments⟩

/-- Reads what follows the scheme of a local file. -/
def readFile? (scheme : Text) (t : Text) : Option Address :=
  let t := t.takeWhile fun c => !endsPath c
  let isSeparator := Family.file.isSeparator
  match t with
  | first :: second :: rest =>
    if isSeparator first && isSeparator second then
      let (hostText, pathText) := rest.span fun c => !isSeparator c
      if hostText.isEmpty || Path.isDriveLetter hostText then
        some (ofFilePath scheme none (Path.dropSeparator .file rest))
      else
        (Authority.readDomain? hostText).map fun host =>
          let host := if host == .name "localhost".toList then none else some host
          ofFilePath scheme host (Path.dropSeparator .file pathText)
    else some (ofFilePath scheme none (Path.dropSeparator .file t))
  | _ => some (ofFilePath scheme none (Path.dropSeparator .file t))

/-- Reads what follows a scheme that needs no authority. -/
def readOther? (scheme : Text) (t : Text) : Option Address :=
  match t with
  | '/' :: '/' :: rest => readWithAuthority? scheme .other rest
  | '/' :: rest =>
    some ⟨scheme, none, .segments (Path.readSegments .other (rest.takeWhile fun c => !endsPath c))⟩
  | _ =>
    let text := percentEncode isControl (t.takeWhile fun c => !endsPath c)
    some ⟨scheme, none, .plain (Text.dropEndWhile (· == ' ') text)⟩

/-- Reads an absolute address; query and fragment are dropped. -/
def read? (t : Text) : Option Address :=
  (splitScheme? (prepare t)).bind fun (scheme, rest) =>
    match Family.ofScheme scheme with
    | .web => readWithAuthority? scheme .web (rest.dropWhile Family.web.isSeparator)
    | .file => readFile? scheme rest
    | .other => readOther? scheme rest

/-- The address as it is written. A path that would read as an authority is marked by a dot. -/
def write (a : Address) : Text :=
  let authority := match a.authority, a.path with
    | some authority, _ => '/' :: '/' :: authority.write
    | none, .segments ([] :: _ :: _) => ['/', '.']
    | none, _ => []
  a.scheme ++ ':' :: authority ++ a.path.write

/-- The name of the host, for an address that has one. -/
def hostText? (a : Address) : Option Text :=
  (a.authority.bind (·.host)).map Host.write

end Address

/-- The key of a resource: its address without query and fragment, in written form. A relative
address, which nothing resolves, is cut at its query or fragment. -/
def canonical (raw : Text) : Text :=
  let raw := Text.trim raw
  match Address.read? raw with
  | some address => address.write
  | none => raw.takeWhile fun c => !endsPath c

/-- The extension of the file that an address names, in lower case: one to five letters or digits
after the last dot of the last segment, which must not start with that dot. -/
def fileExtension? (raw : Text) : Option Text :=
  match Text.splitLast? '.' (Text.afterLast '/' (canonical raw)) with
  | none => none
  | some (stem, extension) =>
    if stem.isEmpty || extension.isEmpty || extension.length > 5 ||
        !extension.all Text.isAsciiAlphanumeric then none
    else some (Text.lower extension)

end ArticleMarkdown.Url
