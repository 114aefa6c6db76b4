import ArticleMarkdown.Html.Reference
import ArticleMarkdown.Html.Token

/-!
# Reading tags

A tag has a name and attributes. After the name, each character moves the reader to another place
of the tag, until a bracket closes it. Of two attributes with one name the first counts.
-/

namespace ArticleMarkdown.Html

/-- Where in a tag a reader stands, after the tag's name. -/
inductive TagPlace where
  | between
  | name
  | afterName
  /-- After the equals sign of an attribute. -/
  | beforeValue
  | quoted (quote : Char)
  | unquoted
  | solidus
  deriving DecidableEq, Repr

/-- A reader of attributes: what it has read of the current attribute, last character first, and
the attributes before it, last attribute first. -/
structure TagReader where
  place : TagPlace := .between
  name : Text := []
  value : Text := []
  attributes : List (Text × Text) := []
  deriving Repr

/-- A null character is shown by the replacement character. -/
def showNull (c : Char) : Char :=
  if c == '\x00' then '\ufffd' else c

namespace TagReader

/-- Completes the current attribute. -/
def complete (r : TagReader) : TagReader :=
  let name := r.name.reverse
  let attributes :=
    if name.isEmpty || r.attributes.any (·.1 == name) then r.attributes
    else (name, Reference.decode true r.value.reverse) :: r.attributes
  { r with name := [], value := [], attributes }

/-- Starts an attribute with a character of its name. -/
def begin (r : TagReader) (c : Char) : TagReader :=
  { r.complete with place := .name, name := [showNull (Text.lowerChar c)] }

/-- What a character does to a reader before an attribute; nothing if it closes the tag. -/
def between? (r : TagReader) (c : Char) : Option TagReader :=
  if isSpace c then some { r with place := .between }
  else if c == '/' then some { r with place := .solidus }
  else if c == '>' then none
  else some (r.begin c)

/-- What a character does to a reader; nothing if it closes the tag. -/
def step? (r : TagReader) (c : Char) : Option TagReader :=
  match r.place with
  | .between | .solidus => r.between? c
  | .name =>
    if isSpace c then some { r with place := .afterName }
    else if c == '=' then some { r with place := .beforeValue }
    else if c == '/' || c == '>' then r.between? c
    else some { r with name := showNull (Text.lowerChar c) :: r.name }
  | .afterName =>
    if isSpace c then some r
    else if c == '=' then some { r with place := .beforeValue }
    else r.between? c
  | .beforeValue =>
    if isSpace c then some r
    else if c == '"' || c == '\'' then some { r with place := .quoted c }
    else if c == '>' then none
    else some { r with place := .unquoted, value := showNull c :: r.value }
  | .quoted quote =>
    if c == quote then some { r with place := .between }
    else some { r with value := showNull c :: r.value }
  | .unquoted =>
    if isSpace c then some { r with place := .between }
    else if c == '>' then none
    else some { r with value := showNull c :: r.value }

/-- The attributes read, in the order of the tag. -/
def result (r : TagReader) : List Attribute :=
  r.complete.attributes.reverse.map fun (name, value) => ⟨.none, String.ofList name, value⟩

/-- Reads to the end of a tag: its attributes, whether it closes itself, and the text after it.
There is no tag where the input ends first. -/
def run : TagReader → Text → Option (List Attribute × Bool × Text)
  | _, [] => none
  | r, c :: rest =>
    match r.step? c with
    | some r => run r rest
    | none => some (r.result, r.place == .solidus, rest)

end TagReader

/-- Reads a tag from the start of its name: the name, its attributes, whether it closes itself, and
the text after it. -/
def readTag? (t : Text) : Option (String × List Attribute × Bool × Text) :=
  let inName (c : Char) : Bool := !(isSpace c || c == '/' || c == '>')
  let name := (t.takeWhile inName).map fun c => showNull (Text.lowerChar c)
  (TagReader.run {} (t.dropWhile inName)).map fun found => (String.ofList name, found)

end ArticleMarkdown.Html
