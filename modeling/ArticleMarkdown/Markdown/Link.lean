import ArticleMarkdown.Document.Node
import ArticleMarkdown.Fragment.Basic
import ArticleMarkdown.Fragment.Resolve
import ArticleMarkdown.Text.Bytes
import ArticleMarkdown.Url.Address

/-!
# Links and footnotes

A link is a label in brackets and a destination in parentheses. Brackets in labels are escaped; a
destination that would end early is put in angle brackets. A reference to a footnote names its note
by number; the notes of a section are numbered in the order in which their entries stand in it.
-/

namespace ArticleMarkdown.Link

/-- A label with its brackets escaped. -/
def escapeLabel (t : Text) : Text :=
  t.flatMap fun c => if c == '[' || c == ']' then ['\\', c] else [c]

/-- Whether a character would end a bare destination. -/
def endsDestination (c : Char) : Bool :=
  Text.isSpace c || c == '(' || c == ')' || c == '<' || c == '>'

/-- A destination as it is written. -/
def destination (address : Text) : Text :=
  if address.any endsDestination then
    '<' :: (address.flatMap fun c =>
      if c == '<' then "%3C".toList else if c == '>' then "%3E".toList else [c]) ++ ['>']
  else address

/-- The end of a link: the bracket that closes its label, and the destination. -/
def ending (address : Text) : Text :=
  ']' :: '(' :: destination address ++ [')']

/-- A link whose label is plain text. -/
def ofText (label address : Text) : Text :=
  '[' :: escapeLabel label ++ ending address

/-- The hosts of the platform's search engine. -/
def searchHosts : List Text :=
  ["so.csdn.net".toList, "www.so.csdn.net".toList]

/-- Whether an address leads to the platform's search engine. -/
def isSearch (address : Text) : Bool :=
  ((Url.Address.read? address).bind (·.hostText?)).any fun host =>
    searchHosts.contains (Text.lower host)

/-- The class of links back from a footnote, which are dropped. -/
def backReferenceClass : String := "footnote-backref"

/-- The class of links that show their title. -/
def cardClass : String := "has-card"

/-- Content as a label, which stays on one line. -/
def label (content : Fragment) : Fragment :=
  content.flattened.trim

/-- What a link becomes, as far as its attributes decide. -/
inductive Form where
  /-- The link is dropped with its content. -/
  | dropped
  /-- The link shows this title in place of its content. -/
  | card (title address : Text)
  /-- The link leads to the search engine and is replaced by its content. -/
  | stripped
  /-- The link shows its content and leads nowhere. -/
  | unlinked
  /-- The link shows its content and leads to an address. -/
  | linked (address : Text)
  deriving DecidableEq, Repr

/-- The form of a link with given attributes. -/
def form (stripSearch : Bool) (attributes : List Attribute) : Form :=
  let address := Text.trim (Attribute.valueOf attributes "href")
  let title := Text.trim (Attribute.valueOf attributes "title")
  if Attribute.hasClass attributes backReferenceClass then .dropped
  else if Attribute.hasClass attributes cardClass && !title.isEmpty && !address.isEmpty then
    .card title address
  else if stripSearch && isSearch address then .stripped
  else if address.isEmpty then .unlinked
  else .linked address

/-- A link to an address that shows the given content, or the address if it shows nothing. -/
def around (address : Text) (content : Fragment) : Fragment :=
  let label := label content
  if label.isBlank then Fragment.inlineText (ofText address address)
  else Fragment.inlined (Fragment.ofText ['['] ++ label ++ Fragment.ofText (ending address))

/-- The content of a link that leads nowhere. -/
def unlinked (content : Fragment) : Fragment :=
  let label := label content
  if label.isBlank then ∅ else Fragment.inlined label

/-- The content that replaces a link. -/
def stripped (content : Fragment) : Fragment :=
  Fragment.inlined (label content)

end ArticleMarkdown.Link

/-! ## Footnotes -/

namespace ArticleMarkdown.Note

/-- The class of footnote references. -/
def referenceClass : String := "footnote-ref"

/-- The class of sections of footnotes. -/
def sectionClass : String := "footnotes"

/-- The glyph that links back from a note. -/
def returnGlyph : Text := "↩︎".toList

/-- The reference that an element with given attributes and children shows, if it shows one. -/
def reference? (attributes : List Attribute) (children : List Node) : Option Fragment :=
  let number := (Node.textContents children).filter Text.isAsciiDigit
  if Attribute.hasClass attributes referenceClass && !number.isEmpty then
    some (Fragment.ofText ('[' :: '^' :: number ++ [']']))
  else none

/-- The text of a note. -/
def text (entry : Node) : Text :=
  Text.trim ((Text.removeAll returnGlyph entry.textContent).filter fun c => !Text.isLineBreak c)

/-- The definition of a note. -/
def definition (index : Nat) (entry : Node) : Text :=
  "[^".toList ++ Text.ofNat (index + 1) ++ "]: ".toList ++ text entry

/-- The definitions of the notes among given children. -/
def definitions (children : List Node) : Fragment :=
  let entries := (Node.subtrees children).filter (Node.isElement "li")
  if entries.isEmpty then ∅
  else
    Fragment.blockText
      (Text.join ['\n'] (entries.zipIdx.map fun (entry, index) => definition index entry))

end ArticleMarkdown.Note
