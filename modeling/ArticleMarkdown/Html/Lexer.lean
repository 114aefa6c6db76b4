import ArticleMarkdown.Html.Doctype
import ArticleMarkdown.Html.TagReader

/-!
# Reading tokens

`Lexer.next` reads the tokens at the start of an input. Some elements hold text in which tags are
not read; `Content` says what is being read.
-/

namespace ArticleMarkdown.Html

/-- What an input is read as. -/
inductive Content where
  | markup
  /-- Text with character references, up to the end tag of an element. -/
  | escapable (element : String)
  /-- Plain text, up to the end tag of an element. -/
  | raw (element : String)
  /-- A script, up to its end tag. -/
  | script
  /-- Plain text without an end. -/
  | plain
  deriving DecidableEq, Repr, Inhabited

namespace Lexer

/-- The character that ends the name of a tag. -/
def endsName (c : Char) : Bool :=
  isSpace c || c == '/' || c == '>'

/-- Whether a text starts with a word, in any case, at which the name of a tag ends. -/
def startsWithName (word t : Text) : Bool :=
  Text.eqIgnoringCase (t.take word.length) word && (t.drop word.length).head?.any endsName

/-- The text up to the end tag of an element, and the rest from that tag on. -/
def untilEndTag (element : Text) : Text → Text × Text
  | [] => ([], [])
  | c :: rest =>
    if startsWithName ('<' :: '/' :: element) (c :: rest) then ([], c :: rest)
    else
      let (before, after) := untilEndTag element rest
      (c :: before, after)

/-- How far a script is into comments: a comment within a script hides the script's end tag while
another script is open in that comment. -/
inductive ScriptDepth where
  | plain
  | comment
  | nested
  deriving DecidableEq, Repr

/-- The name of the element that holds scripts. -/
def scriptName : Text :=
  "script".toList

/-- The text of a script up to its end tag, and the rest from that tag on. `dashes` counts the
dashes just read, up to two. -/
def untilScriptEnd : ScriptDepth → (dashes : Nat) → Text → Text × Text
  | _, _, [] => ([], [])
  | depth, dashes, c :: rest =>
    if depth ≠ .nested ∧ c = '<' ∧ startsWithName ('/' :: scriptName) rest then ([], c :: rest)
    else
      let dashesNow := if c == '-' && depth ≠ .plain then min 2 (dashes + 1) else 0
      let (depth, dashesNow) : ScriptDepth × Nat :=
        match depth with
        | .plain =>
          if c == '<' && Text.startsWith "!--".toList rest then (.comment, 0) else (.plain, 0)
        | .comment =>
          if c == '<' && startsWithName scriptName rest then (.nested, 0)
          else if c == '>' && dashes == 2 then (.plain, 0)
          else (.comment, dashesNow)
        | .nested =>
          if c == '<' && startsWithName ('/' :: scriptName) rest then (.comment, 0)
          else if c == '>' && dashes == 2 then (.plain, 0)
          else (.nested, dashesNow)
      let (before, after) := untilScriptEnd depth dashesNow rest
      (c :: before, after)

/-- Where in a comment a reader stands. -/
inductive CommentPlace where
  | start
  | startDash
  | inside
  | dash
  | dashes
  /-- After two dashes and an exclamation mark. -/
  | bang
  deriving DecidableEq, Repr

/-- What of a comment has been held back where a reader stands. -/
def CommentPlace.held : CommentPlace → Text
  | .start | .inside => []
  | .startDash | .dash => ['-']
  | .dashes => ['-', '-']
  | .bang => ['-', '-', '!']

/-- Where a character of a comment leads, and the text that it completes; nothing if it ends the
comment. -/
def CommentPlace.step? (place : CommentPlace) (c : Char) : Option (CommentPlace × Text) :=
  match place, c with
  | .start, '-' => some (.startDash, [])
  | .startDash, '-' | .dash, '-' => some (.dashes, [])
  | .inside, '-' => some (.dash, [])
  | .dashes, '-' => some (.dashes, ['-'])
  | .bang, '-' => some (.dash, place.held)
  | .dashes, '!' => some (.bang, [])
  | .start, '>' | .startDash, '>' | .dashes, '>' | .bang, '>' => none
  | .start, c | .startDash, c | .inside, c | .dash, c | .dashes, c | .bang, c =>
    some (.inside, place.held ++ [showNull c])

/-- The text of a comment, and the rest after it. -/
def commentFrom : CommentPlace → Text → Text × Text
  | _, [] => ([], [])
  | place, c :: rest =>
    match place.step? c with
    | none => ([], rest)
    | some (place, completed) =>
      let (before, after) := commentFrom place rest
      (completed ++ before, after)

/-- The text up to a closing bracket, and the rest after it. -/
def untilBracket (t : Text) : Text × Text :=
  (t.takeWhile (· != '>'), (t.dropWhile (· != '>')).drop 1)

/-- A comment that stands for a declaration which is none. -/
def strayDeclaration (t : Text) : List Token × Text :=
  let (content, rest) := untilBracket t
  ([.comment (content.map showNull)], rest)

/-- The mark that opens a section of characters. -/
def sectionStart : Text :=
  "[CDATA[".toList

/-- The mark that closes a section of characters. -/
def sectionEnd : Text :=
  "]]>".toList

/-- The text of a section of characters, and the rest after it. -/
def untilSectionEnd : Text → Text × Text
  | [] => ([], [])
  | c :: rest =>
    if Text.startsWith sectionEnd (c :: rest) then ([], (c :: rest).drop sectionEnd.length)
    else
      let (before, after) := untilSectionEnd rest
      (c :: before, after)

/-- Reads what follows an opening bracket and an exclamation mark. -/
def declaration (foreign : Bool) (t : Text) : List Token × Text :=
  match Text.dropPrefix? "--".toList t with
  | some rest =>
    let (content, rest) := commentFrom .start rest
    ([.comment content], rest)
  | none =>
    match Doctype.keyword? "doctype" t with
    | some rest =>
      let (content, rest) := untilBracket rest
      ([Doctype.token content], rest)
    | none =>
      match if foreign then Text.dropPrefix? sectionStart t else none with
      | some rest =>
        let (content, rest) := untilSectionEnd rest
        (Token.ofTextWithNulls content, rest)
      | none => strayDeclaration t

/-- Reads an end tag from the start of its name. An unfinished tag stands for nothing. -/
def endTag (t : Text) : List Token × Text :=
  match readTag? t with
  | some (name, _, _, rest) => ([.endTag name], rest)
  | none => ([], [])

/-- Reads what follows an opening bracket. -/
def bracket (foreign : Bool) (t : Text) : List Token × Text :=
  match t with
  | '!' :: rest => declaration foreign rest
  | '?' :: _ => strayDeclaration t
  | ['/'] => ([.text ['<', '/']], [])
  | '/' :: '>' :: rest => ([.malformed], rest)
  | '/' :: c :: rest =>
    if Text.isAsciiLetter c then endTag (c :: rest) else strayDeclaration (c :: rest)
  | c :: _ =>
    if Text.isAsciiLetter c then
      match readTag? t with
      | some (name, attributes, selfClosing, rest) =>
        ([.startTag ⟨name, attributes, selfClosing⟩], rest)
      | none => ([], [])
    else ([.text ['<']], t)
  | [] => ([.text ['<']], [])

/-- Reads the tokens at the start of text with tags. Sections of characters are read only where the
current element is `foreign`. -/
def markup (foreign : Bool) (t : Text) : List Token × Text :=
  match t with
  | '<' :: rest => bracket foreign rest
  | '\x00' :: rest => ([.null], rest)
  | _ =>
    let inRun (c : Char) : Bool := c != '<' && c != '\x00'
    (Token.ofText (Reference.decode false (t.takeWhile inRun)), t.dropWhile inRun)

/-- The text of an element without tags, and its end tag. -/
def closing (read : Text → Text) (found : Text × Text) : List Token × Text :=
  let (before, after) := found
  let (tag, rest) := endTag (after.drop 2)
  (Token.ofText (read (before.map showNull)) ++ tag, rest)

/-- Reads the tokens at the start of an input that is not empty. At least one character is read. -/
def nextOf (content : Content) (foreign : Bool) (t : Text) : List Token × Text :=
  match content with
  | .markup => markup foreign t
  | .escapable element => closing (Reference.decode false) (untilEndTag element.toList t)
  | .raw element => closing id (untilEndTag element.toList t)
  | .script => closing id (untilScriptEnd .plain 0 t)
  | .plain => (Token.ofText (t.map showNull), [])

/-- Reads the tokens at the start of an input; where nothing is left, that is its end. -/
def next (content : Content) (foreign : Bool) (t : Text) : List Token × Text :=
  if t.isEmpty then ([.eof], []) else nextOf content foreign t

end Lexer
end ArticleMarkdown.Html
