import ArticleMarkdown.Html.Token

/-!
# Document types

A document type names the language of a document. Documents of old languages, and documents whose
type cannot be read, are laid out by legacy rules: there a table does not end the paragraph before
it.
-/

namespace ArticleMarkdown.Html

/-- What a document type names. -/
structure Doctype where
  name : Text
  publicId : Option Text := none
  /-- The address of the language's definition. -/
  systemId : Option Text := none
  deriving DecidableEq, Repr

namespace Doctype

/-- Reads a quoted identifier and gives the text after it. -/
def quoted? (t : Text) : Option (Text × Text) :=
  match t.dropWhile isSpace with
  | '"' :: rest => Text.splitFirst? '"' rest
  | '\'' :: rest => Text.splitFirst? '\'' rest
  | _ => none

/-- What follows a keyword, in any case. -/
def keyword? (word : String) (t : Text) : Option Text :=
  if Text.eqIgnoringCase (t.take word.length) word.toList then some (t.drop word.length) else none

/-- Reads what stands between the word that opens a document type and the bracket that closes
it. -/
def read? (t : Text) : Option Doctype :=
  let t := t.dropWhile isSpace
  let name := Text.lower (t.takeWhile fun c => !isSpace c)
  let rest := (t.dropWhile fun c => !isSpace c).dropWhile isSpace
  if name.isEmpty then none
  else if rest.isEmpty then some { name }
  else
    match keyword? "public" rest, keyword? "system" rest with
    | some rest, _ =>
      (quoted? rest).bind fun (publicId, rest) =>
        if (rest.dropWhile isSpace).isEmpty then some { name, publicId := some publicId }
        else (quoted? rest).map fun (systemId, _) =>
          { name, publicId := some publicId, systemId := some systemId }
    | none, some rest => (quoted? rest).map fun (systemId, _) => { name, systemId := some systemId }
    | none, none => none

/-- Starts of the public identifiers of old languages. -/
def legacyStarts : List String :=
  ["-//advasoft ltd//dtd html 3.0 aswedit + extensions//",
    "-//as//dtd html 3.0 aswedit + extensions//",
    "-//ietf//dtd html 2.0 level 1//",
    "-//ietf//dtd html 2.0 level 2//",
    "-//ietf//dtd html 2.0 strict level 1//",
    "-//ietf//dtd html 2.0 strict level 2//",
    "-//ietf//dtd html 2.0 strict//",
    "-//ietf//dtd html 2.0//",
    "-//ietf//dtd html 2.1e//",
    "-//ietf//dtd html 3.0//",
    "-//ietf//dtd html 3.2 final//",
    "-//ietf//dtd html 3.2//",
    "-//ietf//dtd html 3//",
    "-//ietf//dtd html level 0//",
    "-//ietf//dtd html level 1//",
    "-//ietf//dtd html level 2//",
    "-//ietf//dtd html level 3//",
    "-//ietf//dtd html strict level 0//",
    "-//ietf//dtd html strict level 1//",
    "-//ietf//dtd html strict level 2//",
    "-//ietf//dtd html strict level 3//",
    "-//ietf//dtd html strict//",
    "-//ietf//dtd html//",
    "-//metrius//dtd metrius presentational//",
    "-//microsoft//dtd internet explorer 2.0 html strict//",
    "-//microsoft//dtd internet explorer 2.0 html//",
    "-//microsoft//dtd internet explorer 2.0 tables//",
    "-//microsoft//dtd internet explorer 3.0 html strict//",
    "-//microsoft//dtd internet explorer 3.0 html//",
    "-//microsoft//dtd internet explorer 3.0 tables//",
    "-//netscape comm. corp.//dtd html//",
    "-//netscape comm. corp.//dtd strict html//",
    "-//o'reilly and associates//dtd html 2.0//",
    "-//o'reilly and associates//dtd html extended 1.0//",
    "-//o'reilly and associates//dtd html extended relaxed 1.0//",
    "-//softquad software//dtd hotmetal pro 6.0::19990601::extensions to html 4.0//",
    "-//softquad//dtd hotmetal pro 4.0::19971010::extensions to html 4.0//",
    "-//spyglass//dtd html 2.0 extended//",
    "-//sq//dtd html 2.0 hotmetal + extensions//",
    "-//sun microsystems corp.//dtd hotjava html//",
    "-//sun microsystems corp.//dtd hotjava strict html//",
    "-//w3c//dtd html 3 1995-03-24//",
    "-//w3c//dtd html 3.2 draft//",
    "-//w3c//dtd html 3.2 final//",
    "-//w3c//dtd html 3.2//",
    "-//w3c//dtd html 3.2s draft//",
    "-//w3c//dtd html 4.0 frameset//",
    "-//w3c//dtd html 4.0 transitional//",
    "-//w3c//dtd html experimental 19960712//",
    "-//w3c//dtd html experimental 970421//",
    "-//w3c//dtd w3 html//",
    "-//w3o//dtd w3 html 3.0//",
    "-//webtechs//dtd mozilla html 2.0//",
    "-//webtechs//dtd mozilla html//"]

/-- Public identifiers of old languages. -/
def legacyNames : List String :=
  ["-//w3o//dtd w3 html strict 3.0//en//", "-/w3c/dtd html 4.0 transitional/en", "html"]

/-- Starts of public identifiers that are legacy where no address follows. -/
def legacyStartsAlone : List String :=
  ["-//w3c//dtd html 4.01 frameset//", "-//w3c//dtd html 4.01 transitional//"]

/-- The address that marks a language as old. -/
def legacyAddress : String :=
  "http://www.ibm.com/data/dtd/v11/ibmxhtml1-transitional.dtd"

/-- Whether a document of this type is laid out by legacy rules. -/
def isLegacy (d : Doctype) : Bool :=
  let starts (list : List String) (t : Text) : Bool :=
    list.any fun start => Text.startsWith start.toList t
  let publicId := d.publicId.map Text.lower
  let systemId := d.systemId.map Text.lower
  d.name != "html".toList ||
    publicId.any (fun id => legacyNames.any fun name => name.toList == id) ||
    systemId.any (fun address => address == legacyAddress.toList) ||
    publicId.any (starts legacyStarts) ||
    (systemId.isNone && publicId.any (starts legacyStartsAlone))

/-- The token of a document type. -/
def token (t : Text) : Token :=
  .doctype ((read? t).all isLegacy)

end Doctype
end ArticleMarkdown.Html
