import ArticleMarkdown.Json.Basic
import ArticleMarkdown.Settings.Basic

/-!
# Settings as JSON

Settings are read from an object of named fields, in any order, or from a list of fields in their
fixed order. Fields that are missing keep their defaults, and unknown names are skipped. The depth
of list nesting is no field.
-/

namespace ArticleMarkdown.Settings

/-- The choices that have a name in a settings file. -/
inductive Field where
  | assetDirectory
  | assetPrefix
  | tableOfContents
  | localizeAssets
  | centerImages
  | keepImageSizes
  | keepColors
  | stripSearchLinks
  deriving DecidableEq, Repr

namespace Field

/-- The fields in their fixed order. -/
def all : List Field :=
  [.assetDirectory, .assetPrefix, .tableOfContents, .localizeAssets, .centerImages,
    .keepImageSizes, .keepColors, .stripSearchLinks]

/-- The name of a field in a settings file. -/
def name : Field → String
  | .assetDirectory => "assetDirName"
  | .assetPrefix => "assetFilePrefix"
  | .tableOfContents => "enableTOC"
  | .localizeAssets => "saveImagesLocally"
  | .centerImages => "forceImageCentering"
  | .keepImageSizes => "preserveImageDimensions"
  | .keepColors => "preserveColoredText"
  | .stripSearchLinks => "stripSearchEngineLinks"

/-- The field of a name. -/
def ofName? (t : Text) : Option Field :=
  all.find? fun field => field.name.toList == t

/-- Reads the value of a field into settings. -/
def read (field : Field) (s : Settings) (t : Text) : Json.Result Settings :=
  match field with
  | .assetDirectory => (Json.text t).map fun (v, rest) => ({ s with assetDirectory := v }, rest)
  | .assetPrefix => (Json.text t).map fun (v, rest) => ({ s with assetPrefix := v }, rest)
  | .tableOfContents => (Json.flag t).map fun (v, rest) => ({ s with tableOfContents := v }, rest)
  | .localizeAssets => (Json.flag t).map fun (v, rest) => ({ s with localizeAssets := v }, rest)
  | .centerImages => (Json.flag t).map fun (v, rest) => ({ s with centerImages := v }, rest)
  | .keepImageSizes => (Json.flag t).map fun (v, rest) => ({ s with keepImageSizes := v }, rest)
  | .keepColors => (Json.flag t).map fun (v, rest) => ({ s with keepColors := v }, rest)
  | .stripSearchLinks => (Json.flag t).map fun (v, rest) => ({ s with stripSearchLinks := v }, rest)

/-- The value of a field of settings, in JSON. -/
def write (field : Field) (s : Settings) : Text :=
  match field with
  | .assetDirectory => Json.writeText s.assetDirectory
  | .assetPrefix => Json.writeText s.assetPrefix
  | .tableOfContents => Json.writeFlag s.tableOfContents
  | .localizeAssets => Json.writeFlag s.localizeAssets
  | .centerImages => Json.writeFlag s.centerImages
  | .keepImageSizes => Json.writeFlag s.keepImageSizes
  | .keepColors => Json.writeFlag s.keepColors
  | .stripSearchLinks => Json.writeFlag s.stripSearchLinks

end Field

/-- Reads the member whose name has been read: a field, once, or something to skip. -/
def readMember (seen : List Field) (s : Settings) (name t : Text) :
    Except Json.Fault (List Field × Settings × Text) :=
  let field? := Field.ofName? name
  if field?.any seen.contains then .error .mismatched
  else
    match Json.skipSpace t with
    | ':' :: rest =>
      match field? with
      | some field => (field.read s rest).map fun (s, rest) => (field :: seen, s, rest)
      | none => (Json.skip rest).map fun rest => (seen, s, rest)
    | rest => .error (Json.unexpected rest)

/-- Reads the remaining members of an object. The fuel bounds their number; `first` tells that
none has been read. -/
def readMembers : (fuel : Nat) → (first : Bool) → List Field → Settings → Text →
    Json.Result Settings
  | 0, _, _, _, _ => .error .incomplete
  | fuel + 1, first, seen, s, t =>
    let member (t : Text) : Json.Result Settings :=
      match t with
      | '"' :: rest =>
        (Json.string rest).bind fun (name, rest) =>
          (readMember seen s name rest).bind fun (seen, s, rest) =>
            readMembers fuel false seen s rest
      | rest => .error (Json.unexpected rest)
    match Json.skipSpace t with
    | '\x7d' :: rest => .ok (s, rest)
    | ',' :: rest => if first then .error .malformed else member (Json.skipSpace rest)
    | rest => if first then member rest else .error (Json.unexpected rest)

/-- Reads the values of `fields` from the remaining items of a list. -/
def readItems (first : Bool) (s : Settings) : List Field → Text → Json.Result Settings
  | [], t =>
    match Json.skipSpace t with
    | ']' :: rest => .ok (s, rest)
    | rest => .error (Json.unexpected rest)
  | field :: fields, t =>
    match Json.skipSpace t with
    | ']' :: rest => .ok (s, rest)
    | ',' :: rest =>
      if first then .error .malformed
      else
        match Json.skipSpace rest with
        | ']' :: _ => .error .malformed
        | rest => (field.read s rest).bind fun (s, rest) => readItems false s fields rest
    | [] => .error .incomplete
    | rest =>
      if first then (field.read s rest).bind fun (s, rest) => readItems false s fields rest
      else .error .malformed

/-- Reads settings from a JSON text. -/
def read (t : Text) : Except Json.Fault Settings :=
  (match Json.skipSpace t with
    | '\x7b' :: rest => readMembers (rest.length + 1) true [] {} rest
    | '[' :: rest => readItems true {} Field.all rest
    | rest => .error (Json.mismatch rest)).bind fun (s, rest) =>
    match Json.skipSpace rest with
    | [] => .ok s
    | _ :: _ => .error .malformed

/-- Settings as a JSON object, in compact form. -/
def write (s : Settings) : Text :=
  let member (field : Field) : Text :=
    Json.writeText field.name.toList ++ ':' :: field.write s
  '\x7b' :: Text.join [','] (Field.all.map member) ++ ['\x7d']

end ArticleMarkdown.Settings
