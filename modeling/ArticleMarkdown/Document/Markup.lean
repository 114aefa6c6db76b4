import ArticleMarkdown.Document.Node

/-!
# Documents as markup

The written form of a document: void elements have no end tag and show no elements below them,
scripts and the like hold text as it is, and elsewhere the characters with a meaning are escaped.
-/

namespace ArticleMarkdown.Markup

/-- Elements without content and end tag. -/
def voidNames : List String :=
  ["area", "base", "basefont", "bgsound", "br", "col", "embed", "frame", "hr", "img", "input",
    "keygen", "link", "meta", "param", "source", "track", "wbr"]

/-- Elements whose text is written as it is. -/
def rawTextNames : List String :=
  ["style", "script", "xmp", "iframe", "noembed", "noframes", "plaintext", "noscript"]

/-- A character of text or of a quoted attribute value, escaped. -/
def escapeChar (quoted : Bool) (c : Char) : Text :=
  if c == '&' then "&amp;".toList
  else if c == '\u00a0' then "&nbsp;".toList
  else if c == '"' && quoted then "&quot;".toList
  else if c == '<' && !quoted then "&lt;".toList
  else if c == '>' && !quoted then "&gt;".toList
  else [c]

/-- Text between tags. -/
def escapeText (t : Text) : Text :=
  t.flatMap (escapeChar false)

/-- Text between double quotes. -/
def escapeValue (t : Text) : Text :=
  t.flatMap (escapeChar true)

/-- The name of an attribute with the mark of its namespace. -/
def attributeName (a : Attribute) : Text :=
  let mark := match a.space with
    | .none => ""
    | .xml => "xml:"
    | .xmlns => if a.name == "xmlns" then "" else "xmlns:"
    | .xlink => "xlink:"
    | .other _ => "unknown_namespace:"
  mark.toList ++ a.name.toList

/-- An attribute in a start tag, after a space. -/
def writeAttribute (a : Attribute) : Text :=
  ' ' :: attributeName a ++ '=' :: '"' :: escapeValue a.value ++ ['"']

/-- A start tag. -/
def startTag (name : String) (attributes : List Attribute) : Text :=
  '<' :: name.toList ++ attributes.flatMap writeAttribute ++ ['>']

/-- An end tag. -/
def endTag (name : String) : Text :=
  '<' :: '/' :: name.toList ++ ['>']

/-- Whether an element is void. -/
def isVoid (space : ElementSpace) (name : String) : Bool :=
  space == .html && voidNames.contains name

/-- Whether an element holds raw text. -/
def holdsRawText (space : ElementSpace) (name : String) : Bool :=
  space == .html && rawTextNames.contains name

mutual

/-- The markup of a node. `raw` tells that it stands in an element of raw text, `hidden` that tags
are not shown because it stands in a void element. A document within a document shows its children;
only a tree put together by hand has one, and below an element a serializer may refuse it. -/
def writeNode (raw hidden : Bool) : Node → Text
  | .text content => if raw then content else escapeText content
  | .element space name attributes children =>
    let content := writeNodes (holdsRawText space name) (hidden || isVoid space name) children
    if hidden then content
    else if isVoid space name then startTag name attributes ++ content
    else startTag name attributes ++ content ++ endTag name
  | .comment content => "<!--".toList ++ content ++ "-->".toList
  | .doctype name => "<!DOCTYPE ".toList ++ name.toList ++ ['>']
  | .instruction target data => "<?".toList ++ target ++ ' ' :: data ++ ['>']
  | .document children => writeNodes false hidden children

/-- The markup of nodes one after another. -/
def writeNodes (raw hidden : Bool) : List Node → Text
  | [] => []
  | node :: rest => writeNode raw hidden node ++ writeNodes raw hidden rest

end

/-- The markup of a node and of what lies below it. -/
def outer (node : Node) : Text :=
  writeNode false false node

/-- The markup of nodes that stand in no element. -/
def inner (nodes : List Node) : Text :=
  writeNodes false false nodes

/-- Text put into markup of our own: all characters with a meaning are escaped. -/
def encodeText (t : Text) : Text :=
  t.flatMap fun c =>
    if c == '&' then "&amp;".toList
    else if c == '<' then "&lt;".toList
    else if c == '>' then "&gt;".toList
    else [c]

/-- A quoted attribute value put into markup of our own. -/
def encodeValue (t : Text) : Text :=
  t.flatMap fun c =>
    if c == '&' then "&amp;".toList
    else if c == '<' then "&lt;".toList
    else if c == '>' then "&gt;".toList
    else if c == '"' then "&quot;".toList
    else [c]

end ArticleMarkdown.Markup
