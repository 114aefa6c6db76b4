import ArticleMarkdown.Document.Markup
import ArticleMarkdown.Markdown.Draft
import ArticleMarkdown.Markup.OneLine
import ArticleMarkdown.Settings.Basic
import ArticleMarkdown.Text.Bytes

/-!
# Drawings

A drawing in a document becomes a file, an image that holds its markup, or the markup itself.
Wherever it stands alone it has to name its namespaces.
-/

namespace ArticleMarkdown.Drawing

/-- The namespace of drawings. -/
def drawingNamespace : Text := "http://www.w3.org/2000/svg".toList

/-- The namespace of documents. -/
def documentNamespace : Text := "http://www.w3.org/1999/xhtml".toList

/-- Whether a drawing is not shown. -/
def isHidden (attributes : List Attribute) : Bool :=
  (Attribute.styleProperty? attributes "display").any fun value =>
    Text.eqIgnoringCase value "none".toList

mutual

/-- Names the namespace of blocks that stand directly in a drawing's foreign parts; `foreign` tells
that the node stands directly in one. -/
def nameForeign (foreign : Bool) : Node → Node
  | .element space name attributes children =>
    let attributes :=
      if foreign && Attribute.sameName name "div" then
        Attribute.set "xmlns" documentNamespace attributes
      else attributes
    .element space name attributes
      (nameAllForeign (Attribute.sameName name "foreignObject") children)
  | .document children => .document (nameAllForeign false children)
  | .text content => .text content
  | .comment content => .comment content
  | .doctype name => .doctype name
  | .instruction target data => .instruction target data

/-- Names the namespace of blocks in the foreign parts of a drawing. -/
def nameAllForeign (foreign : Bool) : List Node → List Node
  | [] => []
  | node :: rest => nameForeign foreign node :: nameAllForeign foreign rest

end

/-- The attributes of a drawing with its namespace named. -/
def nameSpace (attributes : List Attribute) : List Attribute :=
  if (Attribute.find? attributes "xmlns").isSome then attributes
  else Attribute.set "xmlns" drawingNamespace attributes

/-- The markup of a drawing that stands alone. -/
def markup (space : ElementSpace) (name : String) (attributes : List Attribute)
    (children : List Node) : Text :=
  Markup.outer (.element space name (nameSpace attributes) (nameAllForeign false children))

/-- An image of a drawing's file. -/
def fileReference (path : Text) : Fragment :=
  Fragment.blockText ("![](".toList ++ path ++ [')'])

/-- An image that holds the markup of a drawing. -/
def embedded (markup : Text) : Fragment :=
  Fragment.blockText
    ("![](data:image/svg+xml;base64,".toList ++ Text.base64 (Text.utf8 markup) ++ [')'])

/-- The markup of a drawing, centred. -/
def inPlace (markup : Text) : Fragment :=
  Fragment.blockText
    ("<div align=\"center\">".toList ++ Markup.oneLine markup ++ "</div>".toList)

/-- The draft of a drawing. -/
def draft (s : Settings) (space : ElementSpace) (name : String) (attributes : List Attribute)
    (children : List Node) : Draft Fragment :=
  if isHidden attributes then .of ∅
  else
    let markup := markup space name attributes children
    if s.localizeAssets then
      (Draft.path (.drawing markup s.assetDirectory s.assetPrefix)).map fileReference
    else if (Node.subtrees children).any (Node.isElement "style") then .of (embedded markup)
    else .of (inPlace markup)

end ArticleMarkdown.Drawing
