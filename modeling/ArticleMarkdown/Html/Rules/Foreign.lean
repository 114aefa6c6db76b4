import ArticleMarkdown.Html.Builder

/-!
# Drawings and formulas

Elements of drawings and formulas keep their own languages: names in the case that the language
writes them, and attributes in namespaces. Some of their elements hold HTML again.
-/

namespace ArticleMarkdown.Html.Rules

open Builder

/-- Element names of drawings that have capital letters. -/
def drawingNames : List String :=
  ["altGlyph", "altGlyphDef", "altGlyphItem", "animateColor", "animateMotion", "animateTransform",
    "clipPath", "feBlend", "feColorMatrix", "feComponentTransfer", "feComposite",
    "feConvolveMatrix", "feDiffuseLighting", "feDisplacementMap", "feDistantLight", "feDropShadow",
    "feFlood", "feFuncA", "feFuncB", "feFuncG", "feFuncR", "feGaussianBlur", "feImage", "feMerge",
    "feMergeNode", "feMorphology", "feOffset", "fePointLight", "feSpecularLighting", "feSpotLight",
    "feTile", "feTurbulence", "foreignObject", "glyphRef", "linearGradient", "radialGradient",
    "textPath"]

/-- Attribute names of drawings that have capital letters. -/
def drawingAttributes : List String :=
  ["attributeName", "attributeType", "baseFrequency", "baseProfile", "calcMode", "clipPathUnits",
    "diffuseConstant", "edgeMode", "filterUnits", "glyphRef", "gradientTransform", "gradientUnits",
    "kernelMatrix", "kernelUnitLength", "keyPoints", "keySplines", "keyTimes", "lengthAdjust",
    "limitingConeAngle", "markerHeight", "markerUnits", "markerWidth", "maskContentUnits",
    "maskUnits", "numOctaves", "pathLength", "patternContentUnits", "patternTransform",
    "patternUnits", "pointsAtX", "pointsAtY", "pointsAtZ", "preserveAlpha", "preserveAspectRatio",
    "primitiveUnits", "refX", "refY", "repeatCount", "repeatDur", "requiredExtensions",
    "requiredFeatures", "specularConstant", "specularExponent", "spreadMethod", "startOffset",
    "stdDeviation", "stitchTiles", "surfaceScale", "systemLanguage", "tableValues", "targetX",
    "targetY", "textLength", "viewBox", "viewTarget", "xChannelSelector", "yChannelSelector",
    "zoomAndPan"]

/-- Attribute names of formulas that have capital letters. -/
def formulaAttributes : List String :=
  ["definitionURL"]

/-- A name in the case in which a list has it. -/
def inCaseOf (list : List String) (name : String) : String :=
  (list.find? fun known => Text.lower known.toList == name.toList).getD name

/-- An attribute in its namespace. -/
def inNamespace (a : Attribute) : Attribute :=
  match a.name with
  | "xlink:actuate" => { a with space := .xlink, name := "actuate" }
  | "xlink:arcrole" => { a with space := .xlink, name := "arcrole" }
  | "xlink:href" => { a with space := .xlink, name := "href" }
  | "xlink:role" => { a with space := .xlink, name := "role" }
  | "xlink:show" => { a with space := .xlink, name := "show" }
  | "xlink:title" => { a with space := .xlink, name := "title" }
  | "xlink:type" => { a with space := .xlink, name := "type" }
  | "xml:lang" => { a with space := .xml, name := "lang" }
  | "xml:space" => { a with space := .xml, name := "space" }
  | "xmlns" => { a with space := .xmlns }
  | "xmlns:xlink" => { a with space := .xmlns, name := "xlink" }
  | _ => a

/-- The attributes of an element of another language. -/
def foreignAttributes (space : ElementSpace) (attributes : List Attribute) : List Attribute :=
  let known := match space with
    | .svg => drawingAttributes
    | .mathml => formulaAttributes
    | .html | .other _ => []
  attributes.map fun a => inNamespace { a with name := inCaseOf known a.name }

/-- Opens an element of another language. A tag that closes itself opens nothing. -/
def openForeign (b : Builder) (space : ElementSpace) (tag : Tag) : Builder :=
  let (e, b) := b.insert space tag.name (foreignAttributes space tag.attributes)
  if tag.selfClosing then b else b.push e

/-- HTML elements that end drawings and formulas when they start in them. -/
def breakoutNames : List String :=
  ["b", "big", "blockquote", "body", "br", "center", "code", "dd", "div", "dl", "dt", "em",
    "embed", "h1", "h2", "h3", "h4", "h5", "h6", "head", "hr", "i", "img", "li", "listing", "menu",
    "meta", "nobr", "ol", "p", "pre", "ruby", "s", "small", "span", "strong", "strike", "sub",
    "sup", "table", "tt", "u", "ul", "var"]

/-- Whether a tag ends drawings and formulas when it starts an element in them. -/
def breaksOut (tag : Tag) : Bool :=
  breakoutNames.contains tag.name ||
    (tag.name == "font" && tag.attributes.any fun a =>
      a.space == .none && ["color", "face", "size"].contains a.name)

/-- Whether a token in the current element follows the rules of another language. -/
def isForeign (stack : Stack) (token : Token) : Bool :=
  let isText := match token with
    | .space _ | .text _ | .null => true
    | _ => false
  let isStart := match token with
    | .startTag _ => true
    | _ => false
  match stack, token with
  | [], _ | _, .eof => false
  | current :: _, token =>
    if current.space = .html then false
    else if current.holdsFormulaText &&
        (isText || match token with
          | .startTag tag => tag.name ≠ "mglyph" && tag.name ≠ "malignmark"
          | _ => false) then false
    else if current.holdsHtml && (isText || isStart) then false
    else if current.space == .mathml && current.name == "annotation-xml" then
      match token with
      | .startTag tag => tag.name ≠ "svg" && !current.embeds
      | _ => !(isText && current.embeds)
    else true

/-- Closes elements until the current one takes HTML. -/
def closeForeign (b : Builder) : Builder :=
  b.withStack (Stack.closeUntil fun e => e.space == .html || e.holdsFormulaText || e.holdsHtml)

/-- Starts an element of the language of the current element. -/
def startForeign (b : Builder) (tag : Tag) : Builder :=
  match b.stack with
  | [] => b
  | current :: _ =>
    let name := if current.space = .svg then inCaseOf drawingNames tag.name else tag.name
    openForeign b current.space { tag with name }

/-- Ends an element of another language, unless an element of HTML comes before it; then the rules
of the mode, `byMode`, decide. -/
def endForeign (b : Builder) (name : String) (byMode : Outcome) : Outcome :=
  let isNamed (e : OpenElement) : Bool := Text.eqIgnoringCase e.name.toList name.toList
  let found : Option OpenElement := match b.stack with
    | [] => none
    | current :: rest =>
      if isNamed current then some current
      else rest.find? fun e => e.space == .html || isNamed e
  match found with
  | none => .done b
  | some e =>
    if e.space = .html then byMode else .done (b.withStack (Stack.closeThrough (·.id == e.id)))

end ArticleMarkdown.Html.Rules
