import ArticleMarkdown.Text.Basic

/-!
# Documents

A document is a tree of nodes. Elements and attributes keep the namespace they were read in; names
keep their case. Conversions compare element names and attribute names up to the case of ASCII
letters where they look for something, and exactly where they choose a rule.

Some elements ask for every image below them to stand in a paragraph of its own. Within such an
element, images carry a mark, which shows where markup is passed through.
-/

namespace ArticleMarkdown

/-- The namespace of an element. -/
inductive ElementSpace where
  | html
  | svg
  | mathml
  | other (uri : String)
  deriving DecidableEq, Repr, Inhabited

/-- The namespace of an attribute. -/
inductive AttributeSpace where
  | none
  | xlink
  | xml
  | xmlns
  | other (uri : String)
  deriving DecidableEq, Repr, Inhabited

/-- An attribute of an element. -/
structure Attribute where
  space : AttributeSpace
  name : String
  value : Text
  deriving DecidableEq, Repr, Inhabited

/-- A node of a document. -/
inductive Node where
  | text (content : Text)
  | element (space : ElementSpace) (name : String) (attributes : List Attribute)
      (children : List Node)
  | comment (content : Text)
  | doctype (name : String)
  | instruction (target data : Text)
  | document (children : List Node)
  deriving Repr, Inhabited

namespace Attribute

/-- Whether two names are equal up to the case of ASCII letters. -/
def sameName (a b : String) : Bool :=
  Text.eqIgnoringCase a.toList b.toList

/-- The value of the first attribute of a name, in any case. -/
def find? (attributes : List Attribute) (name : String) : Option Text :=
  (attributes.find? fun a => sameName a.name name).map (·.value)

/-- The value of an attribute, empty when it is missing. -/
def valueOf (attributes : List Attribute) (name : String) : Text :=
  (find? attributes name).getD []

/-- Sets the first attribute of exactly this name, or adds one. -/
def set (name : String) (value : Text) : List Attribute → List Attribute
  | [] => [⟨.none, name, value⟩]
  | a :: rest =>
    if a.name == name then { a with value } :: rest else a :: set name value rest

/-- The classes of an element. -/
def classes (attributes : List Attribute) : List Text :=
  Text.words (valueOf attributes "class")

/-- Whether an element has a class. -/
def hasClass (attributes : List Attribute) (name : String) : Bool :=
  (classes attributes).contains name.toList

/-- The value of a property in the inline style. -/
def styleProperty? (attributes : List Attribute) (property : String) : Option Text :=
  (Text.splitOn ';' (valueOf attributes "style")).findSome? fun declaration =>
    (Text.splitFirst? ':' declaration).bind fun (name, value) =>
      if Text.eqIgnoringCase (Text.trim name) property.toList then some (Text.trim value) else none

end Attribute

namespace Node

/-- The nodes directly below a node. -/
def children : Node → List Node
  | .element _ _ _ children | .document children => children
  | .text _ | .comment _ | .doctype _ | .instruction _ _ => []

/-- The attributes of an element; other nodes have none. -/
def attributes : Node → List Attribute
  | .element _ _ attributes _ => attributes
  | .text _ | .comment _ | .doctype _ | .instruction _ _ | .document _ => []

/-- The name of an element. -/
def name? : Node → Option String
  | .element _ name _ _ => some name
  | .text _ | .comment _ | .doctype _ | .instruction _ _ | .document _ => none

/-- Whether a node is an element of a name, in any case. -/
def isElement (name : String) (node : Node) : Bool :=
  node.name?.any fun own => Attribute.sameName own name

/-- Whether a node is an element with a class. -/
def hasClass (name : String) (node : Node) : Bool :=
  Attribute.hasClass node.attributes name

mutual

/-- A node and everything below it, in document order. -/
def subtree : Node → List Node
  | .text content => [.text content]
  | .element space name attributes children =>
    .element space name attributes children :: subtrees children
  | .comment content => [.comment content]
  | .doctype name => [.doctype name]
  | .instruction target data => [.instruction target data]
  | .document children => .document children :: subtrees children

/-- Nodes and everything below them, in document order. -/
def subtrees : List Node → List Node
  | [] => []
  | node :: rest => subtree node ++ subtrees rest

end

/-- Everything below a node, in document order. -/
def descendants (node : Node) : List Node :=
  subtrees node.children

mutual

/-- The text of a node and of what lies below it, without elements that `skip` selects. -/
def textContentWithout (skip : List Attribute → Bool) : Node → Text
  | .text content => content
  | .element _ _ attributes children =>
    if skip attributes then [] else textContentsWithout skip children
  | .comment _ => []
  | .doctype _ => []
  | .instruction _ _ => []
  | .document children => textContentsWithout skip children

/-- The text of nodes one after another, without elements that `skip` selects. -/
def textContentsWithout (skip : List Attribute → Bool) : List Node → Text
  | [] => []
  | node :: rest => textContentWithout skip node ++ textContentsWithout skip rest

end

/-- The text of a node and of what lies below it. -/
def textContent (node : Node) : Text :=
  textContentWithout (fun _ => false) node

/-- The text of nodes one after another. -/
def textContents (nodes : List Node) : Text :=
  textContentsWithout (fun _ => false) nodes

/-! ## Centred images -/

/-- The attribute that marks an image as centred. -/
def centerMark : String := "data-md-center"

/-- The attributes of an element within a centring element. -/
def markAttributes (name : String) (attributes : List Attribute) : List Attribute :=
  if Attribute.sameName name "img" then Attribute.set centerMark "true".toList attributes
  else attributes

mutual

/-- The node with every image marked, itself included. -/
def markImages : Node → Node
  | .element space name attributes children =>
    .element space name (markAttributes name attributes) (markAllImages children)
  | .document children => .document (markAllImages children)
  | .text content => .text content
  | .comment content => .comment content
  | .doctype name => .doctype name
  | .instruction target data => .instruction target data

/-- The nodes with every image marked. -/
def markAllImages : List Node → List Node
  | [] => []
  | node :: rest => markImages node :: markAllImages rest

end

/-- A node as it shows its attributes: marked within a centring element. -/
def shown (centered : Bool) (node : Node) : Node :=
  if centered then markImages node else node

/-- Nodes as they show their attributes. -/
def allShown (centered : Bool) (nodes : List Node) : List Node :=
  if centered then markAllImages nodes else nodes

end Node
end ArticleMarkdown
