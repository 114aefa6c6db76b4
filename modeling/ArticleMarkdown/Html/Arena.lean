import ArticleMarkdown.Document.Node

/-!
# Documents while they are read

While markup is read, nodes move. An arena holds them by number, each with its parent and its
children; the finished document is taken from it as a tree.
-/

namespace ArticleMarkdown.Html

/-- What a node is, apart from its place. -/
inductive Item where
  | document
  | element (space : ElementSpace) (name : String) (attributes : List Attribute)
  | text (content : Text)
  | comment (content : Text)
  deriving DecidableEq, Repr, Inhabited

/-- A node and its place. -/
structure Slot where
  item : Item
  parent : Option Nat := none
  /-- The children, last child first. -/
  children : List Nat := []
  deriving Repr, Inhabited

/-- Nodes by number. -/
structure Arena where
  slots : Array Slot := #[]
  deriving Repr, Inhabited

namespace Arena

/-- The number of the next node. -/
def size (a : Arena) : Nat :=
  a.slots.size

/-- The node of a number. -/
def slot? (a : Arena) (id : Nat) : Option Slot :=
  a.slots[id]?

/-- Changes the node of a number. -/
def modify (a : Arena) (id : Nat) (change : Slot → Slot) : Arena :=
  ⟨a.slots.modify id change⟩

/-- Adds a node that has no place; its number is the size before. -/
def add (a : Arena) (item : Item) : Arena :=
  ⟨a.slots.push { item }⟩

/-- The children of a node, last child first. -/
def childrenReversed (a : Arena) (id : Nat) : List Nat :=
  ((a.slot? id).map (·.children)).getD []

/-- The parent of a node. -/
def parent? (a : Arena) (id : Nat) : Option Nat :=
  (a.slot? id).bind (·.parent)

/-- Makes a node the last child of another. -/
def append (a : Arena) (parent child : Nat) : Arena :=
  (a.modify child ({ · with parent := some parent })).modify parent fun slot =>
    { slot with children := child :: slot.children }

/-- Takes a node out of its place. -/
def detach (a : Arena) (id : Nat) : Arena :=
  match a.parent? id with
  | none => a
  | some parent =>
    (a.modify id ({ · with parent := none })).modify parent fun slot =>
      { slot with children := slot.children.erase id }

/-- Puts one number before another in a list whose order is reversed. -/
def insertBefore (new sibling : Nat) : List Nat → List Nat
  | [] => [new]
  | id :: rest => if id = sibling then id :: new :: rest else id :: insertBefore new sibling rest

/-- Puts a node before a child of `parent`. -/
def appendBefore (a : Arena) (parent sibling child : Nat) : Arena :=
  (a.modify child ({ · with parent := some parent })).modify parent fun slot =>
    { slot with children := insertBefore child sibling slot.children }

/-- Adds text to a node if it is a text node. -/
def extendText? (a : Arena) (id : Option Nat) (t : Text) : Option Arena :=
  id.bind fun id =>
    match (a.slot? id).map Slot.item with
    | some (.text before) => some (a.modify id ({ · with item := .text (before ++ t) }))
    | some .document | some (.element _ _ _) | some (.comment _) | none => none

/-- Appends text below a node; text after text is one text node. -/
def appendText (a : Arena) (parent : Nat) (t : Text) : Arena :=
  match a.extendText? (a.childrenReversed parent).head? t with
  | some a => a
  | none => (a.add (.text t)).append parent a.size

/-- Puts text before a child of `parent`; text after text is one text node. -/
def appendTextBefore (a : Arena) (parent sibling : Nat) (t : Text) : Arena :=
  let before := ((a.childrenReversed parent).dropWhile (· ≠ sibling)).tail.head?
  match a.extendText? before t with
  | some a => a
  | none => (a.add (.text t)).appendBefore parent sibling a.size

/-- Moves all children of a node below another node that has none. -/
def moveChildren (a : Arena) (source target : Nat) : Arena :=
  let children := a.childrenReversed source
  let a := children.foldl (fun a child => a.modify child ({ · with parent := some target })) a
  (a.modify source ({ · with children := [] })).modify target ({ · with children })

/-- Gives an element the attributes of a list that it does not have. -/
def addAttributes (a : Arena) (id : Nat) (attributes : List Attribute) : Arena :=
  a.modify id fun slot =>
    match slot.item with
    | .element space name own =>
      let missing := attributes.filter fun new => !own.any fun old => old.name == new.name
      { slot with item := .element space name (own ++ missing) }
    | .document | .text _ | .comment _ => slot

/-- The tree below a node, of at most `depth` levels. -/
def toNode (a : Arena) : (depth : Nat) → (id : Nat) → Node
  | 0, _ => .document []
  | depth + 1, id =>
    match a.slot? id with
    | none => .document []
    | some slot =>
      let children := slot.children.reverse.map (toNode a depth)
      match slot.item with
      | .document => .document children
      | .element space name attributes => .element space name attributes children
      | .text content => .text content
      | .comment content => .comment content

end Arena
end ArticleMarkdown.Html
