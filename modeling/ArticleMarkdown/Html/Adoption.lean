import ArticleMarkdown.Html.Builder

/-!
# End tags of formatting elements

A formatting element may end while blocks in it are still open. Then the blocks are taken out of
it, and their content is put into a copy of it.
-/

namespace ArticleMarkdown.Html.Builder

/-- Closes the innermost element of a name, unless a special element stands above it. -/
def closeOrdinary (b : Builder) (name : String) : Builder :=
  match b.stack.find? fun e => e.isHtml name || e.isSpecial with
  | some e =>
    if e.isHtml name then b.withStack fun s => (Stack.closeUntil (·.id == e.id) s).drop 1 else b
  | none => b

/-- The state of moving a block out of a formatting element. -/
structure Removal where
  arena : Arena
  formatting : List Formatting
  /-- The open elements between that stay open, outermost first. -/
  kept : Stack := []
  /-- The outermost node so far of what moves. -/
  moved : Nat
  /-- The formatting element after which the copy is listed. -/
  mark : Option Nat := none

/-- Puts an entry right after the entry of a node; the latest entry comes first. -/
def insertAfter (id : Nat) (new : Formatting) : List Formatting → List Formatting
  | [] => [new]
  | f :: rest => if f.isOf id then new :: f :: rest else f :: insertAfter id new rest

/-- Puts what moves into a copy of each formatting element between, up to three of them; other
elements between are closed. -/
def wrapMoved (block : Nat) : (count : Nat) → Stack → Removal → Removal
  | _, [], r => r
  | count, e :: rest, r =>
    match r.formatting.find? (·.isOf e.id) with
    | some (.element _ tag) =>
      if count < 3 then
        let (copy, arena) := create r.arena .html tag.name tag.attributes
        let formatting := r.formatting.map fun f =>
          if f.isOf e.id then .element copy.id tag else f
        wrapMoved block (count + 1) rest
          { arena := (arena.detach r.moved).append copy.id r.moved, formatting,
            kept := copy :: r.kept, moved := copy.id,
            mark := if r.moved = block then some copy.id else r.mark }
      else
        wrapMoved block (count + 1) rest { r with formatting := dropFormatting e.id r.formatting }
    | some .boundary | none => wrapMoved block (count + 1) rest r

/-- Takes the outermost block out of a formatting element that is open. `above` holds the elements
above the block, `between` those between the block and the formatting element, `below` those below
the formatting element. -/
def removeBlock (b : Builder) (id : Nat) (tag : Tag) (above : Stack) (block : OpenElement)
    (between below : Stack) : Builder :=
  let r := wrapMoved block.id 0 between
    { arena := b.arena, formatting := b.formatting, moved := block.id }
  let arena := r.arena.detach r.moved
  let target := match below with
    | [] => Place.lastIn documentId
    | ancestor :: _ => { b with arena }.placeIn ancestor
  let (copy, arena) := create (put arena r.moved target) .html tag.name tag.attributes
  let arena := (arena.moveChildren block.id copy.id).append block.id copy.id
  let entry := Formatting.element copy.id tag
  let formatting := match r.mark with
    | some mark => dropFormatting id (insertAfter mark entry r.formatting)
    | none => r.formatting.map fun f => if f.isOf id then entry else f
  { b with
    arena, formatting, stack := above ++ copy :: block :: (r.kept.reverse ++ below) }

/-- Ends the innermost formatting element of a name, up to `count` times while blocks are left in
it. -/
def adopt (name : String) : (count : Nat) → Builder → Builder
  | 0, b => b
  | count + 1, b =>
    match b.recentFormatting.find? (Formatting.isNamed name) with
    | some (.element id tag) =>
      if !b.stack.any (·.id == id) then
        { b with formatting := dropFormatting id b.formatting }
      else if !b.stack.hasInScope OpenElement.bounds (·.id == id) then b
      else
        let inner := b.stack.takeWhile (·.id != id)
        let below := (b.stack.dropWhile (·.id != id)).drop 1
        match inner.reverse.find? OpenElement.isSpecial with
        | none => { b with stack := below, formatting := dropFormatting id b.formatting }
        | some block =>
          let above := inner.takeWhile (·.id != block.id)
          let between := (inner.dropWhile (·.id != block.id)).drop 1
          adopt name count (b.removeBlock id tag above block between below)
    | some .boundary | none => b.closeOrdinary name

/-- Ends a formatting element by its end tag. -/
def endFormatting (b : Builder) (name : String) : Builder :=
  let isCurrent := b.stack.currentIs name &&
    !b.stack.head?.any fun e => b.formatting.any (·.isOf e.id)
  if isCurrent then b.pop else adopt name 8 b

/-- Before a link starts, ends a link that is open. -/
def endOpenLink (b : Builder) : Builder :=
  match (b.recentFormatting.find? (Formatting.isNamed "a")).bind Formatting.id? with
  | some id =>
    let b := b.endFormatting "a"
    { b with formatting := dropFormatting id b.formatting, stack := b.stack.remove id }
  | none => b

end ArticleMarkdown.Html.Builder
