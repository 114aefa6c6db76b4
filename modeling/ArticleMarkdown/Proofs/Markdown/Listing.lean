import ArticleMarkdown.Proofs.Markdown.Margins
import ArticleMarkdown.Proofs.Markdown.Leaves

/-!
# Lists of texts and lists

The children of a list are items with a text each, lists that stand directly in the list, and nodes
that are no elements. The list is laid out as a block of lines: each of its items has a row, and
the lines of the lists in it and the blank lines have none (`Listing.rows`). All rows start in the
first column, and wherever the list is put, it is a block that holds its rows
(`Listing.holds_node`).
-/

namespace ArticleMarkdown

namespace Plain

private theorem getLast?_squeezeFrom (inRun : Bool) {t : Text} {c : Char} (last : c ∈ t.getLast?)
    (solid : isMarkupSpace c = false) : c ∈ (squeezeFrom inRun t).getLast? := by
  fun_induction squeezeFrom inRun t with
  | case1 => cases last
  | case2 inRun d rest space ih =>
      by_cases alone : rest = []
      · subst alone
        have same : d = c := Option.some_inj.mp last
        rw [same, solid] at space
        cases space
      · rw [List.getLast?_cons_of_ne_nil alone] at last
        rw [List.getLast?_append, Option.mem_def.mp (ih last)]
        rfl
  | case3 inRun d rest _ ih =>
      by_cases alone : rest = []
      · subst alone
        exact last
      · rw [List.getLast?_cons_of_ne_nil alone] at last
        have below := ih last
        rw [List.getLast?_cons, Option.mem_def.mp below]
        rfl

/-- No line break is left of squeezed whitespace. -/
theorem lineBreak_notMem_squeezeFrom (inRun : Bool) (t : Text) : '\n' ∉ squeezeFrom inRun t := by
  fun_induction squeezeFrom inRun t with
  | case1 => exact List.not_mem_nil
  | case2 inRun c rest _ ih =>
      rw [List.mem_append, not_or]
      refine ⟨?_, ih⟩
      split <;> decide
  | case3 inRun c rest solid ih =>
      rw [List.mem_cons, not_or]
      refine ⟨?_, ih⟩
      rintro rfl
      exact solid rfl

private theorem finalText_edged (first last : Option Char) (t : Text) :
    (edgeBreak first ++ Fragment.ofText t ++ edgeBreak last).finalText = Text.trim t := by
  cases t <;> unfold edgeBreak <;> split <;> split <;> rfl

private theorem isMarkupSpace_of_solid {c : Char} (solid : Text.isSpace c = false) :
    isMarkupSpace c = false :=
  Text.stays_of_solid (fun _ => isSpace_of_isMarkupSpace) solid

/-- Squeezing keeps the edges of a trimmed text. -/
theorem trim_squeeze_trim (t : Text) :
    Text.trim (squeeze (Text.trim t)) = squeeze (Text.trim t) := by
  have opens : ∀ c ∈ (Text.trim t).head?, Text.isSpace c = false :=
    fun c first => Text.head?_trimStart (Text.head?_trimEnd first)
  have closes : ∀ c ∈ (Text.trim t).getLast?, Text.isSpace c = false :=
    fun c last => Text.getLast?_trim last
  generalize Text.trim t = u at opens closes
  apply Text.trim_of_edges
  · cases u with
    | nil => exact nofun
    | cons c rest =>
        rw [squeeze, squeezeFrom, isMarkupSpace_of_solid (opens c rfl), if_neg Bool.false_ne_true]
        rintro d ⟨⟩
        exact opens c rfl
  · intro d last
    rcases List.eq_nil_or_concat u with rfl | ⟨before, c, whole⟩
    · cases last
    · rw [List.concat_eq_append] at whole
      have final : c ∈ u.getLast? := by
        rw [whole]
        exact List.getLast?_concat
      have solid := closes c final
      have kept := getLast?_squeezeFrom false final (isMarkupSpace_of_solid solid)
      rw [squeeze, Option.mem_def.mp kept] at last
      cases last
      exact solid

/-- A text node alone is laid out trimmed, with single spaces. -/
theorem finalText_fragment (t : Text) : (fragment t).finalText = squeeze (Text.trim t) := by
  unfold fragment
  split
  · next nothing =>
    rw [nothing]
    unfold edgeBreak
    split <;> rfl
  · rw [finalText_edged, trim_squeeze_trim]

end Plain

open Text (Block Row)

/-- Rows one below another, with a line between them unless there are none on one side. -/
def Text.stackRows (upper lower : List (Option Text)) : List (Option Text) :=
  if upper.isEmpty then lower else if lower.isEmpty then upper else upper ++ none :: lower

/-- The name of the elements of a kind. -/
def ListKind.name : ListKind → String
  | .ordered => "ol"
  | .unordered => "ul"

/-- The line of an item that holds a text. -/
def ListKind.itemRow (kind : ListKind) (number : Nat) (text : Text) : Text :=
  Text.trimEnd (kind.mark number ++ Plain.squeeze (Text.trim text))

/-- The children of a list: items with one text each, lists that stand directly in the list, and
nodes that are no elements. -/
inductive Entries where
  | none
  | item (space : ElementSpace) (attributes : List Attribute) (text : Text) (rest : Entries)
  | nested (space : ElementSpace) (kind : ListKind) (attributes : List Attribute)
      (entries rest : Entries)
  | aside (node : Node) (unnamed : node.name? = .none) (rest : Entries)

namespace Entries

/-- The nodes that entries stand for. -/
def nodes : Entries → List Node
  | .none => []
  | .item space attributes text rest =>
    .element space "li" attributes [.text text] :: rest.nodes
  | .nested space kind attributes entries rest =>
    .element space kind.name attributes entries.nodes :: rest.nodes
  | .aside node _ rest => node :: rest.nodes

/-- The rows of a list whose items are numbered from `number` on. The items are its rows; the lines
of the lists in it have none, nor have the blank lines. -/
def rows (kind : ListKind) (number : Nat) : Entries → List (Option Text)
  | .none => []
  | .item _ _ text rest =>
    Text.stackRows [some (kind.itemRow number text)] (rest.rows kind (Text.countAfter number 1))
  | .nested _ own attributes entries rest =>
    Text.stackRows ((entries.rows own (own.start attributes)).map fun _ => .none)
      (rest.rows kind number)
  | .aside _ _ rest => rest.rows kind number

end Entries

/-- A list of texts and lists. -/
structure Listing where
  space : ElementSpace
  kind : ListKind
  attributes : List Attribute
  entries : Entries

namespace Listing

variable (list : Listing)

/-- The list as an element. -/
def node : Node :=
  .element list.space list.kind.name list.attributes list.entries.nodes

/-- The rows of the list: its own items, in order, with places for the lines between them. -/
def rows : List (Option Text) :=
  list.entries.rows list.kind (list.kind.start list.attributes)

end Listing

namespace Fragment

/-- Laid out below a block separator, the fragment adds nothing, or a block of rows in the first
column. It ends with a block separator, unless it is empty. -/
structure Lists (rows : List (Option Text)) (f : Fragment) : Prop where
  ended : f.tokens = [] ∨ ∃ block, f.tokens = block ++ [.blockBreak]
  adds : rows = [] ∧ Token.Adds f.tokens [] ∨
    ∃ lines, Token.Adds f.tokens (Text.join ['\n'] lines) ∧ Block ⟨0, 0⟩ rows lines ∧
      (rows.head? = some none ∨ Text.indent (Text.join ['\n'] lines) = 0)

namespace Lists

variable {rows others : List (Option Text)} {f g : Fragment}

private theorem empty : Lists [] ∅ where
  ended := .inl rfl
  adds := .inl ⟨rfl, Token.adds_nil⟩

private theorem append (lists : Lists rows f) (lists' : Lists others g) :
    Lists (Text.stackRows rows others) (f ++ g) where
  ended := by
    rw [tokens_append]
    obtain nothing | ⟨block, whole⟩ := lists.ended
    · rw [nothing]
      exact lists'.ended
    · right
      rw [whole, Token.join_block]
      obtain nothing | ⟨block', whole'⟩ := lists'.ended
      · exact ⟨block, by rw [nothing]; rfl⟩
      · exact ⟨block ++ .blockBreak :: block', by rw [whole']; simp [Token.join]⟩
  adds := by
    rw [tokens_append]
    obtain ⟨rfl, adds⟩ | ⟨lines, adds, block, flush⟩ := lists.adds
    · obtain ⟨nothing, below⟩ | ⟨lines, below, shown⟩ := lists'.adds
      · exact .inl ⟨nothing, adds.join below⟩
      · exact .inr ⟨lines, adds.join below, shown⟩
    · right
      have above : ¬ rows.isEmpty = true := mt List.isEmpty_iff.mp block.rows_ne_nil
      obtain ⟨rfl, adds'⟩ | ⟨lower, adds', block', -⟩ := lists'.adds
      · have joined := adds.join adds'
        rw [Text.stack_nil] at joined
        rw [Text.stackRows, if_neg above]
        exact ⟨lines, joined, block, flush⟩
      · have below : ¬ others.isEmpty = true := mt List.isEmpty_iff.mp block'.rows_ne_nil
        rw [Text.stackRows, if_neg above, if_neg below]
        refine ⟨lines ++ [] :: lower, ?_, block.append block', ?_⟩
        · rw [block.join_append block']
          exact adds.join adds'
        · rw [List.head?_append_of_ne_nil _ block.rows_ne_nil,
            Text.join_append _ block.filled (List.cons_ne_nil _ _), List.append_assoc,
            Text.indent_append_of_ink block.ink_ne_nil]
          exact flush

end Lists

/-- A block of rows in the first column. -/
theorem lists_of_laid {rows : List (Option Text)} {block : Fragment} {lines : List Text}
    (unbroken : .blockBreak ∉ block.tokens)
    (opens : ∀ c ∈ block.laid.head?, Text.isLineBreak c = false)
    (laid : Text.dropEndWhile Text.isSpacing block.laid = Text.join ['\n'] lines)
    (shown : Block ⟨0, 0⟩ rows lines)
    (flush : rows.head? = some none ∨ Text.indent (Text.join ['\n'] lines) = 0) :
    Lists rows block.closed where
  ended := .inr ⟨block.tokens, tokens_closed block⟩
  adds := by
    have adds := adds_blockBreak unbroken opens
    rw [laid] at adds
    exact .inr ⟨lines, adds, shown, flush⟩

end Fragment

namespace ListKind

variable (kind : ListKind) (number : Nat)

/-- The line of an item ends with its text, or with its mark where there is no text; only spacing
is cut off. -/
theorem itemRow_ends (text : Text) :
    ∃ before c, kind.itemRow number text = before ++ [c] ∧ Text.isSpace c = false ∧
      Text.dropEndWhile Text.isSpacing (kind.mark number ++ Plain.squeeze (Text.trim text)) =
        kind.itemRow number text := by
  have parts : ∃ before c after, kind.mark number ++ Plain.squeeze (Text.trim text) =
      before ++ c :: after ∧ Text.isSpace c = false ∧ (after = [] ∨ after = [' ']) := by
    have trimmed := Plain.trim_squeeze_trim text
    generalize Plain.squeeze (Text.trim text) = shown at trimmed
    rcases List.eq_nil_or_concat shown with rfl | ⟨before, c, whole⟩
    · -- Without a text, the space of the mark is cut off.
      rw [List.append_nil]
      cases kind with
      | ordered => exact ⟨Text.ofNat number, '.', [' '], rfl, rfl, .inr rfl⟩
      | unordered => exact ⟨[], '-', [' '], rfl, rfl, .inr rfl⟩
    · rw [List.concat_eq_append] at whole
      refine ⟨kind.mark number ++ before, c, [], ?_, ?_, .inl rfl⟩
      · rw [whole, List.append_assoc]
      · apply Text.getLast?_trim (t := shown)
        rw [trimmed, whole]
        exact List.getLast?_concat
  obtain ⟨before, c, after, whole, solid, ending⟩ := parts
  have tight := Text.stays_of_solid (fun _ => Text.isSpace_of_isSpacing) solid
  have cut : ∀ p : Char → Bool, p ' ' = true → p c = false →
      Text.dropEndWhile p (before ++ c :: after) = before ++ [c] := by
    intro p space stays
    rcases ending with rfl | rfl <;> simp [Text.dropEndWhile, space, stays]
  have row : kind.itemRow number text = before ++ [c] := by
    rw [itemRow, whole]
    exact cut Text.isSpace rfl solid
  refine ⟨before, c, row, solid, ?_⟩
  rw [row, whole]
  exact cut Text.isSpacing rfl tight

private theorem lineBreak_notMem_itemRow (text : Text) : '\n' ∉ kind.itemRow number text := by
  obtain ⟨after, -, whole⟩ :=
    Text.trimEnd_split (kind.mark number ++ Plain.squeeze (Text.trim text))
  intro member
  have inside := List.mem_append_left after member
  rw [itemRow, ← whole] at inside
  rcases List.mem_append.mp inside with marked | shown
  · have breaks := kind.lineBreak_of_mem_mark number marked
    cases breaks
  · exact Plain.lineBreak_notMem_squeezeFrom _ _ shown

/-- The line of an item starts with its mark. -/
theorem itemRow_opens (text : Text) :
    Text.OpensPlain (kind.itemRow number text) ∧
      ∀ c ∈ (kind.itemRow number text).head?, Text.isSpace c = false := by
  obtain ⟨c, rest, written, solid, plain⟩ := kind.mark_eq_cons number
  constructor
  · refine ⟨c, ?_, plain⟩
    rw [itemRow, Text.ink_trimEnd, written, List.cons_append, Text.ink_cons, solid]
    rfl
  · intro d first
    have marked := Text.head?_trimEnd first
    rw [written] at marked
    cases marked
    exact solid

private theorem block_itemRow (text : Text) :
    Block ⟨0, 0⟩ [some (kind.itemRow number text)] [kind.itemRow number text] := by
  obtain ⟨plain, solid⟩ := kind.itemRow_opens number text
  obtain ⟨before, c, row, ends, -⟩ := kind.itemRow_ends number text
  have single := kind.lineBreak_notMem_itemRow number text
  refine .intro ⟨?_, fun _ => plain, ?_⟩ plain.ink_ne_nil .nil
    (List.forall_mem_singleton.mpr single) ⟨_, rfl, single, before, c, row, ends⟩
  · rintro t ⟨⟩
    exact ⟨[], rfl, rfl⟩
  · rintro t ⟨⟩
    exact solid

/-- An item that holds a text. -/
theorem lists_item (text : Text) :
    Fragment.Lists [some (kind.itemRow number text)]
      (kind.item number (Plain.fragment text)).closed := by
  obtain ⟨before, c, row, solid, cut⟩ := kind.itemRow_ends number text
  have single : '\n' ∉ Plain.squeeze (Text.trim text) := Plain.lineBreak_notMem_squeezeFrom false _
  have laid : (kind.item number (Plain.fragment text)).laid =
      kind.mark number ++ Plain.squeeze (Text.trim text) := by
    rw [laid_item, Text.withMarks, Plain.finalText_fragment, Text.splitOn_of_notMem single]
    rfl
  refine Fragment.lists_of_laid (kind.unbroken_item number _) ?_ ?_
    (kind.block_itemRow number text)
    (.inr (Text.indent_of_solid (kind.itemRow_opens number text).2))
  · obtain ⟨d, rest, written, -⟩ := kind.mark_eq_cons number
    intro e first
    rw [laid, written] at first
    cases first
    exact kind.lineBreak_of_mem_mark number (written ▸ List.mem_cons_self)
  · rw [laid]
    exact cut

/-- A list in a list has lines without rows. -/
theorem lists_nested {rows : List (Option Text)} {f : Fragment} (lists : Fragment.Lists rows f) :
    Fragment.Lists (rows.map fun _ => none) (kind.nested (Fragment.blockBreak ++ f)).closed := by
  have laid := kind.laid_nested (Fragment.blockBreak ++ f)
  have unbroken := kind.unbroken_nested (Fragment.blockBreak ++ f)
  obtain ⟨rfl, adds⟩ | ⟨lines, adds, block, -⟩ := lists.adds
  · have final : (Fragment.blockBreak ++ f).finalText = [] :=
      Fragment.finalText_of_addsBelow adds.below
    rw [final] at laid
    refine ⟨.inr ⟨_, Fragment.tokens_closed _⟩, .inl ⟨rfl, ?_⟩⟩
    have opens : ∀ c ∈ (kind.nested (Fragment.blockBreak ++ f)).laid.head?,
        Text.isLineBreak c = false := by
      intro c first
      rw [laid] at first
      cases first
    have closed := Fragment.adds_blockBreak unbroken opens
    rw [laid] at closed
    exact closed
  · obtain ⟨row, others, rfl⟩ := List.exists_cons_of_ne_nil block.rows_ne_nil
    obtain ⟨trimmed, start, block'⟩ := block.trimStart
    have written : (Fragment.blockBreak ++ f).finalText = Text.trim (Text.join ['\n'] lines) :=
      Fragment.finalText_of_addsBelow adds.below
    have final : (Fragment.blockBreak ++ f).finalText = Text.join ['\n'] trimmed := by
      rw [written, Text.trim, start]
      exact block'.dropEnd_join fun _ space => space
    have marked := (block'.marked kind.marks_nested).forget ⟨0, 0⟩
    have opens : ∀ c ∈ (kind.nested (Fragment.blockBreak ++ f)).laid.head?,
        Text.isLineBreak c = false := by
      intro c
      rw [laid]
      apply kind.marks_nested.head?_withMarks
      · rw [final]
        exact block'.join_ne_nil
      · exact fun d => Fragment.head?_finalText
    rw [final, Text.withMarks, Text.splitOn_join block'.filled block'.single] at laid
    refine Fragment.lists_of_laid unbroken opens ?_ marked (.inl rfl)
    rw [laid]
    exact marked.dropEnd_join fun _ => Text.isSpace_of_isSpacing

end ListKind

@[simp] private theorem ListKind.rule_name (kind : ListKind) :
    Rule.ofName kind.name = .list kind := by
  cases kind <;> rfl

section Drafts

variable (s : Settings) (centered : Bool)

/-- The draft of a list is the draft of its items behind a separator. -/
theorem draftNode_list (space : ElementSpace) (kind : ListKind) (attributes : List Attribute)
    (children : List Node) :
    draftNode s centered (.element space kind.name attributes children) =
      (draftItems s.descend centered kind (kind.start attributes) children).map
        (Fragment.blockBreak ++ ·) := by
  rw [draftNode, kind.rule_name]

variable (kind : ListKind) (number : Nat) (rest : List Node)

/-- An item is drafted with its number, and the next one is counted on. -/
theorem draftItems_item (space : ElementSpace) (attributes : List Attribute)
    (children : List Node) :
    draftItems s centered kind number (.element space "li" attributes children :: rest) =
      ((draftNodes s centered children).map fun content => (kind.item number content).closed).append
        (draftItems s centered kind (Text.countAfter number 1) rest) := by
  rw [draftItems, draftContent]
  exact if_pos rfl

/-- A list in a list is drafted as a block of its own, and takes no number. -/
theorem draftItems_list (space : ElementSpace) (own : ListKind) (attributes : List Attribute)
    (children : List Node) :
    draftItems s centered kind number (.element space own.name attributes children :: rest) =
      ((draftItems s.descend centered own (own.start attributes) children).map fun items =>
        (kind.nested (Fragment.blockBreak ++ items)).closed).append
        (draftItems s centered kind number rest) := by
  rw [draftItems, draftNode_list]
  have noItem : ¬ ((some own.name : Option String) == some "li") = true := by
    cases own <;> decide
  refine (if_neg noItem).trans (if_pos ?_)
  cases own <;> rfl

/-- What is neither an item nor a list is left out. -/
theorem draftItems_aside {node : Node} (noItem : node.name? ≠ some "li")
    (noList : (node.name?.bind ListKind.ofName?).isSome = false) :
    draftItems s centered kind number (node :: rest) = draftItems s centered kind number rest := by
  rw [draftItems, if_neg (mt beq_iff_eq.mp noItem), noList, if_neg Bool.false_ne_true]

end Drafts

/-- The fragment of the children of a list. -/
theorem Entries.lists (s : Settings) (centered : Bool) (kind : ListKind) (number : Nat)
    (entries : Entries) (paths : List Text) :
    Fragment.Lists (entries.rows kind number)
      ((draftItems s centered kind number entries.nodes).fill paths) := by
  induction entries generalizing s kind number paths with
  | none =>
      rw [nodes, draftItems]
      exact .empty
  | item space attributes text rest ih =>
      have content : draftNodes s centered [.text text] = .of (Plain.fragment text) := by
        rw [draftNodes, draftNode, draftNodes]
        exact congrArg (Draft.mk []) (funext fun _ => Fragment.append_empty _)
      rw [nodes, draftItems_item, content]
      exact (kind.lists_item number text).append (ih s kind (Text.countAfter number 1) _)
  | nested space own attributes entries rest ih ih' =>
      rw [nodes, draftItems_list]
      exact (kind.lists_nested (ih s.descend own _ _)).append (ih' s kind number _)
  | aside node unnamed rest ih =>
      rw [nodes, draftItems_aside]
      · exact ih s kind number paths
      · rw [unnamed]
        exact (Option.some_ne_none "li").symm
      · rw [unnamed]
        rfl

/-- A list holds its rows in the first column. -/
theorem Listing.holds_node (list : Listing) (s : Settings) (centered : Bool) (paths : List Text)
    (filled : list.rows ≠ []) :
    Fragment.Holds list.rows (.first 0 ⟨0, 0⟩) ((draftNode s centered list.node).fill paths) := by
  have lists := list.entries.lists s.descend centered list.kind
    (list.kind.start list.attributes) paths
  rw [node, draftNode_list]
  obtain ⟨nothing, -⟩ | ⟨lines, adds, block, flush⟩ := lists.adds
  · exact absurd nothing filled
  · have leads : Text.Leads ⟨0, 0⟩ list.rows (Text.join ['\n'] lines) :=
      ⟨lines, [], (List.append_nil _).symm, block, nofun⟩
    obtain nothing | ⟨above, whole⟩ := lists.ended
    · rw [nothing] at adds
      have written : [] = Text.join ['\n'] lines := (adds ⟨[], true, false⟩ rfl).2
      exact absurd written.symm block.join_ne_nil
    · rw [whole] at adds
      exact ⟨[], above, [], _, congrArg (Token.blockBreak :: ·) whole, adds, rfl, leads, flush⟩

end ArticleMarkdown
