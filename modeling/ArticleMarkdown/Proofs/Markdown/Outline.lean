import ArticleMarkdown.Article.Convert
import ArticleMarkdown.Proofs.Markdown.Ink
import ArticleMarkdown.Proofs.Markdown.Marks
import ArticleMarkdown.Proofs.Text.Numeral

/-!
# Outlines

An outline is a tree of lists: each item holds a caption and then any number of lists. Its Markdown
can be written down without separators and layouts, item by item: the marker and the caption, and
below it the lines of the lists in the item, indented by a fixed width (`Outline.Items.lines`).
Converting the outline gives exactly these lines, with blank lines between them
(`Outline.markdown_outline`).
-/

namespace ArticleMarkdown

namespace Outline

/-- A text on one line, without whitespace around it and with single spaces inside. -/
structure Caption where
  text : Text
  filled : text ≠ []
  opens : ∀ c ∈ text.head?, Text.isSpace c = false
  closes : ∀ c ∈ text.getLast?, Text.isSpace c = false
  spaced : ∀ c ∈ text, Plain.isMarkupSpace c = true → c = ' '
  single : ¬ [' ', ' '] <:+: text

/-- The number that the attributes of an ordered list give to its first item. -/
inductive StartsAt (attributes : List Attribute) : Nat → Prop
  | unset (absent : Attribute.find? attributes "start" = none) : StartsAt attributes 1
  | numeral {value sign : Text} (zeros first : Nat)
      (given : Attribute.find? attributes "start" = some value)
      (signed : sign = [] ∨ sign = ['+'])
      (numeric : Text.trim value = sign ++ (Text.repeated zeros '0' ++ Text.ofNat first))
      (bounded : first ≤ Text.largestCount) : StartsAt attributes first

/-- A list element without its items. -/
inductive Head where
  | bullets (attributes : List Attribute)
  | numbers (attributes : List Attribute) (first : Nat) (starts : StartsAt attributes first)

namespace Head

/-- The number of the first item. -/
def first : Head → Nat
  | .bullets _ => 1
  | .numbers _ first _ => first

/-- The number of the item at an index. Numbers come round behind the largest count. -/
def number (head : Head) (index : Nat) : Nat :=
  (head.first + index) % (Text.largestCount + 1)

/-- What stands in front of the caption of the item at an index. -/
def marker (head : Head) (index : Nat) : Text :=
  match head with
  | .bullets _ => ['-', ' ']
  | .numbers _ _ _ => Text.ofNat (head.number index) ++ ['.', ' ']

/-- What stands in front of the lines of the lists in an item. -/
def indentation : Head → Text
  | .bullets _ => [' ', ' ']
  | .numbers _ _ _ => [' ', ' ', ' ']

/-- The lines of the item at an index: its caption, and below it the lines of the lists in it. -/
def item (head : Head) (index : Nat) (caption : Caption) (below : List Text) : List Text :=
  (head.marker index ++ caption.text) :: below.map (head.indentation ++ ·)

/-- The element with given items. -/
def element (items : List Node) : Head → Node
  | .bullets attributes => .element .html "ul" attributes items
  | .numbers attributes _ _ => .element .html "ol" attributes items

end Head

mutual

/-- The items of a list; there is at least one. -/
inductive Items where
  | last (attributes : List Attribute) (caption : Caption) (below : Lists)
  | more (attributes : List Attribute) (caption : Caption) (below : Lists) (rest : Items)

/-- Lists one after another. -/
inductive Lists where
  | none
  | more (head : Head) (items : Items) (rest : Lists)

end

mutual

/-- The elements of items. -/
def Items.nodes : Items → List Node
  | .last attributes caption below =>
    [.element .html "li" attributes (.text caption.text :: below.nodes)]
  | .more attributes caption below rest =>
    .element .html "li" attributes (.text caption.text :: below.nodes) :: rest.nodes

/-- The elements of lists. -/
def Lists.nodes : Lists → List Node
  | .none => []
  | .more head items rest => head.element items.nodes :: rest.nodes

end

mutual

/-- The lines of the items of a list from an index on. -/
def Items.lines (head : Head) (index : Nat) : Items → List Text
  | .last _ caption below => head.item index caption below.lines
  | .more _ caption below rest =>
    head.item index caption below.lines ++ rest.lines head (index + 1)

/-- The lines of lists one after another. -/
def Lists.lines : Lists → List Text
  | .none => []
  | .more head items rest => items.lines head 0 ++ rest.lines

end

namespace Head

/-- Whether the items of a list have numbers. -/
def kind : Head → ListKind
  | .bullets _ => .unordered
  | .numbers _ _ _ => .ordered

/-- No list starts beyond the largest count. -/
theorem first_le (head : Head) : head.first ≤ Text.largestCount := by
  have least : 1 ≤ Text.largestCount := by decide
  cases head with
  | bullets attributes => exact least
  | numbers attributes first starts =>
      cases starts with
      | unset absent => exact least
      | numeral zeros first given signed numeric bounded => exact bounded

/-- As long as the numbers stay within the counts, they are those from the first one on. -/
theorem number_of_le {head : Head} {index : Nat}
    (bounded : head.first + index ≤ Text.largestCount) :
    head.number index = head.first + index :=
  Text.countAfter_of_le bounded

private theorem number_zero (head : Head) : head.number 0 = head.first :=
  Text.countAfter_zero head.first_le

private theorem countAfter_number (head : Head) (index : Nat) :
    Text.countAfter (head.number index) 1 = head.number (index + 1) :=
  Text.countAfter_countAfter head.first index 1

private theorem mark_kind (head : Head) (index : Nat) :
    head.kind.mark (head.number index) = head.marker index := by
  cases head <;> rfl

private theorem indent_kind (head : Head) :
    Text.repeated head.kind.indent ' ' = head.indentation := by
  cases head <;> rfl

private theorem start_of_startsAt {attributes : List Attribute} {first : Nat}
    (starts : StartsAt attributes first) : ListKind.start .ordered attributes = first := by
  cases starts with
  | unset absent =>
      rw [ListKind.start, absent]
      rfl
  | numeral zeros first given signed numeric bounded =>
      have read := Text.count?_numeral signed zeros bounded
      rw [ListKind.start, given, Option.bind_some, numeric, read]
      rfl

private theorem lineBreak_notMem_marker (head : Head) (index : Nat) : '\n' ∉ head.marker index := by
  rw [← head.mark_kind]
  intro member
  have breaks := head.kind.lineBreak_of_mem_mark (head.number index) member
  cases breaks

private theorem lineBreak_notMem_indentation (head : Head) : '\n' ∉ head.indentation := by
  cases head <;> simp [indentation]

/-- A marker starts with a character that is no whitespace. -/
theorem marker_eq_cons (head : Head) (index : Nat) :
    ∃ c rest, head.marker index = c :: rest ∧ Text.isSpace c = false := by
  obtain ⟨c, rest, written, solid, -⟩ := head.kind.mark_eq_cons (head.number index)
  rw [head.mark_kind] at written
  exact ⟨c, rest, written, solid⟩

end Head

/-- Text in which markup whitespace is single spaces has nothing to squeeze. -/
theorem squeezeFrom_of_spaced (inRun : Bool) {t : Text}
    (spaced : ∀ c ∈ t, Plain.isMarkupSpace c = true → c = ' ') (single : ¬ [' ', ' '] <:+: t)
    (apart : inRun = true → t.head? ≠ some ' ') : Plain.squeezeFrom inRun t = t := by
  fun_induction Plain.squeezeFrom inRun t with
  | case1 => rfl
  | case2 inRun c rest space ih =>
      rw [List.forall_mem_cons] at spaced
      cases spaced.1 space
      have below := ih spaced.2 (mt List.infix_cons single) (by
        rintro - first
        obtain ⟨more, rfl⟩ := List.head?_eq_some_iff.mp first
        exact single (List.prefix_append [' ', ' '] more).isInfix)
      cases inRun with
      | true => exact absurd rfl (apart rfl)
      | false =>
          rw [below]
          rfl
  | case3 inRun c rest solid ih =>
      rw [List.forall_mem_cons] at spaced
      rw [ih spaced.2 (mt List.infix_cons single) fun started => absurd started Bool.false_ne_true]

namespace Caption

variable (caption : Caption)

private theorem row : Text.Row caption.text where
  single member := by
    have space := caption.spaced '\n' member rfl
    exact absurd space (by decide)
  ends := by
    have closes := caption.closes
    rcases List.eq_nil_or_concat caption.text with nothing | ⟨before, c, whole⟩
    · exact absurd nothing caption.filled
    · rw [List.concat_eq_append] at whole
      rw [whole] at closes
      exact ⟨before, c, whole, closes c List.getLast?_concat⟩

/-- A caption is converted to itself. -/
theorem fragment_text : Plain.fragment caption.text = Fragment.ofText caption.text := by
  have squeezed : Plain.squeeze caption.text = caption.text :=
    squeezeFrom_of_spaced false caption.spaced caption.single nofun
  have trimmed := Text.trim_of_edges caption.opens caption.closes
  have unbroken : ∀ edge : Option Char, (∀ c ∈ edge, Text.isSpace c = false) →
      Plain.edgeBreak edge = ∅ := by
    intro edge solid
    cases edge with
    | none => rfl
    | some c => simp [Plain.edgeBreak, solid c rfl]
  have filled := caption.filled
  obtain ⟨c, rest, written⟩ := List.exists_cons_of_ne_nil filled
  have opening := unbroken _ caption.opens
  have closing := unbroken _ caption.closes
  unfold Plain.fragment
  rw [trimmed, opening, closing]
  split
  · next nothing => exact absurd nothing filled
  · rw [squeezed, written]
    rfl

end Caption

private theorem Head.rows_item (head : Head) (index : Nat) (caption : Caption) {below : List Text}
    (settled : ∀ row ∈ below, Text.Row row) :
    ∀ row ∈ head.item index caption below, Text.Row row := by
  rw [Head.item, List.forall_mem_cons]
  refine ⟨caption.row.prepend (head.lineBreak_notMem_marker index), ?_⟩
  intro row member
  obtain ⟨line, found, rfl⟩ := List.mem_map.mp member
  exact (settled line found).prepend head.lineBreak_notMem_indentation

mutual

private theorem Items.rows (head : Head) (index : Nat) :
    ∀ items : Items, ∀ row ∈ items.lines head index, Text.Row row
  | .last _ caption below => head.rows_item index caption below.rows
  | .more _ caption below rest => by
      rw [Items.lines, List.forall_mem_append]
      exact ⟨head.rows_item index caption below.rows, rest.rows head (index + 1)⟩

private theorem Lists.rows : ∀ lists : Lists, ∀ row ∈ lists.lines, Text.Row row
  | .none => nofun
  | .more head items rest => by
      rw [Lists.lines, List.forall_mem_append]
      exact ⟨items.rows head 0, rest.rows⟩

end

/-- The first line starts with a marker. -/
theorem Items.lines_eq_cons (head : Head) (index : Nat) (items : Items) :
    ∃ c row rows, items.lines head index = (c :: row) :: rows ∧ Text.isSpace c = false := by
  obtain ⟨c, rest, written, solid⟩ := head.marker_eq_cons index
  cases items with
  | last _ caption below =>
      refine ⟨c, rest ++ caption.text, below.lines.map (head.indentation ++ ·), ?_, solid⟩
      rw [Items.lines, Head.item, written]
      rfl
  | more _ caption below others =>
      refine ⟨c, rest ++ caption.text, below.lines.map (head.indentation ++ ·) ++
        others.lines head (index + 1), ?_, solid⟩
      rw [Items.lines, Head.item, written]
      rfl

end Outline

namespace Draft

variable {draft first second : Draft Fragment} {rows others : List Text}

/-- The draft asks for nothing, and where a block separator waits it adds rows. -/
def Lays (draft : Draft Fragment) (rows : List Text) : Prop :=
  draft.requests = [] ∧
    ∀ paths, Token.Adds (draft.fill paths).tokens (Text.join ['\n', '\n'] rows)

/-- The draft asks for nothing, and it adds rows anywhere. -/
def LaysBelow (draft : Draft Fragment) (rows : List Text) : Prop :=
  draft.requests = [] ∧
    ∀ paths, Token.AddsBelow (draft.fill paths).tokens (Text.join ['\n', '\n'] rows)

private theorem Lays.append (lays : first.Lays rows) (lays' : second.Lays others)
    (settled : ∀ row ∈ rows, Text.Row row) (settled' : ∀ row ∈ others, Text.Row row) :
    (first.append second).Lays (rows ++ others) := by
  have asked : (first.append second).requests = first.requests ++ second.requests := rfl
  rw [lays.1, lays'.1] at asked
  refine ⟨asked, fun paths => ?_⟩
  rw [← Text.stack_rows settled settled']
  exact (lays.2 _).join (lays'.2 _)

private theorem LaysBelow.append (lays : first.LaysBelow rows) (lays' : second.LaysBelow others)
    (settled : ∀ row ∈ rows, Text.Row row) (settled' : ∀ row ∈ others, Text.Row row) :
    (first.append second).LaysBelow (rows ++ others) := by
  have asked : (first.append second).requests = first.requests ++ second.requests := rfl
  rw [lays.1, lays'.1] at asked
  refine ⟨asked, fun paths => ?_⟩
  rw [← Text.stack_rows settled settled']
  exact (lays.2 _).join (lays'.2 _)

private theorem laysBelow_nil : (Draft.of (∅ : Fragment)).LaysBelow [] :=
  ⟨rfl, fun _ => Token.addsBelow_nil⟩

private theorem lays_nil : (Draft.of (∅ : Fragment)).Lays [] :=
  ⟨rfl, fun _ => Token.adds_nil⟩

end Draft

namespace Outline

variable (s : Settings) (centered : Bool)

/-- An item whose content is laid out as a caption and rows adds the lines of an item. -/
theorem adds_item (head : Head) (index : Nat) (caption : Caption) {content : Fragment}
    {rows : List Text} (settled : ∀ row ∈ rows, Text.Row row)
    (final : content.finalText = Text.join ['\n', '\n'] (caption.text :: rows)) :
    Token.Adds (head.kind.item (head.number index) content).closed.tokens
      (Text.join ['\n', '\n'] (head.item index caption rows)) := by
  have laid := head.kind.laid_item_rows (head.number index) final
    (List.forall_mem_cons.mpr ⟨caption.row, settled⟩)
  rw [head.mark_kind, head.indent_kind] at laid
  rw [← Text.dropSpacing_rows (head.rows_item index caption settled), Head.item, ← laid]
  apply Fragment.adds_blockBreak (head.kind.unbroken_item (head.number index) content)
  intro c first
  obtain ⟨d, rest, written, solid⟩ := head.marker_eq_cons index
  rw [laid, written, List.cons_append, Text.head?_join] at first
  cases first
  exact Text.isLineBreak_of_solid solid

/-- An item with a caption and lists adds its lines. -/
theorem lays_item (head : Head) (index : Nat) (attributes : List Attribute) (caption : Caption)
    {below : List Node} {rows : List Text} (lays : (draftNodes s centered below).LaysBelow rows)
    (settled : ∀ row ∈ rows, Text.Row row) :
    ((draftContent s centered (.element .html "li" attributes (.text caption.text :: below))).map
        fun content => (head.kind.item (head.number index) content).closed).Lays
      (head.item index caption rows) := by
  have captionRow : ∀ row ∈ [caption.text], Text.Row row := by
    intro row member
    rw [List.mem_singleton.mp member]
    exact caption.row
  have drafted : draftNodes s centered (.text caption.text :: below) =
      (Draft.of (Fragment.ofText caption.text)).append (draftNodes s centered below) := by
    rw [draftNodes, draftNode, caption.fragment_text]
  rw [draftContent, drafted]
  refine ⟨lays.1, fun paths => adds_item head index caption settled ?_⟩
  have final := Fragment.finalText_ofText_append (lays.2 paths) caption.text
  have stacked := Text.stack_rows captionRow settled
  have cut := Text.dropSpacing_rows captionRow ['\n', '\n']
  rw [Text.join] at stacked cut
  rw [cut, stacked, List.singleton_append, Text.trim_rows caption.opens] at final
  · exact final
  · exact List.forall_mem_cons.mpr ⟨caption.row, settled⟩

/-- A list adds the lines of its items below what stands before it. -/
theorem lays_list (head : Head) {nodes : List Node} {rows : List Text}
    (lays : (draftItems s.descend centered head.kind (head.number 0) nodes).Lays rows) :
    (draftNode s centered (head.element nodes)).LaysBelow rows := by
  have drafted : draftNode s centered (head.element nodes) =
      (draftItems s.descend centered head.kind (head.number 0) nodes).map
        (Fragment.blockBreak ++ ·) := by
    rw [head.number_zero]
    cases head with
    | bullets attributes => rfl
    | numbers attributes first starts =>
        have start := Head.start_of_startsAt starts
        simp only [Head.element, draftNode, Rule.ofName, start]
        rfl
  rw [drafted]
  exact ⟨lays.1, fun paths => (lays.2 paths).below⟩

mutual

private theorem Items.lays (s : Settings) (centered : Bool) (head : Head) (index : Nat) : ∀ items :
    Items,
    (draftItems s centered head.kind (head.number index) items.nodes).Lays (items.lines head index)
  | .last attributes caption below => by
      have item := lays_item s centered head index attributes caption (below.lays s centered)
        below.rows
      have whole := item.append Draft.lays_nil (head.rows_item index caption below.rows) nofun
      rw [List.append_nil] at whole
      exact whole
  | .more attributes caption below rest => by
      have item := lays_item s centered head index attributes caption (below.lays s centered)
        below.rows
      have others := rest.lays s centered head (index + 1)
      rw [← head.countAfter_number] at others
      exact item.append others (head.rows_item index caption below.rows)
        (rest.rows head (index + 1))

/-- Lists one after another lay their lines one after another. -/
theorem Lists.lays (s : Settings) (centered : Bool) : ∀ lists : Lists,
    (draftNodes s centered lists.nodes).LaysBelow lists.lines
  | .none => Draft.laysBelow_nil
  | .more head items rest => by
      have list : (draftNode s centered (head.element items.nodes)).LaysBelow
          (items.lines head 0) :=
        lays_list s centered head (items.lays s.descend centered head 0)
      exact list.append (rest.lays s centered) (items.rows head 0) rest.rows

end

/-- The Markdown of an outline is its lines, with blank lines between them and a blank line at the
end. The items are numbered from the first number on (`Head.number_of_le`), as long as the numbers
do not pass the largest count. -/
theorem markdown_outline (fetcher : Option Asset.Fetcher) (store : Asset.Store) (head : Head)
    (items : Items) :
    Article.convertNodes fetcher s store [head.element items.nodes] =
      (store, .ok (Text.join ['\n', '\n'] (items.lines head 0) ++ ['\n', '\n'])) := by
  have list := lays_list s false head (items.lays s.descend false head 0)
  have whole := list.append Draft.laysBelow_nil (items.rows head 0) nofun
  rw [List.append_nil] at whole
  have drafted : draftNodes s false [head.element items.nodes] =
      (draftNode s false (head.element items.nodes)).append (.of ∅) := by
    rw [draftNodes, draftNodes]
  rw [← drafted] at whole
  obtain ⟨c, row, rows, written, solid⟩ := items.lines_eq_cons head 0
  have settled := items.rows head 0
  rw [written] at whole settled ⊢
  have final : ∀ paths, ((draftNodes s false [head.element items.nodes]).fill paths).documentText =
      Text.join ['\n', '\n'] ((c :: row) :: rows) ++ ['\n', '\n'] := by
    intro paths
    have trimmed := Text.trim_rows (by rintro d ⟨⟩; exact solid) settled ['\n', '\n']
    have filled : Text.join ['\n', '\n'] ((c :: row) :: rows) ≠ [] := by
      intro nothing
      have first := Text.head?_join ['\n', '\n'] c row rows
      rw [nothing] at first
      cases first
    rw [Fragment.documentText, Fragment.finalText_of_addsBelow (whole.2 paths), trimmed,
      if_neg (mt List.isEmpty_iff.mp filled)]
  have unasked : (draftDocument s [head.element items.nodes]).requests = [] := whole.1
  rw [Article.convertNodes, Article.complete, unasked]
  exact congrArg (fun text => (store, Except.ok text)) (final [])

/-- A caption of one word. -/
def Caption.ofWord (t : Text) (filled : t ≠ []) (word : t.all (!Text.isSpace ·) = true) : Caption :=
  have solid : ∀ c ∈ t, Text.isSpace c = false := fun c member => by
    simpa using List.all_eq_true.mp word c member
  { text := t
    filled := filled
    opens := fun c first => solid c (List.mem_of_mem_head? first)
    closes := fun c last => solid c (List.mem_of_getLast? last)
    spaced := fun c member space => by
      have gap := Plain.isSpace_of_isMarkupSpace space
      rw [solid c member] at gap
      cases gap
    single := fun inside => by
      have gap := solid ' ' (inside.subset List.mem_cons_self)
      cases gap }

/-- Errands from the ninth on. The first one has a list of its own, and in that list another one. -/
def errands : Head × Items :=
  let buy := Caption.ofWord "buy".toList (by decide) (by decide)
  let eggs := Caption.ofWord "eggs".toList (by decide) (by decide)
  let large := Caption.ofWord "large".toList (by decide) (by decide)
  let post := Caption.ofWord "post".toList (by decide) (by decide)
  let ninth : Head := .numbers [⟨.none, "start", " 9".toList⟩] 9
    (.numeral 0 9 rfl (.inl rfl) (by decide) (by decide))
  let sizes : Lists := .more (.numbers [] 1 (.unset rfl)) (.last [] large .none) .none
  (ninth, .more [] buy (.more (.bullets []) (.last [] eggs sizes) .none) (.last [] post .none))

/-- The errands start at nine, so the second of them has a mark of three characters. -/
theorem markdown_outline_errands :
    Article.convertNodes none {} {} [errands.1.element errands.2.nodes] =
      ({}, .ok "9. buy\n\n   - eggs\n\n     1. large\n\n10. post\n\n".toList) :=
  (markdown_outline {} none {} errands.1 errands.2).trans (by decide +kernel)

end Outline
end ArticleMarkdown
