import ArticleMarkdown.Markdown.Convert
import ArticleMarkdown.Proofs.Text.Foreign
import ArticleMarkdown.Proofs.Text.Lines
import ArticleMarkdown.Proofs.Text.Runs

/-!
# Tables read back

A reader splits the lines of a table at the pipes that no backslash stands before. No line break and
no such pipe is left in a cell, and a space keeps the pipe behind a cell from a backslash at its
end. So the lines of a table give back the grid of the texts of its cells (`Table.grid_read_back`).
A table has at least one column, also where no row has a cell (`Table.rowWithoutCells_shows_cell`).
-/

namespace ArticleMarkdown

open Text

namespace Draft

/-- The drafts of a list as one. -/
def all (drafts : List (Draft α)) : Draft (List α) :=
  drafts.foldr cons (.of [])

private theorem map_cons (f : α → β) (first : Draft α) (rest : Draft (List α)) :
    (cons first rest).map (List.map f) = cons (first.map f) (rest.map (List.map f)) := rfl

private theorem map_combine_append (f : α → β) (first later : Draft (List α)) :
    (combine (· ++ ·) first later).map (List.map f) =
      combine (· ++ ·) (first.map (List.map f)) (later.map (List.map f)) := by
  simp only [map, combine, List.map_append]

private theorem combine_of_nil (draft : Draft (List α)) :
    combine (· ++ ·) (.of []) draft = draft := rfl

private theorem combine_cons (first : Draft α) (rest later : Draft (List α)) :
    combine (· ++ ·) (cons first rest) later = cons first (combine (· ++ ·) rest later) := by
  simp only [cons, combine, List.append_assoc, List.length_append, mk.injEq, true_and]
  funext paths
  simp only [List.take_take, List.drop_take, List.drop_drop, List.cons_append,
    Nat.min_eq_left (Nat.le_add_right _ _), Nat.add_sub_cancel_left]

private theorem all_append (drafts later : List (Draft α)) :
    all (drafts ++ later) = combine (· ++ ·) (all drafts) (all later) := by
  induction drafts with
  | nil => exact (combine_of_nil _).symm
  | cons draft drafts ih =>
      rw [List.cons_append]
      change cons draft (all (drafts ++ later)) = combine _ (cons draft (all drafts)) _
      rw [ih, combine_cons]

private theorem length_fill_all (drafts : List (Draft α)) (paths : List Text) :
    ((all drafts).fill paths).length = drafts.length := by
  induction drafts generalizing paths with
  | nil => rfl
  | cons draft drafts ih => exact congrArg (· + 1) (ih _)

end Draft

namespace Table

/-- The number of pipes that no backslash stands directly before; `escaped` tells whether one stands
before the text. -/
def bars (escaped : Bool) : Text → Nat
  | [] => 0
  | c :: rest => (if c == '|' && !escaped then 1 else 0) + bars (c == '\\') rest

/-- The pieces between these pipes. -/
def splitBars (escaped : Bool) : Text → List Text
  | [] => [[]]
  | c :: rest =>
    if c == '|' && !escaped then [] :: splitBars false rest
    else match splitBars (c == '\\') rest with
      | [] => [[c]]
      | piece :: pieces => (c :: piece) :: pieces

/-- Each pipe behind a backslash without the backslash. -/
def unescapePipes : Text → Text
  | [] => []
  | '\\' :: '|' :: rest => '|' :: unescapePipes rest
  | c :: rest => c :: unescapePipes rest

/-- The cells of a line between its outer pipes, as a reader takes them. -/
def readCells (line : Text) : List Text :=
  (splitBars false line).tail.dropLast.map fun piece => unescapePipes (trim piece)

private theorem bars_append_space (escaped : Bool) (s t : Text) :
    bars escaped (s ++ ' ' :: t) = bars escaped s + bars false t := by
  induction s generalizing escaped with
  | nil => simp [bars]
  | cons c s ih => rw [List.cons_append, bars, bars, ih, Nat.add_assoc]

/-- A piece that ends with a space ends at the pipe behind it. -/
theorem splitBars_append {escaped : Bool} {s : Text} (unbarred : bars escaped s = 0) (t : Text) :
    splitBars escaped (s ++ ' ' :: '|' :: t) = (s ++ [' ']) :: splitBars false t := by
  induction s generalizing escaped with
  | nil => rfl
  | cons c s ih =>
      rw [bars, Nat.add_eq_zero_iff] at unbarred
      have inside : ¬(c == '|' && !escaped) = true := fun bar => by simp [bar] at unbarred
      rw [List.cons_append, splitBars, if_neg inside, ih unbarred.2]
      rfl

private theorem escapePipes_cons (c : Char) (t : Text) :
    escapePipes (c :: t) = (if c == '|' then ['\\', '|'] else [c]) ++ escapePipes t := rfl

private theorem bars_escapePipes (escaped : Bool) (t : Text) :
    bars escaped (escapePipes t) = 0 := by
  induction t generalizing escaped with
  | nil => rfl
  | cons c t ih =>
      rw [escapePipes_cons]
      split
      · change 0 + (0 + bars false (escapePipes t)) = 0
        rw [ih]
      · next other =>
        have plain : ¬(c == '|' && !escaped) = true := fun bar =>
          other (Bool.and_eq_true_iff.mp bar).1
        rw [List.singleton_append, bars, if_neg plain, ih]

private theorem unescape_escapePipes (t : Text) : unescapePipes (escapePipes t) = t := by
  induction t with
  | nil => rfl
  | cons c t ih =>
      rw [escapePipes_cons]
      by_cases bar : c = '|'
      · subst bar
        exact congrArg ('|' :: ·) ih
      · rw [beq_false_of_ne bar, if_neg Bool.false_ne_true, List.singleton_append]
        have apart : ∀ rest, c = '\\' → escapePipes t = '|' :: rest → False := by
          rintro rest - opens
          cases t with
          | nil => cases opens
          | cons d t =>
              rw [escapePipes_cons] at opens
              split at opens
              · cases opens
              · next other =>
                cases opens
                exact other rfl
        rw [unescapePipes.eq_3 c _ apart, ih]

private theorem trim_escapePipes {t : Text} (trimmed : trim t = t) :
    trim (escapePipes t) = escapePipes t := by
  have solid : isSpace '\\' = false ∧ isSpace '|' = false := by decide
  apply trim_of_edges
  · intro c first
    cases t with
    | nil => cases first
    | cons d t =>
        rw [escapePipes_cons] at first
        split at first
        · cases first
          exact solid.1
        · cases first
          exact head?_trimStart (head?_trimEnd (by rw [← trim, trimmed]; rfl))
  · intro c last
    rcases List.eq_nil_or_concat' t with rfl | ⟨before, d, rfl⟩
    · cases last
    · have ending : escapePipes (before ++ [d]) =
          escapePipes before ++ (if d == '|' then ['\\', '|'] else [d]) := by
        simp [escapePipes, replaceChar, replaceBy]
      rw [ending] at last
      split at last
      · rw [List.getLast?_append] at last
        cases last
        exact solid.2
      · rw [List.getLast?_concat] at last
        cases last
        exact getLast?_trim (by rw [trimmed, List.getLast?_concat]; rfl)

/-- A line of cells, cell by cell. -/
theorem line_eq_flatMap {cells : List Text} (filled : cells ≠ []) :
    "| ".toList ++ join " | ".toList cells ++ " |".toList =
      '|' :: cells.flatMap fun cell => ' ' :: (cell ++ [' ', '|']) := by
  have inner : join " | ".toList cells ++ [' ', '|'] =
      (cells.flatMap fun cell => ' ' :: (cell ++ [' ', '|'])).tail := by
    induction cells with
    | nil => exact absurd rfl filled
    | cons cell rest ih =>
        by_cases last : rest = []
        · subst last
          simp [join]
        · obtain ⟨next, others, rfl⟩ := List.exists_cons_of_ne_nil last
          rw [join_cons_of_ne_nil _ _ last, List.append_assoc, ih last]
          simp
  obtain ⟨cell, rest, rfl⟩ := List.exists_cons_of_ne_nil filled
  rw [List.append_assoc]
  change '|' :: ' ' :: (join " | ".toList (cell :: rest) ++ [' ', '|']) = _
  rw [inner]
  rfl

section Line

variable {cells : List Text} (unbarred : ∀ cell ∈ cells, ∀ escaped, bars escaped cell = 0)
include unbarred

private theorem bars_flatMap :
    bars false (cells.flatMap fun cell => ' ' :: (cell ++ [' ', '|'])) = cells.length := by
  induction cells with
  | nil => rfl
  | cons cell rest ih =>
      rw [List.forall_mem_cons] at unbarred
      rw [List.flatMap_cons, List.cons_append, List.append_assoc]
      change 0 + bars false (cell ++ ' ' :: ('|' :: _)) = _
      rw [bars_append_space, unbarred.1]
      change 0 + (0 + (1 + bars false (rest.flatMap fun cell => ' ' :: (cell ++ [' ', '|'])))) = _
      rw [ih unbarred.2, List.length_cons]
      omega

private theorem splitBars_flatMap :
    splitBars false (cells.flatMap fun cell => ' ' :: (cell ++ [' ', '|'])) =
      (cells.map fun cell => ' ' :: cell ++ [' ']) ++ [[]] := by
  induction cells with
  | nil => rfl
  | cons cell rest ih =>
      rw [List.forall_mem_cons] at unbarred
      have piece : bars false (' ' :: cell) = 0 := (Nat.zero_add _).trans (unbarred.1 false)
      rw [List.flatMap_cons, List.map_cons, List.cons_append]
      change splitBars false (' ' :: ((cell ++ [' ', '|']) ++ _)) = _
      rw [List.append_assoc, ← List.cons_append]
      exact (splitBars_append piece _).trans (congrArg _ (ih unbarred.2))

end Line

/-- The text of a cell is one line. -/
theorem lineBreak_notMem_cellLine (content : Fragment) :
    ∀ c ∈ cellLine content, isLineBreak c = false := by
  have spaced : ∀ t : Text, ∀ c ∈ t.map fun c => if isLineBreak c then ' ' else c,
      isLineBreak c = false := by
    intro t c member
    obtain ⟨d, -, rfl⟩ := List.mem_map.mp member
    cases breaks : isLineBreak d with
    | true => rfl
    | false => exact breaks
  have step : ∀ (cell : CellLayout) (token : Token),
      (∀ c ∈ cell.written, isLineBreak c = false) →
      ∀ c ∈ (cell.write token).written, isLineBreak c = false := by
    intro cell token single
    cases token with
    | blockBreak | inlineBreak => exact single
    | text t =>
        rw [CellLayout.write]
        generalize written : t.map (fun c => if isLineBreak c then ' ' else c) = u
        have single' : ∀ c ∈ u, isLineBreak c = false := written ▸ spaced t
        simp only
        split
        · exact single
        · split
          · intro c member
            simp only [List.mem_append] at member
            rcases member with (before | tag) | behind
            · exact single c ((trimEnd_split cell.written).elim fun after whole =>
                whole.2 ▸ List.mem_append_left _ before)
            · exact of_any_eq_false (q := isLineBreak) (by decide) c tag
            · exact single' c ((List.dropWhile_suffix _).subset behind)
          · intro c member
            simp only [List.mem_append] at member
            rcases member with (before | space) | behind
            · exact single c before
            · split at space
              · exact of_any_eq_false (q := isLineBreak) (by decide) c space
              · cases space
            · exact single' c behind
  have run : ∀ (tokens : List Token) (cell : CellLayout),
      (∀ c ∈ cell.written, isLineBreak c = false) →
      ∀ c ∈ (tokens.foldl CellLayout.write cell).written, isLineBreak c = false := by
    intro tokens
    induction tokens with
    | nil => exact fun cell single => single
    | cons token rest ih => exact fun cell single => ih _ (step cell token single)
  intro c member
  exact run content.trim.tokens .start nofun c ((infix_trim _).subset member)

section Written

variable {texts : List Text} (filled : texts ≠ [])
include filled

/-- A line of cells has a pipe in front of each cell and one behind the last. -/
theorem bars_line (unbarred : ∀ text ∈ texts, ∀ escaped, bars escaped text = 0) :
    bars false ("| ".toList ++ join " | ".toList texts ++ " |".toList) = texts.length + 1 := by
  rw [line_eq_flatMap filled]
  change 1 + bars false (texts.flatMap fun cell => ' ' :: (cell ++ [' ', '|'])) = _
  rw [bars_flatMap unbarred, Nat.add_comm]

private theorem readCells_line (trimmed : ∀ text ∈ texts, trim text = text) :
    readCells ("| ".toList ++ join " | ".toList (texts.map escapePipes) ++ " |".toList) =
      texts := by
  have unbarred : ∀ cell ∈ texts.map escapePipes, ∀ escaped, bars escaped cell = 0 := by
    intro cell member escaped
    obtain ⟨text, -, rfl⟩ := List.mem_map.mp member
    exact bars_escapePipes escaped text
  have pieces := splitBars_flatMap unbarred
  rw [line_eq_flatMap (mt List.map_eq_nil_iff.mp filled), readCells]
  change (([] :: splitBars false _).tail.dropLast).map _ = texts
  rw [List.tail_cons, pieces, List.dropLast_concat, List.map_map, List.map_map]
  refine (List.map_congr_left fun text member => ?_).trans (List.map_id texts)
  have framed : trim (' ' :: (escapePipes text ++ [' '])) = escapePipes text := by
    rw [← List.singleton_append, trim_blank_append rfl, trim_append_blank rfl,
      trim_escapePipes (trimmed text member)]
  exact (congrArg unescapePipes framed).trans (unescape_escapePipes text)

/-- The line below the header has as many pipes as a line of cells. -/
theorem bars_delimiters (plain : ∀ text ∈ texts, ∀ c ∈ text, c ≠ '|' ∧ c ≠ '\\') :
    bars false ('|' :: join ['|'] texts ++ ['|']) = texts.length + 1 := by
  have skip : ∀ (text rest : Text), (∀ c ∈ text, c ≠ '|' ∧ c ≠ '\\') →
      bars false (text ++ '|' :: rest) = 1 + bars false rest := by
    intro text rest free
    induction text with
    | nil => rfl
    | cons c text ih =>
        rw [List.forall_mem_cons] at free
        rw [List.cons_append, bars, beq_false_of_ne free.1.1, beq_false_of_ne free.1.2,
          ih free.2]
        exact Nat.zero_add _
  have inner : bars false (join ['|'] texts ++ ['|']) = texts.length := by
    induction texts with
    | nil => exact absurd rfl filled
    | cons text rest ih =>
        rw [List.forall_mem_cons] at plain
        by_cases last : rest = []
        · subst last
          exact skip text [] plain.1
        · rw [join_cons_of_ne_nil _ _ last, List.append_assoc, List.append_assoc,
            List.singleton_append, skip _ _ plain.1, ih last plain.2, List.length_cons,
            Nat.add_comm]
  change 1 + bars false (join ['|'] texts ++ ['|']) = _
  rw [inner, Nat.add_comm]

end Written

private theorem any_delimiter (attributes : List Attribute) :
    (delimiter attributes).any (fun c => c == '|' || c == '\\' || c == '\n') = false := by
  simp only [delimiter]
  split
  · rfl
  · split
    · rfl
    · rfl

private theorem pad_map {f : Text → Text} (empty : f [] = []) (columns : Nat) (texts : List Text) :
    pad columns (texts.map f) = (pad columns texts).map f := by
  simp [pad, empty]

private theorem length_pad {columns : Nat} {texts : List Text} (within : texts.length ≤ columns) :
    (pad columns texts).length = columns := by
  simp [pad, within]

/-- The rows among the nodes below a table; `grouped` tells that the nodes stand in a group. -/
def rowNodes (grouped : Bool) (nodes : List Node) : List Node :=
  nodes.flatMap fun node =>
    if node.name? == some "tr" then [node]
    else if node.name?.any isRowGroup && !grouped then node.children.filter (·.name? == some "tr")
    else []

/-- The cells of a row. -/
def cellNodes (row : Node) : List Node :=
  row.children.filter (·.name?.any isCell)

/-- The contents of the cells below a table, row by row. -/
def contents (s : Settings) (centered grouped : Bool) (nodes : List Node) :
    Draft (List (List Fragment)) :=
  .all ((rowNodes grouped nodes).map fun row =>
    .all ((cellNodes row).map (draftContent s centered)))

private theorem rowNodes_grouped (nodes : List Node) :
    rowNodes true nodes = nodes.filter (·.name? == some "tr") := by
  induction nodes with
  | nil => rfl
  | cons node rest ih =>
      rw [rowNodes, List.flatMap_cons, Bool.not_true, Bool.and_false, if_neg Bool.false_ne_true,
        List.filter_cons]
      split
      · exact congrArg (node :: ·) ih
      · exact ih

private theorem contents_cons (s : Settings) (centered grouped : Bool) (node : Node)
    (rest : List Node) :
    contents s centered grouped (node :: rest) =
      if node.name? == some "tr" then
        .cons (.all ((cellNodes node).map (draftContent s centered)))
          (contents s centered grouped rest)
      else if node.name?.any isRowGroup && !grouped then
        .combine (· ++ ·) (contents s centered true node.children)
          (contents s centered grouped rest)
      else contents s centered grouped rest := by
  rw [contents, rowNodes, List.flatMap_cons]
  split
  · rfl
  · split
    · rw [List.map_append, Draft.all_append, ← rowNodes_grouped]
      rfl
    · rfl

private theorem map_draftCells (s : Settings) (centered : Bool) (nodes : List Node) :
    (draftCells s centered nodes).map (List.map Cell.text) =
      (Draft.all ((nodes.filter (·.name?.any isCell)).map (draftContent s centered))).map
        (List.map cellText) := by
  induction nodes with
  | nil => rw [draftCells]; rfl
  | cons node rest ih =>
      rw [draftCells, List.filter_cons]
      split
      · rw [Draft.map_cons, ih]
        rfl
      · exact ih

/-- The rows of a table are its contents as texts. -/
theorem map_draftRows (s : Settings) (centered grouped : Bool) (nodes : List Node) :
    (draftRows s centered grouped nodes).map (List.map (List.map Cell.text)) =
      (contents s centered grouped nodes).map (List.map (List.map cellText)) := by
  -- Groups stand in no group, so their rows come first.
  suffices step : ∀ grouped, (grouped = false → ∀ nodes,
      (draftRows s centered true nodes).map (List.map (List.map Cell.text)) =
        (contents s centered true nodes).map (List.map (List.map cellText))) →
      ∀ nodes, (draftRows s centered grouped nodes).map (List.map (List.map Cell.text)) =
        (contents s centered grouped nodes).map (List.map (List.map cellText)) from
    step grouped (fun _ => step true nofun) nodes
  intro grouped inGroup nodes
  induction nodes with
  | nil =>
      rw [draftRows]
      rfl
  | cons node rest later =>
      cases node with
      | element space name attributes children =>
          have below : contents s centered grouped
              (.element space name attributes children :: rest) =
            if name == "tr" then
              .cons (.all ((children.filter (·.name?.any isCell)).map (draftContent s centered)))
                (contents s centered grouped rest)
            else if isRowGroup name && !grouped then
              .combine (· ++ ·) (contents s centered true children)
                (contents s centered grouped rest)
            else contents s centered grouped rest :=
            contents_cons s centered grouped _ rest
          rw [draftRows.eq_def, below]
          simp only
          split
          · rw [Draft.map_cons, Draft.map_cons, map_draftCells, later]
          · split
            · next group =>
              have outer : grouped = false := by
                simpa using (Bool.and_eq_true_iff.mp group).2
              rw [Draft.map_combine_append, Draft.map_combine_append, inGroup outer children,
                later]
            · exact later
      | text | comment | doctype | instruction | document =>
          rw [draftRows.eq_def, contents_cons]
          exact later

/-- The number of columns of a grid: that of its widest row, and at least one. -/
def width (grid : List (List α)) : Nat :=
  max ((grid.map List.length).foldl max 0) 1

private theorem width_pos (grid : List (List α)) : 0 < width grid :=
  Nat.le_max_right _ 1

private theorem length_le_width {grid : List (List α)} {row : List α} (member : row ∈ grid) :
    row.length ≤ width grid :=
  (le_foldl_max_iff.mpr (.inr ⟨_, List.mem_map_of_mem member, Nat.le_refl _⟩)).trans
    (Nat.le_max_left _ 1)

private theorem width_map_map (f : α → β) (grid : List (List α)) :
    width (grid.map (List.map f)) = width grid := by
  simp [width, Function.comp_def]

private theorem columns_eq_width (rows : List Row) :
    columns rows = width (rows.map (List.map Cell.text)) :=
  (width_map_map Cell.text rows).symm

/-- A line of a table whose cells are written as given. -/
def textLine (columns : Nat) (texts : List Text) : Text :=
  "| ".toList ++ join " | ".toList (pad columns texts) ++ " |".toList

private theorem mem_pad {columns : Nat} {texts : List Text} {text : Text}
    (member : text ∈ pad columns texts) : text ∈ texts ∨ text = [] :=
  (List.mem_append.mp member).imp_right List.eq_of_mem_replicate

private theorem lineFeed_notMem_join {separator : Text} {pieces : List Text}
    (outside : '\n' ∉ separator)
    (inside : ∀ piece ∈ pieces, '\n' ∉ piece) : '\n' ∉ join separator pieces := by
  fun_induction join separator pieces with
  | case1 => exact List.not_mem_nil
  | case2 piece => exact inside piece List.mem_cons_self
  | case3 piece pieces _ ih =>
      rw [List.forall_mem_cons] at inside
      simp only [List.mem_append, not_or]
      exact ⟨⟨inside.1, outside⟩, ih inside.2⟩

section Read

variable {columns : Nat} {texts : List Text}

private theorem lineFeed_notMem_textLine
    (single : ∀ text ∈ texts, ∀ c ∈ text, isLineBreak c = false) :
    '\n' ∉ textLine columns (texts.map escapePipes) := by
  have cell : ∀ piece ∈ pad columns (texts.map escapePipes), '\n' ∉ piece := by
    intro piece padded breaks
    rcases mem_pad padded with given | rfl
    · obtain ⟨text, member, rfl⟩ := List.mem_map.mp given
      obtain ⟨c, inside, written⟩ := List.mem_flatMap.mp breaks
      split at written
      · exact absurd written (by decide)
      · rw [← List.mem_singleton.mp written] at inside
        exact absurd (single text member _ inside) (by decide)
    · cases breaks
  have outside : '\n' ∉ " | ".toList ∧ '\n' ∉ "| ".toList ∧ '\n' ∉ " |".toList := by decide
  simp only [textLine, List.mem_append, not_or]
  exact ⟨⟨outside.2.1, lineFeed_notMem_join outside.1 cell⟩, outside.2.2⟩

variable (some : 0 < columns) (within : texts.length ≤ columns)
include some within

private theorem pad_ne_nil : pad columns texts ≠ [] :=
  List.ne_nil_of_length_pos (some.trans_eq (length_pad within).symm)

private theorem bars_textLine :
    bars false (textLine columns (texts.map escapePipes)) = columns + 1 := by
  have unbarred : ∀ cell ∈ (pad columns texts).map escapePipes, ∀ escaped,
      bars escaped cell = 0 := by
    intro cell member escaped
    obtain ⟨text, -, rfl⟩ := List.mem_map.mp member
    exact bars_escapePipes escaped text
  rw [textLine, pad_map rfl,
    bars_line (mt List.map_eq_nil_iff.mp (pad_ne_nil some within)) unbarred, List.length_map,
    length_pad within]

private theorem readCells_textLine (trimmed : ∀ text ∈ texts, trim text = text) :
    readCells (textLine columns (texts.map escapePipes)) = pad columns texts := by
  rw [textLine, pad_map rfl]
  refine readCells_line (pad_ne_nil some within) fun text member => ?_
  rcases mem_pad member with given | rfl
  · exact trimmed text given
  · rfl

end Read

/-- The texts below the cells of a header. -/
def delimiters (columns : Nat) (header : Row) : List Text :=
  header.map (delimiter ∘ Cell.attributes) ++
    List.replicate (columns - header.length) (delimiter [])

private theorem delimiterLine_eq (columns : Nat) (header : Row) :
    delimiterLine columns header = '|' :: join ['|'] (delimiters columns header) ++ ['|'] := by
  simp [delimiterLine, delimiters]

private theorem plain_of_mem_delimiters {columns : Nat} {header : Row} {text : Text}
    (member : text ∈ delimiters columns header) : ∀ c ∈ text, c ≠ '|' ∧ c ≠ '\\' ∧ c ≠ '\n' := by
  have plain : text.any (fun c => c == '|' || c == '\\' || c == '\n') = false := by
    rcases List.mem_append.mp member with own | filled
    · obtain ⟨cell, -, rfl⟩ := List.mem_map.mp own
      exact any_delimiter cell.attributes
    · rw [List.eq_of_mem_replicate filled]
      exact any_delimiter []
  intro c inside
  simpa [and_assoc] using of_any_eq_false plain c inside

private theorem lineFeed_notMem_delimiterLine (columns : Nat) (header : Row) :
    '\n' ∉ delimiterLine columns header := by
  have inside : '\n' ∉ join ['|'] (delimiters columns header) :=
    lineFeed_notMem_join (by decide) fun text member breaks =>
      (plain_of_mem_delimiters member _ breaks).2.2 rfl
  rw [delimiterLine_eq]
  simpa using inside

private theorem bars_delimiterLine {columns : Nat} {header : Row} (some : 0 < columns)
    (within : header.length ≤ columns) :
    bars false (delimiterLine columns header) = columns + 1 := by
  have counted : (delimiters columns header).length = columns := by
    simp [delimiters, within]
  have filled : delimiters columns header ≠ [] :=
    List.ne_nil_of_length_pos (some.trans_eq counted.symm)
  rw [delimiterLine_eq, bars_delimiters filled, counted]
  intro text member c inside
  have plain := plain_of_mem_delimiters member c inside
  exact ⟨plain.1, plain.2.1⟩

section Lines

variable {header : Row} {rows : List Row} {grid : List (List Text)}
  (same : (header :: rows).map (List.map Cell.text) = grid.map (List.map escapePipes))
include same

private theorem columns_eq : columns (header :: rows) = width grid := by
  rw [columns_eq_width, same, width_map_map]

/-- The lines of a table without the one below the header. -/
theorem eraseIdx_lines :
    (lines header rows).eraseIdx 1 =
      grid.map fun texts => textLine (width grid) (texts.map escapePipes) := by
  have cells : (lines header rows).eraseIdx 1 =
      ((header :: rows).map (List.map Cell.text)).map (textLine (width grid)) := by
    rw [← columns_eq same, List.map_map]
    rfl
  rw [cells, same, List.map_map]
  rfl

private theorem length_lines : (lines header rows).length = grid.length + 1 := by
  have counted := congrArg List.length same
  simp only [List.length_map, List.length_cons] at counted
  simp only [lines, List.length_cons, List.length_map, counted]

/-- A line of a table is the one below the header or a line of cells. -/
theorem mem_lines {text : Text} (member : text ∈ lines header rows) :
    text = delimiterLine (width grid) header ∨
      ∃ texts ∈ grid, text = textLine (width grid) (texts.map escapePipes) := by
  have erased := eraseIdx_lines same
  have below : lines header rows = line (columns (header :: rows)) header ::
      delimiterLine (columns (header :: rows)) header ::
        rows.map (line (columns (header :: rows))) := rfl
  rw [below] at member erased
  have listed : text = delimiterLine (columns (header :: rows)) header ∨
      text ∈ grid.map fun texts => textLine (width grid) (texts.map escapePipes) := by
    rw [← erased]
    simp only [List.mem_cons] at member
    rcases member with first | second | later
    · exact .inr (first ▸ List.mem_cons_self)
    · exact .inl second
    · exact .inr (List.mem_cons_of_mem _ later)
  rw [columns_eq same] at listed
  refine listed.imp_right fun written => ?_
  obtain ⟨texts, paired, rfl⟩ := List.mem_map.mp written
  exact ⟨texts, paired, rfl⟩

private theorem bars_of_mem_lines {text : Text} (member : text ∈ lines header rows) :
    bars false text = width grid + 1 := by
  rcases mem_lines same member with rfl | ⟨texts, paired, rfl⟩
  · refine bars_delimiterLine (width_pos grid) ?_
    rw [← columns_eq same]
    exact length_le_width List.mem_cons_self
  · exact bars_textLine (width_pos grid) (length_le_width paired)

private theorem lineFeed_notMem_of_mem_lines
    (single : ∀ texts ∈ grid, ∀ text ∈ texts, ∀ c ∈ text, isLineBreak c = false)
    {text : Text} (member : text ∈ lines header rows) : '\n' ∉ text := by
  rcases mem_lines same member with rfl | ⟨texts, paired, rfl⟩
  · exact lineFeed_notMem_delimiterLine _ header
  · exact lineFeed_notMem_textLine (single texts paired)

private theorem readCells_lines (trimmed : ∀ texts ∈ grid, ∀ text ∈ texts, trim text = text) :
    ((lines header rows).eraseIdx 1).map readCells = grid.map (pad (width grid)) := by
  rw [eraseIdx_lines same, List.map_map]
  refine List.map_congr_left fun texts paired => ?_
  exact readCells_textLine (width_pos grid) (length_le_width paired) (trimmed texts paired)

end Lines

private theorem hasRows_iff (children : List Node) :
    hasRows children = true ↔ rowNodes false children ≠ [] := by
  have row : ∀ node : Node,
      (if node.name? == some "tr" then [node]
        else if node.name?.any isRowGroup && !false then
          node.children.filter (·.name? == some "tr")
        else []) ≠ [] ↔
      (node.name? == some "tr" ||
        (node.name?.any isRowGroup && node.children.any (·.name? == some "tr"))) = true := by
    intro node
    split
    · next row => simp [row]
    · next other =>
      rw [Bool.not_false, Bool.and_true, Bool.eq_false_iff.mpr other, Bool.false_or]
      split
      · next group => simp [group]
      · next group => simp [group]
  rw [hasRows, rowNodes, Ne, List.flatMap_eq_nil_iff, List.any_eq_true]
  simp only [not_forall, exists_prop]
  exact exists_congr fun node => and_congr_right fun _ => (row node).symm

/-- The texts of the cells of a table, row by row, each on one line. -/
def grid (s : Settings) (centered : Bool) (children : List Node) (paths : List Text) :
    List (List Text) :=
  ((contents s centered false children).fill paths).map (List.map cellLine)

/-- The lines of a table are one more than its rows. Each has one pipe more than there are columns.
Read back, the lines other than the one below the header are the texts of the cells, each on one
line, filled up to the number of columns. -/
theorem grid_read_back (s : Settings) (centered : Bool) (space : ElementSpace)
    (attributes : List Attribute) {children : List Node} (filled : hasRows children = true)
    (paths : List Text) :
    ∃ block,
      (draftNode s centered (.element space "table" attributes children)).fill paths =
        Fragment.blockText block ∧
      (splitOn '\n' block).length = (rowNodes false children).length + 1 ∧
      (∀ line ∈ splitOn '\n' block,
        bars false line = width (grid s centered children paths) + 1) ∧
      ((splitOn '\n' block).eraseIdx 1).map readCells =
        (grid s centered children paths).map (pad (width (grid s centered children paths))) ∧
      ∀ texts ∈ grid s centered children paths, ∀ text ∈ texts, ∀ c ∈ text,
        isLineBreak c = false := by
  have cellLines : ∀ texts ∈ grid s centered children paths, ∀ text ∈ texts,
      ∃ content, text = cellLine content := by
    intro texts paired text member
    obtain ⟨row, -, rfl⟩ := List.mem_map.mp paired
    obtain ⟨content, -, rfl⟩ := List.mem_map.mp member
    exact ⟨content, rfl⟩
  have single : ∀ texts ∈ grid s centered children paths, ∀ text ∈ texts, ∀ c ∈ text,
      isLineBreak c = false := by
    intro texts paired text member
    obtain ⟨content, rfl⟩ := cellLines texts paired text member
    exact lineBreak_notMem_cellLine content
  have trimmed : ∀ texts ∈ grid s centered children paths, ∀ text ∈ texts, trim text = text := by
    intro texts paired text member
    obtain ⟨content, rfl⟩ := cellLines texts paired text member
    exact trim_trim _
  have counted : (grid s centered children paths).length = (rowNodes false children).length := by
    rw [grid, List.length_map, contents, Draft.length_fill_all, List.length_map]
  have same : ((draftRows s centered false children).fill paths).map (List.map Cell.text) =
      (grid s centered children paths).map (List.map escapePipes) := by
    have texts := congrArg (fun draft => draft.fill paths) (map_draftRows s centered false children)
    rw [grid, List.map_map]
    refine texts.trans (List.map_congr_left fun row _ => ?_)
    rw [Function.comp_apply, List.map_map]
    rfl
  have converted : (draftNode s centered (.element space "table" attributes children)).fill paths =
      (fragment? ((draftRows s centered false children).fill paths)).getD ∅ := by
    rw [draftNode.eq_def]
    simp only [show Rule.ofName "table" = .table from rfl, filled, if_true]
    rfl
  obtain ⟨header, rows, written⟩ : ∃ header rows,
      (draftRows s centered false children).fill paths = header :: rows := by
    refine List.exists_cons_of_ne_nil fun none => (hasRows_iff children).mp filled ?_
    rw [none, List.map_nil] at same
    have noTexts := List.map_eq_nil_iff.mp same.symm
    rw [noTexts] at counted
    exact List.eq_nil_of_length_eq_zero counted.symm
  rw [written] at same converted
  have split : splitOn '\n' (join ['\n'] (lines header rows)) = lines header rows :=
    splitOn_join (List.cons_ne_nil _ _) fun line member =>
      lineFeed_notMem_of_mem_lines same single member
  refine ⟨join ['\n'] (lines header rows), converted, ?_, ?_, ?_, single⟩
  · rw [split, length_lines same, counted]
  · rw [split]
    exact fun line member => bars_of_mem_lines same member
  · rw [split]
    exact readCells_lines same trimmed

/-- A table whose header holds a pipe and a line break, over a shorter row that ends with a
backslash. -/
def pipedTable : List Node :=
  [.element .html "thead" [] [.element .html "tr" []
      [.element .html "th" [] [.text "a|b".toList],
        .element .html "th" [] [.element .html "code" [] [.text "c\nd".toList]]]],
    .element .html "tr" [] [.element .html "td" [] [.text "x|\\".toList]]]

/-- A table with bars, code and an empty cell is read back. -/
theorem grid_read_back_pipedTable :
    hasRows pipedTable = true ∧ ∃ block,
      (draftNode {} false (.element .html "table" [] pipedTable)).fill [] =
        Fragment.blockText block ∧
      (splitOn '\n' block).length = 3 ∧
      (∀ line ∈ splitOn '\n' block, bars false line = 3) ∧
      ((splitOn '\n' block).eraseIdx 1).map readCells =
        [["a|b".toList, "`c d`".toList], ["x|\\".toList, []]] ∧
      ∀ texts ∈ [["a|b".toList, "`c d`".toList], ["x|\\".toList]], ∀ text ∈ texts, ∀ c ∈ text,
        isLineBreak c = false :=
  ⟨rfl, grid_read_back {} false .html [] rfl []⟩

/-- A row without cells still shows one. -/
theorem rowWithoutCells_shows_cell :
    let row := Node.element .html "tr" [] []
    let block := "|  |\n|:---:|".toList
    hasRows [row] = true ∧
      (draftNode {} false (.element .html "table" [] [row])).fill [] = Fragment.blockText block ∧
      grid {} false [row] [] = [[]] ∧
      ((splitOn '\n' block).eraseIdx 1).map readCells = [[[]]] := by
  decide

end Table
end ArticleMarkdown
