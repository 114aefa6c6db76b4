import ArticleMarkdown.Proofs.Article.Contract
import ArticleMarkdown.Proofs.Asset.PlainPath
import ArticleMarkdown.Proofs.Fragment.Mentions
import ArticleMarkdown.Proofs.Markdown.Ink
import ArticleMarkdown.Proofs.Text.Respaced

/-!
# Documents mention their assets

The draft of a document mentions every plain path that it is filled with: images and drawings write
the path, and no rule drops, escapes or breaks up what the converted content of an element mentions.
A conversion that succeeds answers every request of its document with a path, so each entry that it
adds to its store is mentioned in the Markdown.
-/

namespace ArticleMarkdown

namespace Text

namespace PlainPath

variable {p t : Text} (path : PlainPath p)
include path

private theorem beq_of_mem {c : Char} (member : c ∈ p) (other : Char)
    (foreign : isPathChar other = false) :
    (c == other) = false := by
  refine beq_false_of_ne ?_
  rintro rfl
  rw [path.plain c member] at foreign
  cases foreign

private theorem infix_replaceChar {target : Char} (foreign : isPathChar target = false)
    (held : p <:+: t) (replacement : Text) : p <:+: replaceChar target replacement t := by
  refine infix_flatMap (fun c member => ?_) held
  simp only [path.beq_of_mem member target foreign, Bool.false_eq_true, if_false]

private theorem infix_encodeValue (held : p <:+: t) : p <:+: Markup.encodeValue t := by
  refine infix_flatMap (fun c member => ?_) held
  have apart := path.beq_of_mem member
  simp only [apart '&' rfl, apart '<' rfl, apart '>' rfl, apart '"' rfl, Bool.false_eq_true,
    if_false]

private theorem infix_destination (held : p <:+: t) : p <:+: Link.destination t := by
  rw [Link.destination]
  split
  · refine List.infix_append_of_infix_left (List.infix_cons ?_)
    refine infix_flatMap (fun c member => ?_) held
    have apart := path.beq_of_mem member
    simp only [apart '<' rfl, apart '>' rfl, Bool.false_eq_true, if_false]
  · exact held

private theorem infix_link (held : p <:+: t) (label : Text) : p <:+: Link.ofText label t := by
  have destination := path.infix_destination held
  have ending : p <:+: Link.ending t := by
    rw [Link.ending]
    exact List.infix_append_of_infix_left (List.infix_cons (List.infix_cons destination))
  rw [Link.ofText]
  exact List.infix_append_of_infix_right ending

/-- What the address of an image holds is found in its Markdown. -/
theorem infix_markdown (held : p <:+: t) (alt : Text) (width height : Option Text) :
    p <:+: Image.markdown t alt width height := by
  rw [Image.markdown]
  split
  · have encoded := path.infix_encodeValue held
    unfold Image.sizedTag
    iterate 6 refine List.infix_append_of_infix_left ?_
    exact List.infix_append_of_infix_right encoded
  · exact List.infix_cons (path.infix_link held alt)

end PlainPath
end Text

namespace Fragment.Mentions

variable {f : Fragment} {p : Text} (solid : p.Solid)
include solid

/-- Content that mentions something is not left out. -/
theorem unlessBlank {content shown : Fragment} (held : content.Mentions p)
    (mentioned : shown.Mentions p) : (if content.isBlank then ∅ else shown).Mentions p := by
  rwa [not_blank solid held, if_neg Bool.false_ne_true]

/-- Emphasis passes on what its content mentions. -/
theorem wrap (held : f.Mentions p) (kind : Emphasis) : (kind.wrap f).Mentions p := by
  have inCore : (Emphasis.core f).Mentions p := solid.infix_of_frames (Emphasis.frames_core f) held
  rw [Emphasis.wrap_eq]
  exact unlessBlank solid inCore
    ((((inCore.append_right _).append_left _).append_right _).append_left _)

/-- A script passes on what its content mentions. -/
theorem script (held : f.Mentions p) (tag : String) : (Script.wrap tag f).Mentions p :=
  have trimmed := trim solid held
  unlessBlank solid trimmed ((trimmed.append_right _).append_left _)

private theorem label (held : f.Mentions p) : (Link.label f).Mentions p :=
  trim solid held.flattened

/-- A link passes on what its content mentions. -/
theorem around (held : f.Mentions p) (address : Text) : (Link.around address f).Mentions p := by
  have inLabel := label solid held
  simp only [Link.around]
  rw [not_blank solid inLabel, if_neg Bool.false_ne_true]
  exact inlined ((inLabel.append_right _).append_left _)

/-- An anchor without an address passes on what its content mentions. -/
theorem unlinked (held : f.Mentions p) : (Link.unlinked f).Mentions p :=
  have inLabel := label solid held
  unlessBlank solid inLabel inLabel.inlined

/-- A link that is stripped passes on what its content mentions. -/
theorem stripped (held : f.Mentions p) : (Link.stripped f).Mentions p :=
  (label solid held).inlined

/-- A quotation passes on what its content mentions. -/
theorem quotation (held : f.Mentions p) : (Quotation.fragment f).Mentions p :=
  have resolved := resolve solid held
  unlessBlank solid resolved (markLines solid resolved _).blocked

/-- A heading passes on what its content mentions. -/
theorem heading (held : f.Mentions p) (level : Nat) : (Heading.fragment level f).Mentions p :=
  have resolved := resolve solid held
  unlessBlank solid resolved (markLines solid resolved _).blocked

/-- An item passes on what its content mentions. -/
theorem item (held : f.Mentions p) (kind : ListKind) (number : Nat) :
    (kind.item number f).closed.Mentions p :=
  (markLines solid (resolve solid held) _).append_left _

/-- A list in a list passes on what its content mentions. -/
theorem nested (held : f.Mentions p) (kind : ListKind) : (kind.nested f).closed.Mentions p :=
  (markLines solid (resolve solid held) _).append_left _

/-- The text of a document holds what its fragment mentions. -/
theorem documentText (held : f.Mentions p) : p <:+: f.documentText := by
  obtain ⟨ending, -, split⟩ := f.documentText_split
  rw [split]
  exact List.infix_append_of_infix_left (held.finalText solid)

end Fragment.Mentions

namespace Table

variable {p : Text} (solid : p.Solid)

/-- The separator that waits for the next text. -/
def CellLayout.gap (cell : CellLayout) : Text :=
  Text.gap (cell.pendingBlock || cell.pendingInline)

/-- A text with its line breaks made spaces. -/
def spaced (t : Text) : Text :=
  t.map fun c => if Text.isLineBreak c then ' ' else c

/-- Line breaks in a cell become spaces. -/
theorem map_spaced (t : Text) :
    (t.map fun c => if Text.isLineBreak c then ' ' else c) = spaced t := rfl

section Cells
include solid

/-- A line break and the space in its place are the same to a solid text. -/
theorem infix_spaced_iff {before t after : Text} :
    p <:+: before ++ (spaced t ++ after) ↔ p <:+: before ++ (t ++ after) :=
  ((Text.Respaced.refl before).append
    ((Text.respaced_map_lineBreak t).append (.refl after))).infix_iff solid

/-- Text after a block separator. -/
theorem CellLayout.infix_write_blocked {written t rest : Text} {pendingInline : Bool}
    (held : p <:+: written ∨ p <:+: spaced t ++ rest) :
    p <:+: (write ⟨written, true, pendingInline⟩ (.text t)).written ++
      ((write ⟨written, true, pendingInline⟩ (.text t)).gap ++ rest) := by
  simp only [write, map_spaced, Bool.true_or, Bool.and_true, Bool.true_and]
  split
  · next nothing =>
    exact solid.infix_space_iff.mpr (held.imp_right (solid.infix_of_blank_append nothing))
  · split
    · obtain ⟨after, blank, kept⟩ := Text.trimEnd_split written
      obtain ⟨before, blank', shown⟩ := Text.trimStart_split (spaced t)
      rcases held with earlier | later
      · rw [kept] at earlier
        have inKept := solid.infix_of_append_blank blank earlier
        exact List.infix_append_of_infix_left
          (List.infix_append_of_infix_left (List.infix_append_of_infix_left inKept))
      · rw [shown, List.append_assoc] at later
        rw [List.append_assoc]
        exact List.infix_append_of_infix_right (solid.infix_of_blank_append blank' later)
    · next start =>
      rw [Bool.not_eq_true, Bool.not_eq_false', List.isEmpty_iff] at start
      rcases held with earlier | later
      · rw [start] at earlier
        exact absurd (List.infix_nil.mp earlier) solid.filled
      · rw [List.append_assoc]
        exact List.infix_append_of_infix_right later

private theorem CellLayout.infix_write {cell : CellLayout} {token : Token} {rest : Text}
    (held : p <:+: cell.written ++ (cell.gap ++ (token.spread ++ rest))) :
    p <:+: (cell.write token).written ++ ((cell.write token).gap ++ rest) := by
  obtain ⟨written, pendingBlock, pendingInline⟩ := cell
  cases token with
  | blockBreak => exact solid.infix_space_iff.mpr (solid.infix_gap _ held)
  | inlineBreak =>
      have waits :
          (CellLayout.write ⟨written, pendingBlock, pendingInline⟩ .inlineBreak).gap = [' '] := by
        cases pendingBlock <;> rfl
      rw [waits]
      exact solid.infix_space_iff.mpr (solid.infix_gap _ held)
  | text t =>
      rw [Token.spread, ← List.append_assoc] at held
      have shown := (infix_spaced_iff solid).mpr held
      rw [List.append_assoc] at shown
      cases pendingBlock with
      | true => exact infix_write_blocked solid (solid.infix_space_iff.mp shown)
      | false =>
          simp only [write, map_spaced, Bool.false_or, Bool.false_and, Bool.false_eq_true, if_false]
          split
          · next nothing =>
            rw [Bool.and_eq_true, List.isEmpty_iff] at nothing
            obtain ⟨blank, rfl⟩ := nothing
            have waiting := solid.infix_of_blank_append (Text.isBlank_gap _) shown
            exact List.infix_append_of_infix_right
              (List.infix_append_of_infix_right (solid.infix_of_blank_append blank waiting))
          · cases pendingInline with
            | false =>
                simpa [CellLayout.gap, Text.gap] using shown
            | true =>
                rcases solid.infix_space_iff.mp shown with earlier | later
                · exact List.infix_append_of_infix_left
                    (List.infix_append_of_infix_left (List.infix_append_of_infix_left earlier))
                · rw [List.append_assoc]
                  exact List.infix_append_of_infix_right later

private theorem CellLayout.infix_foldl_write {cell : CellLayout} {tokens : List Token}
    (held : p <:+: cell.written ++ (cell.gap ++ Token.allSpread tokens)) :
    p <:+: (tokens.foldl write cell).written := by
  induction tokens generalizing cell with
  | nil =>
      refine solid.infix_of_append_blank ?_ held
      rw [Text.isBlank_append, gap, Text.isBlank_gap]
      rfl
  | cons token rest ih => exact ih (infix_write solid held)

private theorem infix_cellLine {f : Fragment} (held : f.Mentions p) : p <:+: cellLine f := by
  have start : p <:+: CellLayout.start.written ++
      (CellLayout.start.gap ++ Token.allSpread f.trim.tokens) := held.trim solid
  exact solid.infix_of_frames (Text.frames_trim _) (CellLayout.infix_foldl_write solid start)

end Cells

/-- A cell holds a plain path that its content mentions. -/
theorem infix_cellText {f : Fragment} (path : p.PlainPath) (held : f.Mentions p) :
    p <:+: cellText f :=
  path.infix_replaceChar rfl (infix_cellLine path.solid held) _

/-- A row with a cell that holds a text. -/
def Row.Holds (row : Row) (p : Text) : Prop :=
  ∃ cell ∈ row, p <:+: cell.text

private theorem Row.Holds.line {row : Row} (held : row.Holds p) (columns : Nat) :
    p <:+: line columns row := by
  obtain ⟨cell, member, inCell⟩ := held
  have padded : cell.text ∈ pad columns (row.map Cell.text) :=
    List.mem_append_left _ (List.mem_map_of_mem member)
  have joined := inCell.trans (Text.infix_join padded " | ".toList)
  exact List.infix_append_of_infix_left (List.infix_append_of_infix_right joined)

/-- A table mentions what a cell of its rows holds. -/
theorem mentions_fragment? {rows : List Row} (held : ∃ row ∈ rows, row.Holds p) :
    ((fragment? rows).getD ∅).Mentions p := by
  obtain ⟨row, member, inRow⟩ := held
  cases rows with
  | nil => cases member
  | cons header rows =>
      have shown : line (columns (header :: rows)) row ∈ lines header rows := by
        rw [lines]
        rcases List.mem_cons.mp member with rfl | later
        · exact List.mem_cons_self
        · exact List.mem_cons_of_mem _ (List.mem_cons_of_mem _ (List.mem_map_of_mem later))
      have joined := (inRow.line _).trans (Text.infix_join shown ['\n'])
      exact (Fragment.Mentions.ofText joined).blocked

end Table

/-- Whatever plain paths a draft is filled with, they are found in the result. -/
def Draft.Refers (found : α → Text → Prop) (draft : Draft α) : Prop :=
  ∀ paths : List Text, paths.length = draft.requests.length →
    ∀ p ∈ paths, Text.PlainPath p → found (draft.fill paths) p

namespace Draft.Refers

variable {α β γ : Type} {found : α → Text → Prop} {found' : β → Text → Prop}
  {found'' : γ → Text → Prop}

private theorem of (a : α) : (Draft.of a).Refers found := by
  intro paths none p member
  rw [List.length_eq_zero_iff.mp none] at member
  cases member

private theorem path (request : Asset.Request) : (Draft.path request).Refers fun t p => t = p := by
  intro paths single p member plain
  obtain ⟨only, rfl⟩ := List.length_eq_one_iff.mp single
  exact (List.mem_singleton.mp member).symm

private theorem map {draft : Draft α} (refers : draft.Refers found) {f : α → β}
    (keeps : ∀ {a p}, Text.PlainPath p → found a p → found' (f a) p) :
    (draft.map f).Refers found' :=
  fun paths length p member plain => keeps plain (refers paths length p member plain)

private theorem combine {first : Draft α} {second : Draft β} (refers : first.Refers found)
    (refers' : second.Refers found') {f : α → β → γ}
    (keeps : ∀ {a b p}, found a p → found'' (f a b) p)
    (keeps' : ∀ {a b p}, found' b p → found'' (f a b) p) :
    (Draft.combine f first second).Refers found'' := by
  intro paths length p member plain
  -- Each draft is filled with its own part of the paths, and `p` is in one of the two.
  rw [Draft.combine, List.length_append] at length
  have lengths : (paths.take first.requests.length).length = first.requests.length ∧
      (paths.drop first.requests.length).length = second.requests.length := by
    rw [List.length_take, List.length_drop]
    omega
  rw [← List.take_append_drop first.requests.length paths, List.mem_append] at member
  rcases member with early | late
  · exact keeps (refers _ lengths.1 p early plain)
  · exact keeps' (refers' _ lengths.2 p late plain)

private theorem append {first second : Draft Fragment} (refers : first.Refers Fragment.Mentions)
    (refers' : second.Refers Fragment.Mentions) : (first.append second).Refers Fragment.Mentions :=
  refers.combine refers' (·.append_left _) (·.append_right _)

private theorem cons {first : Draft α} {rest : Draft (List α)} (refers : first.Refers found)
    (refers' : rest.Refers fun list p => ∃ a ∈ list, found a p) :
    (Draft.cons first rest).Refers fun list p => ∃ a ∈ list, found a p :=
  refers.combine refers' (fun held => ⟨_, List.mem_cons_self, held⟩)
    fun ⟨a, member, held⟩ => ⟨a, List.mem_cons_of_mem _ member, held⟩

end Draft.Refers

private theorem Image.draft_refers (s : Settings) (centered : Bool) (attributes : List Attribute) :
    (Image.draft s centered attributes).Refers Fragment.Mentions := by
  simp only [Image.draft]
  split
  · exact .of _
  · split
    · exact .of _
    · refine Draft.Refers.map (?_ : Draft.Refers (fun t p => t = p) _) fun path same => ?_
      · split
        · exact .path _
        · exact .of _
      · subst same
        have shown := path.infix_markdown (List.infix_refl _)
        exact ((Fragment.Mentions.ofText (shown _ _ _)).append_right _).append_left _

private theorem Drawing.draft_refers (s : Settings) (space : ElementSpace) (name : String)
    (attributes : List Attribute) (children : List Node) :
    (Drawing.draft s space name attributes children).Refers Fragment.Mentions := by
  simp only [Drawing.draft]
  split
  · exact .of _
  · split
    · refine Draft.Refers.map (.path _) fun path same => ?_
      subst same
      refine (Fragment.Mentions.ofText ?_).blocked
      exact List.infix_append _ _ _
    · split
      · exact .of _
      · exact .of _

mutual

/-- The draft of a node mentions the plain paths that it is filled with. -/
theorem draftNode_refers (s : Settings) (centered : Bool) :
    ∀ node, (draftNode s centered node).Refers Fragment.Mentions
  | .text content => by
      rw [draftNode.eq_def]
      exact .of _
  | .comment content => by
      rw [draftNode.eq_def]
      exact .of _
  | .doctype name => by
      rw [draftNode.eq_def]
      exact .of _
  | .instruction target data => by
      rw [draftNode.eq_def]
      exact .of _
  | .document children => by
      rw [draftNode.eq_def]
      exact draftNodes_refers s centered children
  | .element space name attributes children => by
      have below := fun centers => draftNodes_refers s centers children
      have closed := (below centered).map fun _ held => held.append_left Fragment.blockBreak
      have blocked := fun centers => (below centers).map fun _ held => held.blocked
      rw [draftNode.eq_def]
      simp only
      -- One case per rule. Where a rule does not convert the children, it asks for nothing.
      split
      · exact (draftHeading_refers s centered children).map fun path held =>
          held.heading path.solid _
      · split
        · exact blocked true
        · exact .of _
        · exact .of _
        · exact .of _
        · exact blocked centered
      · exact (below centered).map fun path held => (held.trim path.solid).wrap path.solid _
      · split
        · exact .of _
        · exact .of _
        · exact (below centered).map fun path held => held.stripped path.solid
        · exact (below centered).map fun path held => held.unlinked path.solid
        · exact (below centered).map fun path held => held.around path.solid _
      · exact Image.draft_refers s centered attributes
      · exact (draftItems_refers s.descend centered _ _ children).map fun _ held =>
          held.append_right _
      · exact (below centered).map fun path held => held.quotation path.solid
      · exact .of _
      · exact .of _
      · split
        · exact (draftRows_refers s centered false children).map fun _ held =>
            Table.mentions_fragment? held
        · exact closed
      · split
        · exact .of _
        · split
          · exact .of _
          · exact below centered
      · split
        · exact .of _
        · exact below centered
      · split
        · exact .of _
        · exact (below centered).map fun path held => held.script path.solid _
      · exact (below centered).map fun path held => held.script path.solid _
      · exact .of _
      · exact Drawing.draft_refers s space name attributes _
      · split
        · exact .of _
        · exact blocked true
      · split
        · exact .of _
        · exact closed
      · exact .of _
      · exact .of _
      · exact .of _
      · exact closed

private theorem draftNodes_refers (s : Settings) (centered : Bool) :
    ∀ nodes, (draftNodes s centered nodes).Refers Fragment.Mentions
  | [] => by
      rw [draftNodes.eq_def]
      exact .of _
  | node :: rest => by
      rw [draftNodes.eq_def]
      exact (draftNode_refers s centered node).append (draftNodes_refers s centered rest)

/-- So does the draft of the content of a heading. -/
theorem draftHeading_refers (s : Settings) (centered : Bool) :
    ∀ nodes, (draftHeading s centered nodes).Refers Fragment.Mentions
  | [] => by
      rw [draftHeading.eq_def]
      exact .of _
  | node :: rest => by
      have later := draftHeading_refers s centered rest
      rw [draftHeading.eq_def]
      simp only
      split
      · exact later
      · exact (draftNode_refers s centered node).append later

/-- So does the draft of the children of an element. -/
theorem draftContent_refers (s : Settings) (centered : Bool) :
    ∀ node, (draftContent s centered node).Refers Fragment.Mentions
  | .element _ _ _ children => by
      rw [draftContent.eq_def]
      exact draftNodes_refers s centered children
  | .document children => by
      rw [draftContent.eq_def]
      exact draftNodes_refers s centered children
  | .text _ | .comment _ | .doctype _ | .instruction _ _ => by
      rw [draftContent.eq_def]
      exact .of _

/-- So do the drafts of the items of a list. -/
theorem draftItems_refers (s : Settings) (centered : Bool) (kind : ListKind) (number : Nat) :
    ∀ nodes, (draftItems s centered kind number nodes).Refers Fragment.Mentions
  | [] => by
      rw [draftItems.eq_def]
      exact .of _
  | node :: rest => by
      have later := fun number => draftItems_refers s centered kind number rest
      rw [draftItems.eq_def]
      simp only
      split
      · have content := draftContent_refers s centered node
        exact (content.map fun path held => held.item path.solid kind number).append
          (later _)
      · split
        · have content := draftNode_refers s centered node
          exact (content.map fun path held => held.nested path.solid kind).append (later number)
        · exact later number

/-- Each plain path is found in a cell of the rows. -/
theorem draftRows_refers (s : Settings) (centered grouped : Bool) :
    ∀ nodes, (draftRows s centered grouped nodes).Refers fun rows p => ∃ row ∈ rows, row.Holds p
  | [] => by
      rw [draftRows.eq_def]
      exact .of _
  | .element _ _ _ children :: rest => by
      have later := draftRows_refers s centered grouped rest
      rw [draftRows.eq_def]
      simp only
      split
      · exact (draftCells_refers s centered children).cons later
      · split
        · exact (draftRows_refers s centered true children).combine later
            (fun ⟨row, member, held⟩ => ⟨row, List.mem_append_left _ member, held⟩)
            fun ⟨row, member, held⟩ => ⟨row, List.mem_append_right _ member, held⟩
        · exact later
  | .text _ :: rest | .comment _ :: rest | .doctype _ :: rest | .instruction _ _ :: rest
  | .document _ :: rest => by
      rw [draftRows.eq_def]
      exact draftRows_refers s centered grouped rest

/-- Each plain path is found in a cell of the row. -/
theorem draftCells_refers (s : Settings) (centered : Bool) :
    ∀ nodes, (draftCells s centered nodes).Refers Table.Row.Holds
  | [] => by
      rw [draftCells.eq_def]
      exact .of _
  | node :: rest => by
      have later := draftCells_refers s centered rest
      rw [draftCells.eq_def]
      simp only
      split
      · have content := draftContent_refers s centered node
        exact (content.map fun path held => Table.infix_cellText path held).cons later
      · exact later

end

private theorem draftDocument_refers (s : Settings) (children : List Node) :
    (draftDocument s children).Refers fun t p => p <:+: t :=
  (draftNodes_refers s false children).map fun path held => held.documentText path.solid

end ArticleMarkdown

namespace ArticleMarkdown.Article

open Asset

variable {fetcher : Option Fetcher} {s : Settings} {store after : Store} {children : List Node}
  {markdown : Text}

/-- Whatever document is converted, with whatever store and fetcher: if the conversion succeeds, and
the directory and prefix of assets are made of letters, digits, underscores and hyphens (and slashes
in the directory), then each entry that is added lies at a path that occurs in the Markdown. -/
theorem added_entries_mentioned (plain : s.PlainNames)
    (converts : convertNodes fetcher s store children = (after, .ok markdown)) :
    ∃ added, after.sink.entries = store.sink.entries ++ added ∧
      ∀ entry ∈ added, entry.path <:+: markdown := by
  obtain ⟨paths, answers, rfl⟩ := answers_of_convertNodes converts
  obtain ⟨added, adds⟩ := Store.answerAll_adds (documentRequests_proper s children)
    (congrArg Prod.snd answers)
  rw [answers] at adds
  refine ⟨added, adds.entries, fun entry member => ?_⟩
  have answered := adds.answered entry member
  have path := adds.plain (Owner.plainNames_of plain) entry member
  exact draftDocument_refers s children paths adds.length entry.path answered path

/-- Two images in a list, one of them bold, and two in the cell of a table. -/
def imagesInListAndTable : List Node :=
  let element (name : String) (children : List Node) := Node.element .html name [] children
  let image (address : String) := Node.element .html "img" [⟨.none, "src", address.toList⟩] []
  [element "ul" [element "li" [element "b" [image "a.gif"], image "b"]],
    element "table" [element "tr" [element "td" [image "a.gif", image "c"]]]]

/-- Settings that place files two folders down. -/
def nestedDirectory : Settings :=
  { localizeAssets := true, assetDirectory := "files/of-1/".toList, assetPrefix := "x_".toList }

/-- The Markdown of the images, with three files for the four of them. -/
def imagesMarkdown : Text :=
  "- **![](files/of-1/x_1.gif)**\n\n  ![](files/of-1/x_2.png)\n\n".toList ++
    "| ![](files/of-1/x_1.gif)<br />![](files/of-1/x_3.png) |\n|:---:|\n\n".toList

/-- Three files for the images in a list and in a table. -/
theorem added_entries_mentioned_inListAndTable :
    (convertNodes none nestedDirectory {} imagesInListAndTable).2 = .ok imagesMarkdown ∧
    (convertNodes none nestedDirectory {} imagesInListAndTable).1.sink.entries.length = 3 ∧
    ∃ added,
      (convertNodes none nestedDirectory {} imagesInListAndTable).1.sink.entries = [] ++ added ∧
        ∀ entry ∈ added, entry.path <:+: imagesMarkdown := by
  have plain : nestedDirectory.PlainNames := ⟨by decide +kernel, by decide +kernel⟩
  have succeeds : (convertNodes none nestedDirectory {} imagesInListAndTable).2 =
      .ok imagesMarkdown := by decide +kernel
  exact ⟨succeeds, by decide +kernel, added_entries_mentioned plain (Prod.ext rfl succeeds)⟩

end ArticleMarkdown.Article
