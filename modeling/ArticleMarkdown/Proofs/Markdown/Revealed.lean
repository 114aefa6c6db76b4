import ArticleMarkdown.Proofs.Markdown.Tracks

/-!
# The mark of centred images in drafts

In the draft of a document that does not mention the mark, the mark shows up exactly if a node that
the walk reaches leaks it, or a path that the draft is filled with holds it
(`draftDocument_reveals`).
-/

namespace ArticleMarkdown

open Node Text

namespace Draft.Tracks

variable {s : Settings} {reached : Bool → Node → Prop} {nodes others : List Node}
  {draft : Draft Fragment}

/-- A rule that is quiet about content without the mark, and passes on content that shows it. -/
theorem wrap (reveals : draft.Reveals s reached nodes) (unmentioned : Unmentioned markText nodes)
    {f : Fragment → Fragment}
    (keeps : ∀ {c : Fragment}, c.Mentions markText → (f c).Mentions markText)
    (quiet : ∀ {c : Fragment}, ¬c.Mentions markText → (f c).Quiet) :
    (draft.map f).Reveals s reached others :=
  reveals.map keeps fun covered => (quiet (covered.absent unmentioned.unspelled)).covered _

private theorem blocked (reveals : draft.Reveals s reached nodes)
    (unmentioned : Unmentioned markText nodes) :
    (draft.map Fragment.blocked).Reveals s reached others :=
  reveals.wrap unmentioned (fun held => held.blocked) fun clear => .blocked clear

private theorem closed (reveals : draft.Reveals s reached nodes) :
    (draft.map Fragment.closed).Reveals s reached nodes := by
  refine reveals.map (fun held => held.append_left _) fun covered => ?_
  have both := covered.append (.of_severs Fragment.Quiet.space [])
  rw [List.append_nil] at both
  rwa [Fragment.closed, Fragment.spread_append]

/-- The text nodes may stand among others. -/
theorem mono (reveals : draft.Reveals s reached nodes)
    (within : (texts nodes).Sublist (texts others)) : draft.Reveals s reached others where
  asked := reveals.asked
  shows := reveals.shows
  hides paths length sealed := (reveals.hides paths length sealed).mono within

end Draft.Tracks

/-- The draft of a node shows the mark exactly if it is leaked. -/
abbrev Node.Revealed (s : Settings) (centered : Bool) (node : Node) : Prop :=
  (draftNode s centered node).Reveals s (Reached s centered [node]) [node]

/-- The drafts of rows show the mark in a cell exactly if it is leaked. -/
abbrev Draft.RevealsRows (s : Settings) (reached : Bool → Node → Prop)
    (draft : Draft (List Table.Row)) : Prop :=
  draft.Tracks s reached (fun rows => ∃ row ∈ rows, row.Holds markText)
    fun rows => ¬∃ row ∈ rows, row.Holds markText

/-- The drafts of items show the mark exactly if it is leaked; else they cannot be completed to it
behind a separator. -/
abbrev Draft.RevealsItems (s : Settings) (reached : Bool → Node → Prop) (draft : Draft Fragment) :
    Prop :=
  draft.Tracks s reached (fun f => f.Mentions markText) fun f => Severs markText (' ' :: f.spread)

private theorem Table.not_holds_append {rows others : List Table.Row}
    (clear : ¬∃ row ∈ rows, row.Holds markText) (clear' : ¬∃ row ∈ others, row.Holds markText) :
    ¬∃ row ∈ rows ++ others, row.Holds markText := by
  rintro ⟨row, member, held⟩
  rcases List.mem_append.mp member with early | late
  · exact clear ⟨row, early, held⟩
  · exact clear' ⟨row, late, held⟩

/-- The drafts of a list show the mark exactly if one of them does. -/
theorem Draft.Tracks.cons {s : Settings} {reached reached' reached'' : Bool → Node → Prop}
    {found : α → Prop} {first : Draft α} {rest : Draft (List α)}
    (tracks : first.Tracks s reached found fun a => ¬found a)
    (later : rest.Tracks s reached' (fun list => ∃ a ∈ list, found a)
      fun list => ¬∃ a ∈ list, found a)
    (either : ∀ {within inner}, reached'' within inner ↔
      reached within inner ∨ reached' within inner) :
    (Draft.cons first rest).Tracks s reached'' (fun list => ∃ a ∈ list, found a)
      fun list => ¬∃ a ∈ list, found a := by
  refine tracks.combine later either (fun held => ⟨_, List.mem_cons_self, held⟩)
    (fun ⟨a, member, held⟩ => ⟨a, List.mem_cons_of_mem _ member, held⟩) ?_
  rintro a list clear clear' ⟨b, member, held⟩
  rcases List.mem_cons.mp member with rfl | below
  · exact clear held
  · exact clear' ⟨b, below, held⟩

/-- An item ends a block, which keeps it apart from the items behind it. -/
theorem Draft.Tracks.item {s : Settings} {reached reached' reached'' : Bool → Node → Prop}
    {nodes : List Node} {content later : Draft Fragment} (reveals : content.Reveals s reached nodes)
    (unmentioned : Unmentioned markText nodes) (others : later.RevealsItems s reached')
    (either : ∀ {within inner}, reached'' within inner ↔
      reached within inner ∨ reached' within inner) {f : Fragment → Fragment}
    (keeps : ∀ {c : Fragment}, c.Mentions markText → (f c).closed.Mentions markText)
    (quiet : ∀ {c : Fragment}, ¬c.Mentions markText → ¬(f c).Mentions markText) :
    ((content.map fun c => (f c).closed).append later).RevealsItems s reached'' := by
  have items : (content.map fun c => (f c).closed).Tracks s reached (fun f => f.Mentions markText)
      fun shown => ∃ item : Fragment, shown = item.closed ∧ ¬item.Mentions markText :=
    reveals.map keeps fun covered => ⟨_, rfl, quiet (covered.absent unmentioned.unspelled)⟩
  refine items.combine others either (fun held => held.append_left _)
    (fun held => held.append_right _) ?_
  rintro _ rest ⟨item, rfl, clear⟩ severs
  rw [Fragment.closed, Fragment.spread_append, Fragment.spread_append, List.append_assoc]
  exact Fragment.Quiet.space.enclose severs clear

section Rules

variable {s : Settings} {centered : Bool} {space : ElementSpace} {name : String}
  {attributes : List Attribute} {children : List Node}

/-- A link leads to the address that its attributes tell. -/
theorem Link.address_of_form {stripSearch : Bool} {address : Text}
    (linked : form stripSearch attributes = .linked address) :
    address = trim (Attribute.valueOf attributes "href") := by
  unfold form at linked
  simp only at linked
  iterate 4
    split at linked
    · cases linked
  exact (Form.linked.inj linked).symm

private theorem Link.texts_of_card {stripSearch : Bool} {title address : Text}
    (card : form stripSearch attributes = .card title address) :
    title = trim (Attribute.valueOf attributes "title") ∧
      address = trim (Attribute.valueOf attributes "href") := by
  unfold form at card
  simp only at card
  split at card
  · cases card
  split at card
  · cases card
    exact ⟨rfl, rfl⟩
  split at card
  · cases card
  split at card <;> cases card

/-- A rule that shows something of its own in place of the children. -/
theorem Node.revealed_of_fragment {f : Fragment} {node : Node}
    (drafted : draftNode s centered node = .of f) (none : node.converted s = [])
    (silent : node.showsMarkup s = false) (quiet : f.Quiet) : Revealed s centered node := by
  rw [Revealed, drafted]
  exact .quiet none silent quiet

variable (unmentioned : Unmentioned markText [.element space name attributes children])
  (below : ∀ centers,
    (draftNodes s centers children).Reveals s (Reached s centers children) children)
include unmentioned below

private theorem Paragraph.revealed (rule : Rule.ofName name = .paragraph) :
    Revealed s centered (.element space name attributes children) := by
  have silent : (Node.element space name attributes children).showsMarkup s = false := by
    simp only [showsMarkup, rule]
  have inside : Unmentioned markText children := unmentioned.children
  rw [Revealed, draftNode.eq_def]
  simp only [rule]
  cases form : Paragraph.form s attributes children with
  | centering =>
      refine .onward ?_ silent
      simp only [centers, converted, rule, form, beq_self_eq_true, Bool.or_true]
      exact (below true).blocked inside
  | contents => exact .quiet (by simp only [converted, rule, form]) silent quiet_contents
  | dropped => exact .quiet (by simp only [converted, rule, form]) silent .empty
  | aligned side =>
      exact .quiet (by simp only [converted, rule, form]) silent
        (quiet_aligned form inside centered)
  | plain =>
      have other : (Form.plain == .centering) = false := rfl
      refine .onward ?_ silent
      simp only [centers, converted, rule, form, other, Bool.or_false]
      exact (below centered).blocked inside

private theorem Link.revealed (rule : Rule.ofName name = .link) :
    Revealed s centered (.element space name attributes children) := by
  have silent : (Node.element space name attributes children).showsMarkup s = false := by
    simp only [showsMarkup, rule]
  have inside : Unmentioned markText children := unmentioned.children
  have value : ∀ key, ¬markText <:+: trim (Attribute.valueOf attributes key) :=
    fun key => not_infix_trim (unmentioned.valueOf solid_markText.filled key)
  rw [Revealed, draftNode.eq_def]
  simp only [rule]
  cases form : Link.form s.stripSearchLinks attributes with
  | dropped => exact .quiet (by simp only [converted, rule, form]) silent .empty
  | card title address =>
      obtain ⟨rfl, rfl⟩ := texts_of_card form
      exact .quiet (by simp only [converted, rule, form]) silent
        (.inlineText (severs_ofText (value _) (value _)).clear)
  | stripped =>
      refine .onward ?_ silent
      simp only [centers, converted, rule, form]
      exact (below centered).wrap inside (fun held => held.stripped solid_markText) quiet_stripped
  | unlinked =>
      refine .onward ?_ silent
      simp only [centers, converted, rule, form]
      exact (below centered).wrap inside (fun held => held.unlinked solid_markText) quiet_unlinked
  | linked address =>
      obtain rfl := address_of_form form
      refine .onward ?_ silent
      simp only [centers, converted, rule, form]
      exact (below centered).wrap inside (fun held => held.around solid_markText _)
        fun clear => quiet_around clear (value _)

private theorem Formula.revealed (rule : Rule.ofName name = .span) :
    Revealed s centered (.element space name attributes children) := by
  have silent : (Node.element space name attributes children).showsMarkup s = false := by
    simp only [showsMarkup, rule]
  rw [Revealed, draftNode.eq_def]
  simp only [rule]
  cases formula : fragment? attributes children with
  | some f =>
      exact .quiet (by simp only [converted, rule, formula]) silent
        (quiet_fragment unmentioned.children formula)
  | none =>
      simp only
      cases colored : (if s.keepColors = true then Color.span? attributes children else none) with
      | some f =>
          refine .quiet (by simp only [converted, rule, formula, colored]) silent ?_
          split at colored
          · exact Color.quiet_span unmentioned colored
          · cases colored
      | none =>
          refine .onward ?_ silent
          simp only [centers, converted, rule, formula, colored]
          exact (below centered).mono (by rw [texts_element])

private theorem Color.revealed (rule : Rule.ofName name = .font) :
    Revealed s centered (.element space name attributes children) := by
  have silent : (Node.element space name attributes children).showsMarkup s = false := by
    simp only [showsMarkup, rule]
  rw [Revealed, draftNode.eq_def]
  simp only [rule]
  cases colored : (if s.keepColors = true then font? attributes children else none) with
  | some f =>
      refine .quiet (by simp only [converted, rule, colored]) silent ?_
      split at colored
      · exact quiet_font unmentioned colored
      · cases colored
  | none =>
      refine .onward ?_ silent
      simp only [centers, converted, rule, colored]
      exact (below centered).mono (by rw [texts_element])

private theorem Note.revealed (rule : Rule.ofName name = .superscript) :
    Revealed s centered (.element space name attributes children) := by
  have silent : (Node.element space name attributes children).showsMarkup s = false := by
    simp only [showsMarkup, rule]
  rw [Revealed, draftNode.eq_def]
  simp only [rule]
  cases reference : reference? attributes children with
  | some f =>
      exact .quiet (by simp only [converted, rule, reference]) silent (quiet_reference reference)
  | none =>
      refine .onward ?_ silent
      simp only [centers, converted, rule, reference]
      exact (below centered).wrap unmentioned.children (fun held => held.script solid_markText _)
        fun clear => Script.quiet_wrap clear (by decide) (by decide)

private theorem Centered.revealed (rule : Rule.ofName name = .center) :
    Revealed s centered (.element space name attributes children) := by
  have silent : (Node.element space name attributes children).showsMarkup s = false := by
    simp only [showsMarkup, rule]
  have inside : Unmentioned markText children := unmentioned.children
  rw [Revealed, draftNode.eq_def]
  simp only [rule]
  cases lone : loneText? children with
  | some t => exact .quiet (by simp only [converted, rule, lone]) silent (quiet_text inside lone)
  | none =>
      refine .onward ?_ silent
      simp only [centers, converted, rule, lone]
      exact (below true).blocked inside

private theorem Note.revealed_container (rule : Rule.ofName name = .container) :
    Revealed s centered (.element space name attributes children) := by
  have silent : (Node.element space name attributes children).showsMarkup s = false := by
    simp only [showsMarkup, rule]
  rw [Revealed, draftNode.eq_def]
  simp only [rule]
  split
  · next notes =>
    exact .quiet (by simp only [converted, rule, if_pos notes]) silent
      (quiet_definitions unmentioned.children)
  · next other =>
    refine .onward ?_ silent
    simp only [centers, converted, rule, if_neg other]
    exact (below centered).closed.mono (by rw [texts_element])

private theorem Emphasis.revealed {kind : Emphasis} (rule : Rule.ofName name = .emphasis kind) :
    Revealed s centered (.element space name attributes children) := by
  rw [Revealed, draftNode.eq_def]
  simp only [rule]
  refine .onward ?_ (by simp only [showsMarkup, rule])
  simp only [centers, converted, rule]
  exact (below centered).wrap unmentioned.children
    (fun held => (held.trim solid_markText).wrap solid_markText _)
    fun clear => quiet_wrap (mt Fragment.Mentions.of_trim clear) kind

private theorem Quotation.revealed (rule : Rule.ofName name = .quotation) :
    Revealed s centered (.element space name attributes children) := by
  rw [Revealed, draftNode.eq_def]
  simp only [rule]
  refine .onward ?_ (by simp only [showsMarkup, rule])
  simp only [centers, converted, rule]
  exact (below centered).wrap unmentioned.children (fun held => held.quotation solid_markText)
    quiet_fragment

private theorem Script.revealed (rule : Rule.ofName name = .subscript) :
    Revealed s centered (.element space name attributes children) := by
  rw [Revealed, draftNode.eq_def]
  simp only [rule]
  refine .onward ?_ (by simp only [showsMarkup, rule])
  simp only [centers, converted, rule]
  exact (below centered).wrap unmentioned.children (fun held => held.script solid_markText _)
    fun clear => quiet_wrap clear (by decide) (by decide)

omit unmentioned in
private theorem Rule.revealed_transparent (rule : Rule.ofName name = .transparent) :
    Revealed s centered (.element space name attributes children) := by
  rw [Revealed, draftNode.eq_def]
  simp only [rule]
  refine .onward ?_ (by simp only [showsMarkup, rule])
  simp only [centers, converted, rule]
  exact (below centered).closed.mono (by rw [texts_element])

omit below in
private theorem Heading.revealed {level : Nat} (rule : Rule.ofName name = .heading level)
    (content : (draftHeading s centered children).Reveals s
      (Reached s centered (children.filter fun node => !isEmptyLink node)) children) :
    Revealed s centered (.element space name attributes children) := by
  rw [Revealed, draftNode.eq_def]
  simp only [rule]
  refine .onward ?_ (by simp only [showsMarkup, rule])
  simp only [centers, converted, rule]
  exact content.wrap unmentioned.children (fun held => held.heading solid_markText _)
    fun clear => quiet_fragment clear _

omit unmentioned below in
private theorem ListKind.revealed {kind : ListKind} (rule : Rule.ofName name = .list kind)
    (items : (draftItems s.descend centered kind (kind.start attributes) children).RevealsItems
      s.descend (Reached s.descend centered (converted children))) :
    Revealed s centered (.element space name attributes children) := by
  rw [Revealed, draftNode.eq_def]
  simp only [rule]
  refine .onward ?_ (by simp only [showsMarkup, rule])
  simp only [centers, Node.converted, rule]
  refine items.of_descend.map (fun held => held.append_right _) fun severs => ?_
  rw [Fragment.spread_append]
  exact .of_severs severs _

omit unmentioned in
private theorem Table.revealed (rule : Rule.ofName name = .table)
    (rows : (draftRows s centered false children).RevealsRows s
      (Reached s centered (rowsConverted false children))) :
    Revealed s centered (.element space name attributes children) := by
  have silent : (Node.element space name attributes children).showsMarkup s = false := by
    simp only [showsMarkup, rule]
  rw [Revealed, draftNode.eq_def]
  simp only [rule]
  split
  · next filled =>
    refine .onward ?_ silent
    simp only [centers, converted, rule, if_pos filled]
    exact rows.map mentions_fragment? fun clear => (quiet_fragment? clear).covered _
  · next empty =>
    refine .onward ?_ silent
    simp only [centers, converted, rule, if_neg empty]
    exact (below centered).closed.mono (by rw [texts_element])

end Rules

mutual

/-- The draft of a node that does not mention the mark shows it exactly if it is leaked. -/
theorem draftNode_reveals (s : Settings) (centered : Bool) :
    ∀ node, Unmentioned markText [node] → Revealed s centered node
  | .text content, _ => by
      rw [Revealed, draftNode.eq_def]
      refine .onward (.of ?_ reached_nil.elim) rfl
      rw [texts_text]
      exact (Covered.self markText_lasting content).respaced solid_markText
        (Plain.respaced_fragment content)
  | .comment _, _ | .doctype _, _ | .instruction _ _, _ => by
      rw [Revealed, draftNode.eq_def]
      exact .quiet rfl rfl .empty
  | .document children, unmentioned => by
      rw [Revealed, draftNode.eq_def]
      have below := draftNodes_reveals s centered children unmentioned.children
      exact .onward (below.mono (by rw [texts_document])) rfl
  | .element space name attributes children, unmentioned => by
      have inside : Unmentioned markText children := unmentioned.children
      have below := fun centers => draftNodes_reveals s centers children inside
      -- One case per rule: the last ones show something of their own.
      cases rule : Rule.ofName name with
      | paragraph => exact Paragraph.revealed unmentioned below rule
      | link => exact Link.revealed unmentioned below rule
      | span => exact Formula.revealed unmentioned below rule
      | font => exact Color.revealed unmentioned below rule
      | superscript => exact Note.revealed unmentioned below rule
      | center => exact Centered.revealed unmentioned below rule
      | container => exact Note.revealed_container unmentioned below rule
      | table =>
          exact Table.revealed below rule
            (draftRows_reveals s centered false children inside)
      | image =>
          rw [Revealed, draftNode.eq_def]
          simp only [rule]
          exact Image.draft_reveals rule unmentioned
      | drawing =>
          rw [Revealed, draftNode.eq_def]
          simp only [rule]
          exact Drawing.draft_reveals rule unmentioned
      | raw placement =>
          rw [Revealed, draftNode.eq_def]
          simp only [rule]
          exact Raw.draft_reveals rule unmentioned
      | list kind =>
          exact ListKind.revealed rule
            (draftItems_reveals s.descend centered kind (kind.start attributes) children inside)
      | heading level =>
          exact Heading.revealed unmentioned rule (draftHeading_reveals s centered children inside)
      | emphasis kind => exact Emphasis.revealed unmentioned below rule
      | quotation => exact Quotation.revealed unmentioned below rule
      | subscript => exact Script.revealed unmentioned below rule
      | transparent => exact Rule.revealed_transparent below rule
      | codeBlock =>
          exact revealed_of_fragment (by simp only [draftNode, rule])
            (by simp only [converted, rule]) (by simp only [showsMarkup, rule])
            (Code.quiet_block inside)
      | inlineCode =>
          exact revealed_of_fragment (by simp only [draftNode, rule])
            (by simp only [converted, rule]) (by simp only [showsMarkup, rule])
            (Code.quiet_inline inside)
      | checkbox =>
          exact revealed_of_fragment (by simp only [draftNode, rule])
            (by simp only [converted, rule]) (by simp only [showsMarkup, rule])
            (Checkbox.quiet_fragment attributes)
      | thematicBreak =>
          have dashes : (Fragment.blockText "---".toList).Quiet := .blockText (by decide)
          exact revealed_of_fragment (by simp only [draftNode, rule])
            (by simp only [converted, rule]) (by simp only [showsMarkup, rule]) dashes
      | discard =>
          exact revealed_of_fragment (by simp only [draftNode, rule])
            (by simp only [converted, rule]) (by simp only [showsMarkup, rule]) .empty

private theorem draftNodes_reveals (s : Settings) (centered : Bool) :
    ∀ nodes, Unmentioned markText nodes →
      (draftNodes s centered nodes).Reveals s (Reached s centered nodes) nodes
  | [], _ => by
      rw [draftNodes.eq_def]
      exact .of (.nil _ _) reached_nil.elim
  | node :: rest, unmentioned => by
      rw [draftNodes.eq_def, Draft.Reveals, texts_cons]
      exact (draftNode_reveals s centered node unmentioned.head).append
        (draftNodes_reveals s centered rest unmentioned.tail) reached_cons

/-- So does the draft of the content of a heading. -/
theorem draftHeading_reveals (s : Settings) (centered : Bool) :
    ∀ nodes, Unmentioned markText nodes →
      (draftHeading s centered nodes).Reveals s
        (Reached s centered (nodes.filter fun node => !Heading.isEmptyLink node)) nodes
  | [], _ => by
      rw [draftHeading.eq_def]
      exact .of (.nil _ _) reached_nil.elim
  | node :: rest, unmentioned => by
      have later := draftHeading_reveals s centered rest unmentioned.tail
      rw [draftHeading.eq_def]
      simp only
      cases empty : Heading.isEmptyLink node with
      | true =>
        rw [List.filter_cons_of_neg (by simp [empty]), if_pos rfl]
        refine later.mono ?_
        rw [texts_cons]
        exact List.sublist_append_right _ _
      | false =>
        rw [List.filter_cons_of_pos (by simp [empty]), if_neg Bool.false_ne_true, Draft.Reveals,
          texts_cons]
        exact (draftNode_reveals s centered node unmentioned.head).append later reached_cons

/-- So does the draft of the children of an element. -/
theorem draftContent_reveals (s : Settings) (centered : Bool) :
    ∀ node, Unmentioned markText [node] →
      (draftContent s centered node).Reveals s (Reached s centered node.children) node.children
  | .element _ _ _ children, unmentioned => by
      rw [draftContent.eq_def]
      exact draftNodes_reveals s centered children unmentioned.children
  | .document children, unmentioned => by
      rw [draftContent.eq_def]
      exact draftNodes_reveals s centered children unmentioned.children
  | .text _, _ | .comment _, _ | .doctype _, _ | .instruction _ _, _ => by
      rw [draftContent.eq_def]
      exact .of (.nil _ _) reached_nil.elim

/-- So do the drafts of the items of a list. -/
theorem draftItems_reveals (s : Settings) (centered : Bool) (kind : ListKind) (number : Nat) :
    ∀ nodes, Unmentioned markText nodes →
      (draftItems s centered kind number nodes).RevealsItems s
        (Reached s centered (ListKind.converted nodes))
  | [], _ => by
      rw [draftItems.eq_def]
      exact .of (by decide) reached_nil.elim
  | node :: rest, unmentioned => by
      have later := fun number => draftItems_reveals s centered kind number rest unmentioned.tail
      rw [draftItems.eq_def, ListKind.converted, List.flatMap_cons]
      simp only
      split
      · have content := draftContent_reveals s centered node unmentioned.head
        exact content.item unmentioned.head.children (later _) reached_append
          (fun held => held.item solid_markText kind number)
          fun clear => ListKind.not_mentions_item clear kind number
      · split
        · have content := draftNode_reveals s centered node unmentioned.head
          exact content.item unmentioned.head (later number) reached_append
            (fun held => held.nested solid_markText kind)
            fun clear => ListKind.not_mentions_nested clear kind
        · exact later number

/-- So do the drafts of the rows of a table. -/
theorem draftRows_reveals (s : Settings) (centered grouped : Bool) :
    ∀ nodes, Unmentioned markText nodes →
      (draftRows s centered grouped nodes).RevealsRows s
        (Reached s centered (Table.rowsConverted grouped nodes))
  | [], _ => by
      rw [draftRows.eq_def]
      exact .of (by rintro ⟨row, member, -⟩; cases member) reached_nil.elim
  | .element _ name _ children :: rest, unmentioned => by
      have later := draftRows_reveals s centered grouped rest unmentioned.tail
      have inside : Unmentioned markText children := unmentioned.head.children
      rw [draftRows.eq_def, Table.rowsConverted_element]
      simp only
      split
      · exact (draftCells_reveals s centered children inside).cons later reached_append
      · split
        · exact (draftRows_reveals s centered true children inside).combine later reached_append
            (fun ⟨row, member, held⟩ => ⟨row, List.mem_append_left _ member, held⟩)
            (fun ⟨row, member, held⟩ => ⟨row, List.mem_append_right _ member, held⟩)
            Table.not_holds_append
        · exact later
  | .text _ :: rest, unmentioned | .comment _ :: rest, unmentioned
  | .doctype _ :: rest, unmentioned | .instruction _ _ :: rest, unmentioned
  | .document _ :: rest, unmentioned => by
      rw [draftRows.eq_def]
      exact draftRows_reveals s centered grouped rest unmentioned.tail

/-- So do the drafts of the cells of a row. -/
theorem draftCells_reveals (s : Settings) (centered : Bool) :
    ∀ nodes, Unmentioned markText nodes →
      (draftCells s centered nodes).Tracks s (Reached s centered (Table.cellsConverted nodes))
        (fun row => row.Holds markText) fun row => ¬row.Holds markText
  | [], _ => by
      rw [draftCells.eq_def]
      exact .of (by rintro ⟨cell, member, -⟩; cases member) reached_nil.elim
  | node :: rest, unmentioned => by
      have later := draftCells_reveals s centered rest unmentioned.tail
      have content := draftContent_reveals s centered node unmentioned.head
      have inside : Unmentioned markText node.children := unmentioned.head.children
      rw [draftCells.eq_def, Table.cellsConverted, List.flatMap_cons]
      simp only
      split
      · have cells : ((draftContent s centered node).map fun content =>
            Table.Cell.mk (Table.cellText content) node.attributes).Tracks s
              (Reached s centered node.children)
            (fun cell => markText <:+: cell.text) fun cell => ¬markText <:+: cell.text :=
          content.map (Table.infix_cellText plainPath_markText) fun covered =>
            Table.not_infix_cellText (covered.absent inside.unspelled)
        exact cells.cons later reached_append
      · exact later

end

/-- Whatever document is drafted that does not mention the mark: its Markdown shows the mark exactly
if a node that is reached leaks it or a path holds it, and only nodes that are reached ask for
files. -/
theorem draftDocument_reveals (s : Settings) {children : List Node}
    (unmentioned : Unmentioned markText children) :
    (draftDocument s children).Tracks s (Reached s false children) (markText <:+: ·)
      (¬markText <:+: ·) := by
  refine (draftNodes_reveals s false children unmentioned).map
    (fun held => held.documentText solid_markText) ?_
  intro content covered held
  obtain ⟨ending, blank, split⟩ := content.documentText_split
  rw [split] at held
  have final := solid_markText.infix_of_append_blank blank held
  have mentioned := Fragment.Mentions.of_finalText unclosed_markText final
  exact covered.absent unmentioned.unspelled mentioned

end ArticleMarkdown
