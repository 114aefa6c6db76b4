import ArticleMarkdown.Proofs.Markdown.Anchored
import ArticleMarkdown.Proofs.Markdown.Ink

/-!
# Where the line breaks of a document come from

Most elements do no more with their content than put it between texts on one line. What the others
write stands in the content of the elements around them as it is, and is a piece of the document
(`draftPieces`). The line breaks and blank lines of converted nodes are those of these pieces
(`draftNodes_madeOf`): neither text nor the structure of paragraphs adds any.
-/

namespace ArticleMarkdown

open Text

/-- Two drafts with the same requests, and with related results for the same paths. -/
structure Draft.Related {α β : Type} (relation : α → β → Prop) (first : Draft α)
    (second : Draft β) : Prop where
  requests : first.requests = second.requests
  fill : ∀ paths, relation (first.fill paths) (second.fill paths)

namespace Draft.Related

variable {α α' α'' β β' β'' : Type} {relation : α → β → Prop} {relation' : α' → β' → Prop}
  {relation'' : α'' → β'' → Prop} {first : Draft α} {second : Draft β}

private theorem of {a : α} {b : β} (related : relation a b) :
    (Draft.of a).Related relation (Draft.of b) :=
  ⟨rfl, fun _ => related⟩

private theorem map (related : first.Related relation second) {f : α → α'} {changed : α' → β → Prop}
    (keeps : ∀ a b, relation a b → changed (f a) b) : (first.map f).Related changed second :=
  ⟨related.requests, fun paths => keeps _ _ (related.fill paths)⟩

private theorem combine (related : first.Related relation second) {more : Draft α'}
    {others : Draft β'}
    (related' : more.Related relation' others) {f : α → α' → α''} {g : β → β' → β''}
    (keeps : ∀ a b a' b', relation a b → relation' a' b' → relation'' (f a a') (g b b')) :
    (Draft.combine f first more).Related relation'' (Draft.combine g second others) where
  requests := by
    show first.requests ++ more.requests = second.requests ++ others.requests
    rw [related.requests, related'.requests]
  fill paths := by
    have same : first.requests.length = second.requests.length := by rw [related.requests]
    simp only [Draft.combine, same]
    exact keeps _ _ _ _ (related.fill _) (related'.fill _)

end Draft.Related

namespace Fragment

variable {f inner whole : Fragment}

private theorem rewrapped_unlessBlank {empty : Fragment} (framed : Frames f.spread inner.spread)
    (single : hasLineBreak empty.spread = false) (around : Rewrapped f.spread whole.spread) :
    Rewrapped f.spread (if inner.isBlank then empty else whole).spread := by
  split
  · next blank =>
    refine .nothing ?_ single
    rw [isBlank_iff, ink, ← framed.ink_eq, ink_eq_nil] at blank
    exact blank
  · exact around

private theorem rewrapped_append {before after : Fragment}
    (framed : Frames f.spread inner.spread) (single : hasLineBreak before.spread = false)
    (single' : hasLineBreak after.spread = false) :
    Rewrapped f.spread (before ++ inner ++ after).spread := by
  refine .around before.spread inner.spread after.spread framed single single' ?_
  rw [spread_append, spread_append]

private theorem rewrapped_self (f : Fragment) : Rewrapped f.spread f.spread :=
  .around [] f.spread [] ⟨[], [], rfl, rfl, by simp⟩ rfl rfl (by simp)

private theorem rewrapped_closed (f : Fragment) : Rewrapped f.spread f.closed.spread := by
  refine .around [] f.spread [' '] ⟨[], [], rfl, rfl, by simp⟩ rfl rfl ?_
  rw [closed, spread_append]
  rfl

private theorem rewrapped_blocked (f : Fragment) : Rewrapped f.spread f.blocked.spread :=
  rewrapped_append ⟨[], [], rfl, rfl, by simp⟩ rfl rfl

end Fragment

open Fragment

private theorem Emphasis.rewrapped_wrap (kind : Emphasis) (f : Fragment) :
    Rewrapped f.spread (kind.wrap f.trim).spread := by
  have framed := f.frames_trim.trans (frames_core f.trim)
  rw [wrap_eq]
  refine rewrapped_unlessBlank framed rfl (.around (' ' :: kind.opening) (core f.trim).spread
    (kind.closing ++ [' ']) framed ?_ ?_ ?_)
  · cases kind <;> rfl
  · cases kind <;> rfl
  · simp

private theorem Script.rewrapped_wrap (tag : String) (single : hasLineBreak tag.toList = false)
    (f : Fragment) : Rewrapped f.spread (wrap tag f).spread := by
  refine rewrapped_unlessBlank f.frames_trim rfl (rewrapped_append f.frames_trim ?_ ?_)
  · rw [spread_ofText, Markup.startTag, List.flatMap_nil, List.append_nil, hasLineBreak_append]
    exact (Bool.or_false _).trans single
  · rw [spread_ofText, Markup.endTag, hasLineBreak_append]
    exact (Bool.or_false _).trans single

namespace Link

/-- Flattening a label only moves its whitespace. -/
theorem frames_label (f : Fragment) : Frames f.spread (label f).spread := by
  rw [← spread_flattened f]
  exact f.flattened.frames_trim

private theorem rewrapped_stripped (f : Fragment) : Rewrapped f.spread (stripped f).spread :=
  rewrapped_append (frames_label f) rfl rfl

private theorem rewrapped_unlinked (f : Fragment) : Rewrapped f.spread (unlinked f).spread :=
  rewrapped_unlessBlank (frames_label f) rfl (rewrapped_stripped f)

/-- Escaping a label keeps its line breaks. -/
theorem hasLineBreak_escapeLabel (t : Text) : hasLineBreak (escapeLabel t) = hasLineBreak t := by
  refine hasLineBreak_flatMap (fun c => ?_) t
  split
  · next bracket =>
    rw [Bool.or_eq_true, beq_iff_eq, beq_iff_eq] at bracket
    rcases bracket with rfl | rfl <;> rfl
  · exact Bool.or_false _

private theorem hasLineBreak_destination (address : Text) :
    hasLineBreak (destination address) = hasLineBreak address := by
  rw [destination]
  split
  · rw [← List.singleton_append, hasLineBreak_append, hasLineBreak_append]
    refine (Bool.or_false _).trans (hasLineBreak_flatMap (fun c => ?_) address)
    split
    · next opens =>
      rw [beq_iff_eq.mp opens]
      rfl
    · split
      · next closes =>
        rw [beq_iff_eq.mp closes]
        rfl
      · exact Bool.or_false _
  · rfl

private theorem hasLineBreak_ending (address : Text) :
    hasLineBreak (ending address) = hasLineBreak address := by
  rw [ending, hasLineBreak_append, ← hasLineBreak_destination address]
  exact Bool.or_false _

private theorem hasLineBreak_ofText (label address : Text) :
    hasLineBreak (ofText label address) = (hasLineBreak label || hasLineBreak address) := by
  rw [ofText, hasLineBreak_append, hasLineBreak_ending, ← hasLineBreak_escapeLabel label]
  rfl

private theorem rewrapped_around {address : Text} (single : hasLineBreak address = false)
    (f : Fragment) :
    Rewrapped f.spread (around address f).spread := by
  refine rewrapped_unlessBlank (frames_label f) ?_ ?_
  · rw [inlineText, inlined, spread_append, spread_append, spread_ofText, hasLineBreak_append,
      hasLineBreak_append, hasLineBreak_ofText, single]
    rfl
  · refine .around [' ', '['] (label f).spread (ending address ++ [' ']) (frames_label f) rfl ?_ ?_
    · rw [hasLineBreak_append, hasLineBreak_ending, single]
      rfl
    · simp [inlined]

end Link

section Unwrapped

variable {s : Settings} {centered : Bool}

private theorem Image.anchored_draft (attributes : List Attribute) (paths : List Text) :
    ((draft s centered attributes).fill paths).spread.Anchored := by
  unfold draft
  dsimp only
  split
  · rw [Draft.of]
    dsimp only
    split
    · exact anchored_empty
    · exact anchored_displayFormula _
  · split
    · exact anchored_empty
    · exact anchored_placed _ (firm_markdown _ _ _ _)

private theorem Drawing.anchored_draft (space : ElementSpace) (name : String)
    (attributes : List Attribute)
    (children : List Node) (paths : List Text) :
    ((draft s space name attributes children).fill paths).spread.Anchored := by
  unfold draft
  dsimp only
  split
  · exact anchored_empty
  · split
    · exact anchored_fileReference _
    · split
      · exact anchored_embedded _
      · exact anchored_inPlace _

private theorem anchored_draftItems (kind : ListKind) (number : Nat) (children : List Node)
    (paths : List Text) :
    ((draftItems s centered kind number children).fill paths).spread.Anchored := by
  have closes : ∀ {f : Fragment}, f.spread.Anchored → f.closed.spread.Anchored := fun anchored =>
    (rewrapped_closed _).anchored anchored
  induction children generalizing number paths with
  | nil =>
      rw [draftItems]
      exact anchored_empty
  | cons node rest ih =>
      rw [draftItems]
      split
      · rw [Draft.append, Draft.combine]
        dsimp only
        rw [spread_append]
        exact (closes (kind.anchored_item _ _)).append (ih _ _)
      · split
        · rw [Draft.append, Draft.combine]
          dsimp only
          rw [spread_append]
          exact (closes (kind.anchored_nested _)).append (ih _ _)
        · exact ih _ _

end Unwrapped

mutual

/-- The pieces of a node: what is written by the elements that do more than put their content
between texts on one line. -/
def draftPieces (s : Settings) (centered : Bool) : Node → Draft (List Fragment)
  | .element space name attributes children =>
    let own := (draftNode s centered (.element space name attributes children)).map ([·])
    match Rule.ofName name with
    | .paragraph =>
      match Paragraph.form s attributes children with
      | .centering => draftAllPieces s true children
      | .plain => draftAllPieces s centered children
      | .contents | .dropped | .aligned _ => own
    | .emphasis _ | .subscript | .transparent => draftAllPieces s centered children
    | .link =>
      match Link.form s.stripSearchLinks attributes with
      | .stripped | .unlinked => draftAllPieces s centered children
      | .linked address =>
        if hasLineBreak address then own else draftAllPieces s centered children
      | .dropped | .card _ _ => own
    | .table => if Table.hasRows children then own else draftAllPieces s centered children
    | .span =>
      match Formula.fragment? attributes children with
      | some _ => own
      | none =>
        match (if s.keepColors then Color.span? attributes children else none) with
        | some _ => own
        | none => draftAllPieces s centered children
    | .font =>
      match (if s.keepColors then Color.font? attributes children else none) with
      | some _ => own
      | none => draftAllPieces s centered children
    | .superscript =>
      match Note.reference? attributes children with
      | some _ => own
      | none => draftAllPieces s centered children
    | .center =>
      match Centered.loneText? children with
      | some _ => own
      | none => draftAllPieces s true children
    | .container =>
      if Attribute.hasClass attributes Note.sectionClass then own
      else draftAllPieces s centered children
    | .heading _ | .image | .list _ | .quotation | .codeBlock | .inlineCode | .checkbox | .drawing
    | .thematicBreak | .raw _ | .discard => own
  | .document children => draftAllPieces s centered children
  | .text _ | .comment _ | .doctype _ | .instruction _ _ => .of []

/-- The pieces of nodes one after another. -/
def draftAllPieces (s : Settings) (centered : Bool) : List Node → Draft (List Fragment)
  | [] => .of []
  | node :: rest =>
    .combine (· ++ ·) (draftPieces s centered node) (draftAllPieces s centered rest)

end

section Element

attribute [local simp] draftPieces draftNode

variable {s : Settings} {centered : Bool} {space : ElementSpace} {name : String}
  {attributes : List Attribute} {children : List Node}

/-- What an element writes itself is one piece. -/
theorem own_madeOf
    (own : draftPieces s centered (.element space name attributes children) =
      (draftNode s centered (.element space name attributes children)).map ([·]))
    (anchored : ∀ paths, ((draftNode s centered (.element space name attributes children)).fill
      paths).spread.Anchored) :
    (draftNode s centered (.element space name attributes children)).Related MadeOf
      (draftPieces s centered (.element space name attributes children)) := by
  rw [own]
  exact ⟨rfl, fun paths => .piece (anchored paths)⟩

variable (below : ∀ within, (draftNodes s within children).Related MadeOf
  (draftAllPieces s within children))

include below

/-- What an element puts around its content adds no piece. -/
theorem wrapped_madeOf {wrap : Fragment → Fragment} (within : Bool)
    (pieces : draftPieces s centered (.element space name attributes children) =
      draftAllPieces s within children)
    (drafted : draftNode s centered (.element space name attributes children) =
      (draftNodes s within children).map wrap)
    (rewrapped : ∀ f, Rewrapped f.spread (wrap f).spread) :
    (draftNode s centered (.element space name attributes children)).Related MadeOf
      (draftPieces s centered (.element space name attributes children)) := by
  rw [pieces, drafted]
  exact (below within).map fun f _ made => made.rewrapped (rewrapped f)

private theorem paragraph_madeOf (rule : Rule.ofName name = .paragraph) :
    (draftNode s centered (.element space name attributes children)).Related MadeOf
      (draftPieces s centered (.element space name attributes children)) := by
  cases form : Paragraph.form s attributes children with
  | centering =>
      exact wrapped_madeOf below true (by simp [rule, form])
        (by simp [rule, form]) rewrapped_blocked
  | plain =>
      exact wrapped_madeOf below centered (by simp [rule, form])
        (by simp [rule, form]) rewrapped_blocked
  | contents =>
      refine own_madeOf (by simp [rule, form]) fun _ => ?_
      simp only [draftNode, rule, form]
      exact Paragraph.anchored_contents
  | dropped =>
      refine own_madeOf (by simp [rule, form]) fun _ => ?_
      simp only [draftNode, rule, form]
      exact anchored_empty
  | aligned side =>
      refine own_madeOf (by simp [rule, form]) fun _ => ?_
      simp only [draftNode, rule, form]
      exact Paragraph.anchored_aligned _ _

private theorem link_madeOf (rule : Rule.ofName name = .link) :
    (draftNode s centered (.element space name attributes children)).Related MadeOf
      (draftPieces s centered (.element space name attributes children)) := by
  cases form : Link.form s.stripSearchLinks attributes with
  | dropped =>
      refine own_madeOf (by simp [rule, form]) fun _ => ?_
      simp only [draftNode, rule, form]
      exact anchored_empty
  | card title address =>
      refine own_madeOf (by simp [rule, form]) fun _ => ?_
      simp only [draftNode, rule, form]
      exact anchored_inlineText (.of_firm (Link.firm_ofText title address))
  | stripped =>
      exact wrapped_madeOf below centered (by simp [rule, form])
        (by simp [rule, form]) Link.rewrapped_stripped
  | unlinked =>
      exact wrapped_madeOf below centered (by simp [rule, form])
        (by simp [rule, form]) Link.rewrapped_unlinked
  | linked address =>
      cases single : hasLineBreak address with
      | true =>
          refine own_madeOf (by simp [rule, form, single]) fun _ => ?_
          simp only [draftNode, rule, form]
          exact Link.anchored_around _ _
      | false =>
          exact wrapped_madeOf below centered
            (by simp [rule, form, single])
            (by simp [rule, form]) (Link.rewrapped_around single)

private theorem table_madeOf (rule : Rule.ofName name = .table) :
    (draftNode s centered (.element space name attributes children)).Related MadeOf
      (draftPieces s centered (.element space name attributes children)) := by
  cases rows : Table.hasRows children with
  | true =>
      refine own_madeOf (by simp [rule, rows]) fun _ => ?_
      simp only [draftNode, rule, rows, if_true]
      exact Table.anchored_fragment? _
  | false =>
      exact wrapped_madeOf below centered
        (by simp [rule, rows])
        (by simp [rule, rows]) rewrapped_closed

private theorem span_madeOf (rule : Rule.ofName name = .span) :
    (draftNode s centered (.element space name attributes children)).Related MadeOf
      (draftPieces s centered (.element space name attributes children)) := by
  cases formula : Formula.fragment? attributes children with
  | some shown =>
      refine own_madeOf (by simp [rule, formula]) fun _ => ?_
      simp only [draftNode, rule, formula]
      exact Formula.anchored_fragment? formula
  | none =>
      cases colored : (if s.keepColors then Color.span? attributes children else none) with
      | some shown =>
          refine own_madeOf (by simp [rule, formula, colored]) fun _ => ?_
          simp only [draftNode, rule, formula, colored]
          exact Color.anchored_of_span? (Option.ite_none_right_eq_some.mp colored).2
      | none =>
          exact wrapped_madeOf below centered (by simp [rule, formula, colored])
            (by simp only [draftNode, rule, formula, colored]; rfl) rewrapped_self

private theorem font_madeOf (rule : Rule.ofName name = .font) :
    (draftNode s centered (.element space name attributes children)).Related MadeOf
      (draftPieces s centered (.element space name attributes children)) := by
  cases colored : (if s.keepColors then Color.font? attributes children else none) with
  | some shown =>
      refine own_madeOf (by simp [rule, colored]) fun _ => ?_
      simp only [draftNode, rule, colored]
      exact Color.anchored_of_font? (Option.ite_none_right_eq_some.mp colored).2
  | none =>
      exact wrapped_madeOf below centered (by simp [rule, colored])
        (by simp only [draftNode, rule, colored]; rfl) rewrapped_self

private theorem superscript_madeOf (rule : Rule.ofName name = .superscript) :
    (draftNode s centered (.element space name attributes children)).Related MadeOf
      (draftPieces s centered (.element space name attributes children)) := by
  cases reference : Note.reference? attributes children with
  | some shown =>
      refine own_madeOf (by simp [rule, reference]) fun _ => ?_
      simp only [draftNode, rule, reference]
      exact Note.anchored_of_reference? reference
  | none =>
      exact wrapped_madeOf below centered (by simp [rule, reference])
        (by simp [rule, reference]) (Script.rewrapped_wrap "sup" rfl)

private theorem center_madeOf (rule : Rule.ofName name = .center) :
    (draftNode s centered (.element space name attributes children)).Related MadeOf
      (draftPieces s centered (.element space name attributes children)) := by
  cases lone : Centered.loneText? children with
  | some shown =>
      refine own_madeOf (by simp [rule, lone]) fun _ => ?_
      simp only [draftNode, rule, lone]
      exact Centered.anchored_text _
  | none =>
      exact wrapped_madeOf below true (by simp [rule, lone])
        (by simp [rule, lone]) rewrapped_blocked

private theorem container_madeOf (rule : Rule.ofName name = .container) :
    (draftNode s centered (.element space name attributes children)).Related MadeOf
      (draftPieces s centered (.element space name attributes children)) := by
  cases notes : Attribute.hasClass attributes Note.sectionClass with
  | true =>
      refine own_madeOf (by simp [rule, notes]) fun _ => ?_
      simp only [draftNode, rule, notes, if_true]
      exact Note.anchored_definitions _
  | false =>
      exact wrapped_madeOf below centered
        (by simp [rule, notes])
        (by simp [rule, notes]) rewrapped_closed

private theorem element_madeOf :
    (draftNode s centered (.element space name attributes children)).Related MadeOf
      (draftPieces s centered (.element space name attributes children)) := by
  cases rule : Rule.ofName name with
  | paragraph => exact paragraph_madeOf below rule
  | link => exact link_madeOf below rule
  | table => exact table_madeOf below rule
  | span => exact span_madeOf below rule
  | font => exact font_madeOf below rule
  | superscript => exact superscript_madeOf below rule
  | center => exact center_madeOf below rule
  | container => exact container_madeOf below rule
  | emphasis kind =>
      exact wrapped_madeOf below centered (by simp [rule])
        (by simp [rule]) kind.rewrapped_wrap
  | subscript =>
      exact wrapped_madeOf below centered (by simp [rule])
        (by simp [rule]) (Script.rewrapped_wrap "sub" rfl)
  | transparent =>
      exact wrapped_madeOf below centered (by simp [rule])
        (by simp [rule]) rewrapped_closed
  | heading level =>
      refine own_madeOf (by simp [rule]) fun _ => ?_
      simp only [draftNode, rule]
      exact Heading.anchored_fragment level _
  | image =>
      refine own_madeOf (by simp [rule]) fun _ => ?_
      simp only [draftNode, rule]
      exact Image.anchored_draft _ _
  | list kind =>
      refine own_madeOf (by simp [rule]) fun _ => ?_
      simp only [draftNode, rule, Draft.map, spread_append]
      exact (Anchored.of_single rfl).append (anchored_draftItems _ _ _ _)
  | quotation =>
      refine own_madeOf (by simp [rule]) fun _ => ?_
      simp only [draftNode, rule]
      exact Quotation.anchored_fragment _
  | codeBlock =>
      refine own_madeOf (by simp [rule]) fun _ => ?_
      simp only [draftNode, rule]
      exact Code.anchored_block _
  | inlineCode =>
      refine own_madeOf (by simp [rule]) fun _ => ?_
      simp only [draftNode, rule]
      exact Code.anchored_inline _
  | checkbox =>
      refine own_madeOf (by simp [rule]) fun _ => ?_
      simp only [draftNode, rule]
      exact Checkbox.anchored_fragment _
  | drawing =>
      refine own_madeOf (by simp [rule]) fun _ => ?_
      simp only [draftNode, rule]
      exact Drawing.anchored_draft _ _ _ _ _
  | thematicBreak =>
      refine own_madeOf (by simp [rule]) fun _ => ?_
      simp only [draftNode, rule]
      exact .of_single rfl
  | raw placement =>
      refine own_madeOf (by simp [rule]) fun _ => ?_
      simp only [draftNode, rule]
      exact Raw.anchored_fragment rule _ _ _ _
  | discard =>
      refine own_madeOf (by simp [rule]) fun _ => ?_
      simp only [draftNode, rule]
      exact anchored_empty

end Element

mutual

/-- The line breaks of what a node is converted to are those of its pieces. -/
theorem draftNode_madeOf (s : Settings) (centered : Bool) :
    ∀ node, (draftNode s centered node).Related MadeOf (draftPieces s centered node)
  | .element _ _ _ children => element_madeOf fun within => draftNodes_madeOf s within children
  | .document children => by
      rw [draftNode, draftPieces]
      exact draftNodes_madeOf s centered children
  | .text content => by
      rw [draftNode, draftPieces]
      exact .of (.of_single (Plain.hasLineBreak_fragment content))
  | .comment _ | .doctype _ | .instruction _ _ => by
      rw [draftNode, draftPieces]
      exact .of .empty

/-- The draft of nodes is made of their pieces. -/
theorem draftNodes_madeOf (s : Settings) (centered : Bool) :
    ∀ nodes, (draftNodes s centered nodes).Related MadeOf (draftAllPieces s centered nodes)
  | [] => by
      rw [draftNodes, draftAllPieces]
      exact .of .empty
  | node :: rest => by
      rw [draftNodes, draftAllPieces]
      exact (draftNode_madeOf s centered node).combine (draftNodes_madeOf s centered rest)
        fun _ _ _ _ made made' => made.append made'

end

end ArticleMarkdown
