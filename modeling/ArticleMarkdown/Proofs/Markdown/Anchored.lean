import ArticleMarkdown.Markdown.Convert
import ArticleMarkdown.Proofs.Fragment.Flat
import ArticleMarkdown.Proofs.Fragment.Mentions
import ArticleMarkdown.Proofs.Fragment.Settled
import ArticleMarkdown.Proofs.Markup.OneLine
import ArticleMarkdown.Proofs.Text.Anchored
import ArticleMarkdown.Proofs.Text.Numeral

/-!
# What rules write has its line breaks inside

A fragment is made of pieces if its line breaks and its blank lines are those of the pieces, which
all have them between characters that show (`Fragment.MadeOf`). Putting such a fragment between
texts without line breaks changes nothing about this. Where the lines of a resolved fragment get
marks, the result is one piece (`Fragment.anchored_markLines_resolve`).

Every rule that writes line breaks of its own puts them between characters that show: marked lines,
code between its fences, tables between their bars, formulas between their marks, notes, and markup
between its tags.
-/

namespace ArticleMarkdown.Fragment

open Text

variable {f g : Fragment} {pieces others : List Fragment}

/-- The line breaks of a fragment are those of its pieces, and lie between characters that show. -/
structure MadeOf (f : Fragment) (pieces : List Fragment) : Prop where
  anchored : f.spread.Anchored
  property_eq : ∀ {property : Text → Bool}, OfLines property →
    property f.spread = pieces.any fun piece => property piece.spread

namespace MadeOf

/-- A fragment without line breaks needs no pieces. -/
theorem of_single (single : hasLineBreak f.spread = false) : f.MadeOf [] where
  anchored := .of_single single
  property_eq lines := lines.single single

/-- The empty fragment is made of no pieces. -/
theorem empty : (∅ : Fragment).MadeOf [] :=
  .of_single rfl

/-- An anchored fragment is its own only piece. -/
theorem piece (anchored : f.spread.Anchored) : f.MadeOf [f] where
  anchored := anchored
  property_eq _ := by rw [List.any_cons, List.any_nil, Bool.or_false]

/-- Fragments one after another are made of the pieces of both. -/
theorem append (made : f.MadeOf pieces) (made' : g.MadeOf others) :
    (f ++ g).MadeOf (pieces ++ others) where
  anchored := by
    rw [spread_append]
    exact made.anchored.append made'.anchored
  property_eq lines := by
    rw [spread_append, lines.append made.anchored made'.anchored, made.property_eq lines,
      made'.property_eq lines, List.any_append]

/-- Rewrapping keeps the line breaks, and with them the pieces. -/
theorem rewrapped (made : f.MadeOf pieces) (rewrapped : Rewrapped f.spread g.spread) :
    g.MadeOf pieces where
  anchored := rewrapped.anchored made.anchored
  property_eq lines := by rw [lines.rewrapped made.anchored rewrapped, made.property_eq lines]

end MadeOf

section Marks

variable {mark : Nat → Text → Text}

private theorem remarked_marked {mark : Text} (single : hasLineBreak mark = false)
    (line : Fragment) :
    Remarked line.spread (marked mark line).spread := by
  rw [marked]
  split
  · exact ⟨[], [], line.spread, rfl, rfl, rfl, rfl⟩
  · refine ⟨mark, Token.allSpread (line.tokens.takeWhile (· == .inlineBreak)),
      Token.allSpread (line.tokens.dropWhile (· == .inlineBreak)), single, ?_, ?_, ?_⟩
    · rw [Token.isBlank_allSpread]
      exact Token.takeWhile_blank Token.isBlank_of_inline line.tokens
    · rw [← Token.allSpread_append, List.takeWhile_append_dropWhile, spread]
    · rw [spread_append, spread_ofText, spread]

variable (single : ∀ index line, hasLineBreak (mark index line) = false)
include single

private theorem remarked_markFollowing (index : Nat) (lines : List Fragment) :
    ∃ marked, List.Forall₂ Remarked (lines.map spread) marked ∧
      ∀ first : Text, first ++ (markFollowing mark index lines).spread =
        join ['\n'] (first :: marked) := by
  induction lines generalizing index with
  | nil => exact ⟨[], .nil, fun first => List.append_nil first⟩
  | cons line rest ih =>
      obtain ⟨below, remarked, joined⟩ := ih (index + 1)
      have here := remarked_marked (single index line.plainText) line
      refine ⟨_, .cons here remarked, fun first => ?_⟩
      rw [markFollowing, spread_append, spread_append, spread_ofText, List.append_assoc, joined,
        join_cons_of_ne_nil _ _ (List.cons_ne_nil _ _), List.append_assoc]

private theorem remarked_markLines (f : Fragment) :
    ∃ marked, List.Forall₂ Remarked (f.lines.map spread) marked ∧
      (f.markLines mark).spread = join ['\n'] marked := by
  unfold markLines
  split
  · next none => rw [none]; exact ⟨[], .nil, rfl⟩
  · next first rest found =>
    obtain ⟨below, remarked, joined⟩ := remarked_markFollowing single 1 rest
    rw [found]
    refine ⟨_, .cons (remarked_marked (single 0 first.plainText) first) remarked, ?_⟩
    rw [spread_append, joined]

/-- The marked lines of a resolved fragment have no line breaks at their edges. -/
theorem anchored_markLines_resolve (f : Fragment) :
    (f.resolve.markLines mark).spread.Anchored := by
  obtain ⟨marked, remarked, joined⟩ := remarked_markLines single f.resolve
  have lines : join ['\n'] (f.resolve.lines.map spread) = f.resolve.spread := by
    rw [spread, ← Token.join_lines, lines, List.map_map]
    rfl
  have flat : .blockBreak ∉ Token.resolveFrom false [] f.tokens :=
    (Token.resolveFrom_settled false .nil).unbroken
  have trimmed : f.resolve.spread =
      Text.trim (Fragment.spread ⟨Token.resolveFrom false [] f.tokens⟩) := spread_trim flat
  rw [joined]
  refine anchored_join_remarked remarked ?_
  rw [lines, trimmed]
  exact Firm.of_trim _

end Marks
end ArticleMarkdown.Fragment

namespace ArticleMarkdown

open Text

namespace Text

private theorem hasLineBreak_repeated {c : Char} (inLine : isLineBreak c = false) (n : Nat) :
    hasLineBreak (repeated n c) = false := by
  rw [hasLineBreak, List.any_eq_false]
  intro d member
  rw [List.eq_of_mem_replicate member, inLine]
  exact Bool.false_ne_true

private theorem hasLineBreak_ofNat (n : Nat) : hasLineBreak (ofNat n) = false := by
  rw [hasLineBreak, List.any_eq_false]
  intro c member
  rw [isLineBreak_of_solid (isSpace_of_isDigit (isDigit_of_mem_ofNat member))]
  exact Bool.false_ne_true

/-- A text has line breaks where it had some before, if every character is replaced by a text that
keeps them. -/
theorem hasLineBreak_flatMap {f : Char → Text} (same : ∀ c, hasLineBreak (f c) = isLineBreak c)
    (t : Text) : hasLineBreak (t.flatMap f) = hasLineBreak t := by
  rw [hasLineBreak, List.any_flatMap, hasLineBreak]
  exact congrArg (t.any ·) (funext same)

end Text

namespace Fragment

variable {f : Fragment} {t : Text}

private theorem anchored_blocked (anchored : f.spread.Anchored) : f.blocked.spread.Anchored := by
  rw [blocked, spread_append, spread_append]
  exact anchored.framed rfl rfl

private theorem anchored_inlined (anchored : f.spread.Anchored) : f.inlined.spread.Anchored := by
  rw [inlined, spread_append, spread_append]
  exact anchored.framed rfl rfl

private theorem anchored_blockText (anchored : t.Anchored) : (blockText t).spread.Anchored :=
  anchored_blocked (by rwa [spread_ofText])

/-- Spaces around a text on its own in a line leave its line breaks inside. -/
theorem anchored_inlineText (anchored : t.Anchored) : (inlineText t).spread.Anchored :=
  anchored_inlined (by rwa [spread_ofText])

/-- The empty fragment has no line breaks at its edges. -/
theorem anchored_empty : (∅ : Fragment).spread.Anchored :=
  .of_single rfl

end Fragment

open Fragment

namespace Plain

private theorem hasLineBreak_squeezeFrom (inRun : Bool) (t : Text) :
    hasLineBreak (squeezeFrom inRun t) = false := by
  fun_induction squeezeFrom inRun t with
  | case1 => rfl
  | case2 inRun c rest _ ih =>
      rw [hasLineBreak_append, ih]
      split <;> rfl
  | case3 inRun c rest stays ih =>
      have inLine : isLineBreak c = false := by
        rw [← Bool.not_eq_true, isLineBreak, Bool.or_eq_true, beq_iff_eq, beq_iff_eq]
        rintro (rfl | rfl) <;> exact stays rfl
      rw [hasLineBreak, List.any_cons, inLine, ← hasLineBreak, ih]
      rfl

private theorem hasLineBreak_edgeBreak (edge : Option Char) :
    hasLineBreak (edgeBreak edge).spread = false := by
  rw [edgeBreak]
  split <;> rfl

/-- Text nodes are written on one line. -/
theorem hasLineBreak_fragment (t : Text) : hasLineBreak (fragment t).spread = false := by
  unfold fragment
  split
  · exact hasLineBreak_edgeBreak _
  · rw [spread_append, spread_append, spread_ofText, hasLineBreak_append, hasLineBreak_append,
      hasLineBreak_edgeBreak, hasLineBreak_edgeBreak, squeeze, hasLineBreak_squeezeFrom]
    rfl

end Plain

/-- A heading starts and ends with characters that show. -/
theorem Heading.anchored_fragment (level : Nat) (f : Fragment) :
    (fragment level f).spread.Anchored := by
  unfold fragment
  dsimp only
  split
  · exact anchored_empty
  · refine anchored_blocked (anchored_markLines_resolve (fun _ line => ?_) f)
    split
    · rfl
    · rw [mark, hasLineBreak_append, hasLineBreak_repeated rfl]
      rfl

/-- A quotation starts and ends with characters that show. -/
theorem Quotation.anchored_fragment (f : Fragment) : (fragment f).spread.Anchored := by
  unfold fragment
  dsimp only
  split
  · exact anchored_empty
  · exact anchored_blocked (anchored_markLines_resolve (fun _ _ => rfl) f)

namespace ListKind

/-- The mark of an item stands on one line. -/
theorem hasLineBreak_mark (kind : ListKind) (number : Nat) :
    hasLineBreak (kind.mark number) = false := by
  cases kind with
  | ordered =>
      rw [mark, hasLineBreak_append, hasLineBreak_ofNat]
      rfl
  | unordered => rfl

/-- What continues an item stands on one line. -/
theorem hasLineBreak_continuation (kind : ListKind) (line : Text) :
    hasLineBreak (kind.continuation line) = false := by
  rw [continuation]
  split
  · rfl
  · exact hasLineBreak_repeated rfl _

/-- An item starts with its mark and ends with a character that shows. -/
theorem anchored_item (kind : ListKind) (number : Nat) (f : Fragment) :
    (kind.item number f).spread.Anchored := by
  refine anchored_markLines_resolve (fun _ line => ?_) f
  split
  · exact kind.hasLineBreak_mark number
  · exact kind.hasLineBreak_continuation line

/-- A list in a list starts and ends with characters that show. -/
theorem anchored_nested (kind : ListKind) (f : Fragment) : (kind.nested f).spread.Anchored :=
  anchored_markLines_resolve (fun _ line => kind.hasLineBreak_continuation line) f

end ListKind

/-- The mark of a table of contents has no line breaks. -/
theorem Paragraph.anchored_contents : contents.spread.Anchored :=
  .of_single rfl

/-- An aligned paragraph stands between its tags. -/
theorem Paragraph.anchored_aligned (side : Text) (children : List Node) :
    (aligned side children).spread.Anchored := by
  unfold aligned
  dsimp only
  split
  · exact anchored_empty
  · have opening : Firm ("<div style=\"text-align:".toList ++ side ++ ";\">".toList) :=
      (Firm.of_any rfl rfl).between (.of_any rfl rfl) side
    exact anchored_blockText (.of_firm (opening.between (.of_any rfl rfl) _))

/-- The end of a link starts and ends with characters that show. -/
theorem Link.firm_ending (address : Text) : Firm (ending address) :=
  Firm.between (s := [']', '(']) (.of_any rfl rfl) (.singleton rfl) (destination address)

/-- A link around a text starts and ends with its brackets. -/
theorem Link.firm_ofText (label address : Text) : Firm (ofText label address) :=
  Firm.between (s := ['[']) (.singleton rfl) (firm_ending address) (escapeLabel label)

/-- A link around a fragment has its line breaks between its brackets. -/
theorem Link.anchored_around (address : Text) (f : Fragment) :
    (around address f).spread.Anchored := by
  unfold around
  dsimp only
  split
  · exact anchored_inlineText (.of_firm (firm_ofText address address))
  · refine anchored_inlined (.of_firm ?_)
    rw [spread_append, spread_append, spread_ofText, spread_ofText]
    exact (Firm.singleton rfl).between (firm_ending address) _

/-- An image starts and ends with characters that show, as markup and as Markdown. -/
theorem Image.firm_markdown (address alt : Text) (width height : Option Text) :
    Firm (markdown address alt width height) := by
  have opening : Firm "<img src=\"".toList := .of_any rfl rfl
  have closing : Firm "\">".toList := .of_any rfl rfl
  rw [markdown]
  split
  · refine ⟨?_, closing.ends.prepend _⟩
    unfold sizedTag
    exact (((((opening.starts.append _).append _).append _).append _).append _).append _
  · exact (Firm.singleton (c := '!') rfl).append (Link.firm_ofText alt address).ends

/-- A displayed formula has its line breaks between its marks. -/
theorem Image.anchored_displayFormula (source : Text) :
    (displayFormula source).spread.Anchored := by
  have opening : Firm "$$".toList := .of_any rfl rfl
  refine anchored_blockText (.of_firm ⟨?_, ?_⟩)
  · exact ((opening.starts.append ['\n']).append source).append _
  · exact (opening.ends.prepend ['\n']).prepend _

/-- An image that starts and ends with characters that show is placed with its line breaks inside.
-/
theorem Image.anchored_placed (centered : Bool) {image : Text} (firm : Firm image) :
    (placed centered image).spread.Anchored := by
  rw [placed, spread_append, spread_append, spread_ofText]
  refine (Anchored.of_firm firm).framed ?_ rfl
  split <;> rfl

/-- Code between fences starts and ends with characters that show. -/
theorem Code.firm_fenced (source language : Text) : Firm (fenced source language) := by
  have fence := Firm.repeated (c := '`') rfl (max (longestRun source) 2)
  refine ⟨?_, ?_⟩
  · exact ((fence.starts.append language).append _).append _
  · exact (fence.ends.prepend ['\n']).prepend _

private theorem Code.firm_span (t : Text) : Firm (span t) := by
  unfold span
  dsimp only
  split
  · exact Firm.between (s := ['`']) (.singleton rfl) (.singleton rfl) t
  · have fence := Firm.repeated (c := '`') rfl (longestRun t)
    exact ⟨(fence.starts.append _).append _, (fence.ends.prepend [' ']).prepend _⟩

/-- A code block has its line breaks between its fences. -/
theorem Code.anchored_block (children : List Node) : (block children).spread.Anchored := by
  rw [block]
  split <;> exact anchored_blockText (.of_firm (firm_fenced _ _))

/-- Code in a line has no line breaks. -/
theorem Code.anchored_inline (children : List Node) : (inline children).spread.Anchored := by
  unfold inline
  dsimp only
  split
  · exact anchored_empty
  · exact anchored_inlineText (.of_firm (firm_span _))

private theorem Table.firm_line (columns : Nat) (row : Row) : Firm (line columns row) where
  starts := ⟨'|', _, rfl, rfl⟩
  ends := EndsFirm.prepend ⟨[' '], '|', rfl, rfl⟩ _

private theorem Table.firm_delimiterLine (columns : Nat) (header : Row) :
    Firm (delimiterLine columns header) :=
  Firm.between (s := ['|']) (.singleton rfl) (.singleton rfl) _

/-- A table has its line breaks between its bars. -/
theorem Table.anchored_fragment? (rows : List Row) : ((fragment? rows).getD ∅).spread.Anchored := by
  cases rows with
  | nil => exact anchored_empty
  | cons header rows =>
      refine anchored_blockText (.inr (Grounded.join _ (List.cons_ne_nil _ _) ?_))
      simp only [lines, List.forall_mem_cons, List.forall_mem_map]
      exact ⟨.of_firm (firm_line _ _), .of_firm (firm_delimiterLine _ _), fun _ _ =>
        .of_firm (firm_line _ _)⟩

private theorem Formula.anchored_fragment (display : Bool) (source : Text) :
    (fragment display source).spread.Anchored := by
  rw [fragment]
  split
  · exact anchored_empty
  · split
    · exact Image.anchored_displayFormula source
    · exact anchored_inlineText (.of_firm
        (Firm.between (s := ['$']) (.singleton rfl) (.singleton rfl) source))

/-- A formula has its line breaks between its marks. -/
theorem Formula.anchored_fragment? {attributes : List Attribute} {children : List Node}
    {f : Fragment} (shown : fragment? attributes children = some f) : f.spread.Anchored := by
  unfold fragment? at shown
  dsimp only at shown
  split at shown
  · obtain ⟨first, -, rfl⟩ := Option.map_eq_some_iff.mp shown
    exact anchored_fragment _ _
  · cases shown

/-- A closing tag starts and ends with characters that show. -/
theorem Markup.firm_endTag (name : String) : Firm (Markup.endTag name) :=
  Firm.between (s := ['<', '/']) (.of_any rfl rfl) (.singleton rfl) name.toList

private theorem Color.anchored_element (name key : String) (value text : Text) :
    (element name key value text).spread.Anchored := by
  rw [element, spread_ofText]
  refine .of_firm ⟨⟨'<', _, rfl, rfl⟩, ?_⟩
  exact (Markup.firm_endTag name).ends.prepend _

namespace Color

variable {attributes : List Attribute} {children : List Node} {f : Fragment}

/-- A styled span has its line breaks between its tags. -/
theorem anchored_of_span? (shown : span? attributes children = some f) : f.spread.Anchored := by
  rw [span?] at shown
  split at shown
  · obtain ⟨text, -, rfl⟩ := Option.map_eq_some_iff.mp shown
    exact anchored_element _ _ _ _
  · cases shown

/-- Coloured text has its line breaks between its tags. -/
theorem anchored_of_font? (shown : font? attributes children = some f) : f.spread.Anchored := by
  unfold font? at shown
  dsimp only at shown
  split at shown
  · cases shown
  · obtain ⟨text, -, rfl⟩ := Option.map_eq_some_iff.mp shown
    exact anchored_element _ _ _ _

end Color

/-- A reference to a note has no line breaks. -/
theorem Note.anchored_of_reference? {attributes : List Attribute} {children : List Node}
    {f : Fragment} (shown : reference? attributes children = some f) : f.spread.Anchored := by
  unfold reference? at shown
  dsimp only at shown
  split at shown
  · cases shown
    rw [spread_ofText]
    exact .of_firm (Firm.between (s := ['[', '^']) (.of_any rfl rfl) (.singleton rfl) _)
  · cases shown

private theorem Note.grounded_definition (index : Nat) (entry : Node) :
    Grounded (definition index entry) := by
  have opening : Firm ("[^".toList ++ ofNat (index + 1) ++ "]:".toList) :=
    (Firm.of_any rfl rfl).between (.of_any rfl rfl) _
  have whole : definition index entry =
      "[^".toList ++ ofNat (index + 1) ++ "]:".toList ++ ' ' :: text entry := by
    simp [definition]
  rw [whole]
  rcases Firm.of_trim ((removeAll returnGlyph entry.textContent).filter fun c => !isLineBreak c)
    with nothing | shown
  · rw [text, nothing]
    exact (Grounded.of_firm opening).framed (rfl : hasLineBreak [] = false) rfl
  · exact .of_firm (opening.append (shown.ends.prepend [' ']))

/-- The definitions of notes start and end with characters that show. -/
theorem Note.anchored_definitions (children : List Node) :
    (definitions children).spread.Anchored := by
  unfold definitions
  dsimp only
  split
  · exact anchored_empty
  · next found =>
    refine anchored_blockText (.inr (Grounded.join _ ?_ ?_))
    · simpa using found
    · rw [List.forall_mem_map]
      exact fun _ _ => grounded_definition _ _

/-- A checkbox has no line breaks. -/
theorem Checkbox.anchored_fragment (attributes : List Attribute) :
    (fragment attributes).spread.Anchored := by
  rw [fragment]
  split
  · split <;> exact .of_single rfl
  · exact anchored_empty

/-- A reference to a file of a drawing starts and ends with characters that show. -/
theorem Drawing.anchored_fileReference (path : Text) : (fileReference path).spread.Anchored :=
  anchored_blockText (.of_firm ((Firm.of_any rfl rfl).between (.singleton rfl) path))

/-- A drawing that is embedded stands between its tags. -/
theorem Drawing.anchored_embedded (markup : Text) : (embedded markup).spread.Anchored :=
  anchored_blockText (.of_firm ((Firm.of_any rfl rfl).between (.singleton rfl) _))

/-- A drawing that stays in place stands between its tags. -/
theorem Drawing.anchored_inPlace (markup : Text) : (inPlace markup).spread.Anchored :=
  anchored_blockText (.of_firm ((Firm.of_any rfl rfl).between (.of_any rfl rfl) _))

/-- A centred text has its line breaks between its tags. -/
theorem Centered.anchored_text (t : Text) : (Centered.text t).spread.Anchored := by
  rw [Centered.text]
  split
  · exact anchored_empty
  · exact anchored_blockText (.of_firm ((Firm.of_any rfl rfl).between (.of_any rfl rfl) _))

private theorem Text.Firm.respaced {s t : Text} (firm : Firm s) (respaced : Respaced s t) :
    Firm t where
  starts := by
    obtain ⟨c, rest, rfl, solid⟩ := firm.starts
    have tight : ∀ d ∈ [c], isSpace d = false := List.forall_mem_singleton.mpr solid
    obtain ⟨after, rfl, -⟩ := respaced.start tight
    exact ⟨c, after, rfl, solid⟩
  ends := by
    obtain ⟨before, c, rfl, solid⟩ := firm.ends
    have tight : ∀ d ∈ [c], isSpace d = false := List.forall_mem_singleton.mpr solid
    obtain ⟨before', after, rfl, -, nothing⟩ := respaced.around tight (List.cons_ne_nil _ _)
    rw [nothing.eq_nil]
    exact ⟨before', c, rfl, solid⟩

namespace Markup

variable {t : Text}

private theorem endsFirm_closeGapsFrom (gap : Option Text) (ends : EndsFirm t) :
    EndsFirm (closeGapsFrom gap t) := by
  fun_induction closeGapsFrom gap t with
  | case1 gap =>
      obtain ⟨before, c, nothing, -⟩ := ends
      simp at nothing
  | case2 c rest held space ih => exact ih (ends.of_cons_space space)
  | case3 c rest held _ ih =>
      refine EndsFirm.prepend (endsFirm_cons.mpr ?_) _
      refine (endsFirm_cons.mp ends).imp ih ?_
      rintro ⟨rfl, solid⟩
      exact ⟨by split <;> rfl, solid⟩
  | case4 c rest ih =>
      refine endsFirm_cons.mpr ((endsFirm_cons.mp ends).imp ih ?_)
      rintro ⟨rfl, solid⟩
      exact ⟨by split <;> rfl, solid⟩

private theorem firm_closeGaps (firm : Firm t) : Firm (closeGaps t) where
  starts := by
    obtain ⟨c, rest, rfl, solid⟩ := firm.starts
    exact ⟨c, _, rfl, solid⟩
  ends := endsFirm_closeGapsFrom none firm.ends

/-- Markup that starts and ends with characters that show still does on one line. -/
theorem firm_oneLine (firm : Firm t) : Firm (oneLine t) := by
  have joined : Respaced (oneLine t) (closeGaps (trim t)) := respaced_joinLinesFrom _ _ .start
  rw [firm.trim_eq] at joined
  exact (firm_closeGaps firm).respaced joined.symm

private theorem firm_outer {space : ElementSpace} {name : String}
    (filled : isVoid space name = false)
    (attributes : List Attribute) (children : List Node) :
    Firm (outer (.element space name attributes children)) := by
  rw [outer, writeNode.eq_def]
  simp only [filled, Bool.or_false, Bool.false_eq_true, if_false]
  refine ⟨?_, (firm_endTag name).ends.prepend _⟩
  exact StartsFirm.append ⟨'<', _, rfl, rfl⟩ _

end Markup

namespace Raw

variable {name : String} {placement : Placement}

/-- No element that is passed through is void. -/
theorem not_isVoid (raw : Rule.ofName name = .raw placement) (space : ElementSpace) :
    Markup.isVoid space name = false := by
  unfold Rule.ofName at raw
  split at raw <;> cases raw <;> simp [Markup.isVoid, Markup.voidNames]

/-- Raw markup has its line breaks between its tags. -/
theorem anchored_fragment (raw : Rule.ofName name = .raw placement) (centered : Bool)
    (space : ElementSpace) (attributes : List Attribute) (children : List Node) :
    (fragment placement
      (Node.shown centered (.element space name attributes children))).spread.Anchored := by
  have firm :
      Firm (Markup.outer (Node.shown centered (.element space name attributes children))) := by
    rw [Node.shown]
    split
    · rw [Node.markImages]
      exact Markup.firm_outer (not_isVoid raw space) _ _
    · exact Markup.firm_outer (not_isVoid raw space) _ _
  have anchored := Anchored.of_firm (Markup.firm_oneLine firm)
  unfold fragment
  dsimp only
  split
  · exact anchored_empty
  · split
    · exact anchored_blockText anchored
    · exact anchored_inlineText anchored

end Raw
end ArticleMarkdown
