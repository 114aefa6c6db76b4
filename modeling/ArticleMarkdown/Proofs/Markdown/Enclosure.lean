import ArticleMarkdown.Article.Convert
import ArticleMarkdown.Proofs.Fragment.Enclosed
import ArticleMarkdown.Proofs.Markdown.Pieces

/-!
# What emphasis, links and raised text enclose

Emphasis, links, and raised and lowered text put marks around their content. The separators in the
content of emphasis and in the label of a link never break the line. A blank line within emphasis,
or a line break in a label, comes from a piece of the content that has one of its own: a list, code,
a formula and the like. Raised and lowered text also keep the block separators of their content, and
each of them leaves a blank line (`Node.enclosed_lines`).
-/

namespace ArticleMarkdown

open Text

namespace Fragment

variable {f : Fragment} {opening closing : Text} {property : Text → Bool} {expected : Bool}

private theorem ofText_append (s t : Text) : ofText s ++ ofText t = ofText (s ++ t) := by
  cases s with
  | nil => rfl
  | cons c s =>
      cases t with
      | nil => rw [List.append_nil]; rfl
      | cons d t => rfl

/-- Between two marks the fragment shows a text that has a property as expected. -/
def EnclosesWith (f : Fragment) (opening closing : Text) (property : Text → Bool)
    (expected : Bool) : Prop :=
  ∃ between, f.Encloses opening between closing ∧ property between = expected

private theorem EnclosesWith.around (encloses : f.EnclosesWith opening closing property expected)
    {before after : Fragment} (nothing : before.ink = []) (nothing' : after.ink = []) :
    (before ++ f ++ after).EnclosesWith opening closing property expected := by
  obtain ⟨between, encloses, same⟩ := encloses
  exact ⟨between, encloses.around nothing nothing', same⟩

section Marks

variable (firm : Firm opening) (firm' : Firm closing)
include firm firm'

private theorem enclosesWith_of_flat (flat : .blockBreak ∉ f.tokens) (lines : OfLines property) :
    (ofText opening ++ f ++ ofText closing).EnclosesWith opening closing property
      (property f.spread) := by
  obtain ⟨between, encloses, same, -⟩ := Fragment.encloses firm firm' f
  refine ⟨between, encloses, ?_⟩
  rw [← lines.unspaced, same flat, lines.unspaced]

private theorem enclosesWith_blankLine (f : Fragment) :
    (ofText opening ++ f ++ ofText closing).EnclosesWith opening closing hasBlankLine
      (f.tokens.contains .blockBreak || hasBlankLine f.spread) := by
  by_cases flat : .blockBreak ∈ f.tokens
  · obtain ⟨between, encloses, -, parted⟩ := Fragment.encloses firm firm' f
    refine ⟨between, encloses, ?_⟩
    rw [parted flat, List.contains_iff_mem.mpr flat, Bool.true_or]
  · have enclosed := enclosesWith_of_flat firm firm' flat ofLines_hasBlankLine
    rwa [Bool.eq_false_iff.mpr (mt List.contains_iff_mem.mp flat), Bool.false_or]

end Marks
end Fragment

open Fragment

namespace Emphasis

/-- The opening mark of an emphasis is no whitespace. -/
theorem firm_opening (kind : Emphasis) : Firm kind.opening := by
  cases kind <;> exact .of_any rfl rfl

/-- The closing mark of an emphasis is no whitespace. -/
theorem firm_closing (kind : Emphasis) : Firm kind.closing := by
  cases kind <;> exact .of_any rfl rfl

/-- What stands between the marks of an emphasis has no block separators. -/
theorem flat_core (f : Fragment) : .blockBreak ∉ (core f).tokens :=
  mt (blockBreak_mem_trim _).mp (flat_flattened _)

private theorem encloses_wrap (kind : Emphasis) {content : Fragment}
    (anchored : content.spread.Anchored) :
    if content.isBlank then kind.wrap content.trim = ∅
    else (kind.wrap content.trim).EnclosesWith kind.opening kind.closing hasBlankLine
      (hasBlankLine content.spread) := by
  have framed := content.frames_trim.trans (frames_core content.trim)
  have same : (core content.trim).isBlank = content.isBlank := by
    rw [Bool.eq_iff_iff, Fragment.isBlank_iff, Fragment.isBlank_iff, Fragment.ink, ← framed.ink_eq,
      Fragment.ink]
  rw [wrap_eq, same, ← ofLines_hasBlankLine.frames anchored framed]
  split
  · rfl
  · have enclosed := enclosesWith_of_flat kind.firm_opening kind.firm_closing
      (flat_core content.trim) ofLines_hasBlankLine
    refine enclosed.around ?_ ?_ <;> rw [Fragment.ink, spread_outside] <;> rfl

end Emphasis

private theorem Script.encloses_wrap (tag : String) {content : Fragment}
    (anchored : content.spread.Anchored) :
    if content.isBlank then wrap tag content = ∅
    else (wrap tag content).EnclosesWith (Markup.startTag tag []) (Markup.endTag tag) hasBlankLine
      (content.tokens.contains .blockBreak || hasBlankLine content.spread) := by
  have firm : Firm (Markup.startTag tag []) :=
    Firm.append (s := ['<']) (.singleton rfl) (EndsFirm.prepend ⟨[], '>', rfl, rfl⟩ _)
  have same : content.trim.isBlank = content.isBlank := by
    rw [Bool.eq_iff_iff, Fragment.isBlank_iff, Fragment.isBlank_iff, Fragment.ink_trim]
  have kept : content.trim.tokens.contains .blockBreak = content.tokens.contains .blockBreak := by
    rw [Bool.eq_iff_iff, List.contains_iff_mem, List.contains_iff_mem, blockBreak_mem_trim]
  unfold wrap
  dsimp only
  rw [same]
  split
  · rfl
  · rw [← ofLines_hasBlankLine.frames anchored content.frames_trim, ← kept]
    exact enclosesWith_blankLine firm (Markup.firm_endTag tag) content.trim

namespace Link

private theorem firm_opening : Firm ['['] :=
  .singleton rfl

private theorem flat_label (f : Fragment) : .blockBreak ∉ (label f).tokens :=
  mt (blockBreak_mem_trim _).mp (flat_flattened f)

private theorem encloses_ofText (label address : Text) :
    (inlineText (ofText label address)).EnclosesWith ['['] (ending address) hasLineBreak
      (hasLineBreak label) := by
  have enclosed := enclosesWith_of_flat firm_opening (firm_ending address)
    (blockBreak_notMem_ofText (escapeLabel label)) ofLines_hasLineBreak
  rw [spread_ofText, hasLineBreak_escapeLabel, ofText_append, ofText_append] at enclosed
  exact enclosed.around rfl rfl

private theorem encloses_around (address : Text) {content : Fragment}
    (anchored : content.spread.Anchored) :
    (around address content).EnclosesWith ['['] (ending address) hasLineBreak
      (if content.isBlank then hasLineBreak address else hasLineBreak content.spread) := by
  have same : (label content).isBlank = content.isBlank := by
    rw [Bool.eq_iff_iff, Fragment.isBlank_iff, Fragment.isBlank_iff, label, Fragment.ink_trim,
      ink_flattened]
  unfold around
  dsimp only
  rw [same]
  split
  · exact encloses_ofText address address
  · rw [← ofLines_hasLineBreak.frames anchored (frames_label content)]
    have enclosed := enclosesWith_of_flat firm_opening (firm_ending address) (flat_label content)
      ofLines_hasLineBreak
    exact enclosed.around rfl rfl

end Link

/-- Emphasis, raised and lowered text, and links show their content between their marks, wherever
they stand. Within emphasis there is a blank line, and in the label of a link a line break, exactly
if a piece of the content has one; within raised and lowered text there is a blank line also if the
content holds a block separator. -/
theorem Node.enclosed_lines (s : Settings) (centered : Bool) (space : ElementSpace) (name : String)
    (attributes : List Attribute) (children : List Node) (paths : List Text) :
    let content := (draftNodes s centered children).fill paths
    let pieces := (draftAllPieces s centered children).fill paths
    let shown := (draftNode s centered (.element space name attributes children)).fill paths
    (∀ kind, Rule.ofName name = .emphasis kind →
      if content.isBlank then shown = ∅
      else shown.EnclosesWith kind.opening kind.closing hasBlankLine
        (pieces.any fun piece => hasBlankLine piece.spread)) ∧
    (name = "sup" ∧ Note.reference? attributes children = none ∨ name = "sub" →
      if content.isBlank then shown = ∅
      else shown.EnclosesWith (Markup.startTag name []) (Markup.endTag name) hasBlankLine
        (content.tokens.contains .blockBreak ||
          pieces.any fun piece => hasBlankLine piece.spread)) ∧
    (Rule.ofName name = .link →
      (∀ address, Link.form s.stripSearchLinks attributes = .linked address →
        shown.EnclosesWith ['['] (Link.ending address) hasLineBreak
          (if content.isBlank then hasLineBreak address
          else pieces.any fun piece => hasLineBreak piece.spread)) ∧
      ∀ title address, Link.form s.stripSearchLinks attributes = .card title address →
        shown.EnclosesWith ['['] (Link.ending address) hasLineBreak (hasLineBreak title)) := by
  intro content pieces shown
  have made := (draftNodes_madeOf s centered children).fill paths
  have blankLines := made.property_eq ofLines_hasBlankLine
  have lineBreaks := made.property_eq ofLines_hasLineBreak
  refine ⟨fun kind rule => ?_, fun script => ?_, fun rule => ⟨fun address form => ?_,
    fun title address form => ?_⟩⟩
  · have wrapped : shown = kind.wrap content.trim := by
      simp only [shown]
      rw [draftNode.eq_def]
      simp only [rule]
      rfl
    rw [wrapped, ← blankLines]
    exact kind.encloses_wrap made.anchored
  · have wrapped : shown = Script.wrap name content := by
      simp only [shown]
      rw [draftNode.eq_def]
      rcases script with ⟨rfl, reference⟩ | rfl
      · have rule : Rule.ofName "sup" = .superscript := rfl
        simp only [rule, reference]
        rfl
      · rfl
    rw [wrapped, ← blankLines]
    exact Script.encloses_wrap name made.anchored
  · have wrapped : shown = Link.around address content := by
      simp only [shown]
      rw [draftNode.eq_def]
      simp only [rule, form]
      rfl
    rw [wrapped, ← lineBreaks]
    exact Link.encloses_around address made.anchored
  · have written : shown = inlineText (Link.ofText title address) := by
      simp only [shown]
      rw [draftNode.eq_def]
      simp only [rule, form]
      rfl
    rw [written]
    exact Link.encloses_ofText title address

/-- Code with a blank line. -/
def partedCode : List Node :=
  [.element .html "pre" [] [.text "a\n\nb".toList]]

/-- Code with a blank line brings it into bold text, into a script and into a link. -/
theorem Node.enclosed_lines_partedCode :
    Rule.ofName "strong" = .emphasis .bold ∧
      ((draftNode {} false (.element .html "strong" [] partedCode)).fill []).EnclosesWith
        "**".toList "**".toList hasBlankLine true ∧
      ((draftNode {} false (.element .html "sub" [] partedCode)).fill []).EnclosesWith
        "<sub>".toList "</sub>".toList hasBlankLine true ∧
      Rule.ofName "a" = .link ∧
      Link.form false [⟨.none, "href", "u".toList⟩] = .linked "u".toList ∧
      ((draftNode {} false (.element .html "a" [⟨.none, "href", "u".toList⟩] partedCode)).fill
        []).EnclosesWith ['['] "](u)".toList hasLineBreak true := by
  have shown : ((draftNodes {} false partedCode).fill []).isBlank = false := by rfl
  have blankLine : (((draftAllPieces {} false partedCode).fill []).any fun piece =>
      hasBlankLine piece.spread) = true := by rfl
  have lineBreak : (((draftAllPieces {} false partedCode).fill []).any fun piece =>
      hasLineBreak piece.spread) = true := by rfl
  have form : Link.form false [⟨.none, "href", "u".toList⟩] = .linked "u".toList := by rfl
  have bold := (enclosed_lines {} false .html "strong" [] partedCode []).1 .bold rfl
  have lowered := (enclosed_lines {} false .html "sub" [] partedCode []).2.1 (.inr rfl)
  have linked := ((enclosed_lines {} false .html "a" [⟨.none, "href", "u".toList⟩] partedCode
    []).2.2 rfl).1 "u".toList form
  rw [shown, blankLine] at bold lowered
  rw [shown, lineBreak] at linked
  rw [Bool.or_true] at lowered
  exact ⟨rfl, bold, lowered, rfl, form, linked⟩

/-- Raised text of two paragraphs. -/
def raisedParagraphs : List Node :=
  [.element .html "sup" []
    [.element .html "p" [] [.text "a".toList], .element .html "p" [] [.text "b".toList]]]

/-- Bold text that is a list, with two paragraphs in its item. -/
def boldList : List Node :=
  [.element .html "strong" [] [.element .html "ul" [] [.element .html "li" []
    [.element .html "p" [] [.text "a".toList], .element .html "p" [] [.text "b".toList]]]]]

/-- A link that shows a title of two lines. -/
def twoLineCard : List Node :=
  [.element .html "a" [⟨.none, "href", "u".toList⟩, ⟨.none, "title", "a\nb".toList⟩,
    ⟨.none, "class", "has-card".toList⟩] [.text "x".toList]]

/-- Paragraphs in a script, a list in bold text and a title of two lines keep their line breaks. -/
theorem Article.enclosed_lines_broken :
    (convertNodes none {} {} raisedParagraphs).2 =
        .ok ("<sup>".toList ++ "\n\na\n\nb\n\n".toList ++ "</sup>\n\n".toList) ∧
      hasBlankLine "\n\na\n\nb\n\n".toList = true ∧
      (convertNodes none {} {} boldList).2 =
        .ok ("**".toList ++ "- a\n\n  b".toList ++ "**\n\n".toList) ∧
      hasBlankLine "- a\n\n  b".toList = true ∧
      (convertNodes none {} {} twoLineCard).2 =
        .ok ("[".toList ++ "a\nb".toList ++ "](u)\n\n".toList) ∧
      hasLineBreak "a\nb".toList = true := by
  refine ⟨by rfl, by rfl, by rfl, by rfl, by rfl, by rfl⟩

end ArticleMarkdown
