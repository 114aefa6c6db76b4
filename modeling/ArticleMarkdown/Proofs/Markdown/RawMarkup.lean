import ArticleMarkdown.Proofs.Fragment.Aligned
import ArticleMarkdown.Proofs.Markdown.Embeds
import ArticleMarkdown.Proofs.Markup.BlankLines

/-!
# Raw markup

Some elements are written as raw markup, which a blank line would end. Markup that is passed through
is put on one line. Markup that is made from texts of the document has a blank line exactly if one
of these texts has (`Node.markup_breaksOff_iff`).
-/

namespace ArticleMarkdown

open Text

private theorem Raw.fragment_split (placement : Placement) (node : Node) :
    ∃ before after : Fragment, before.ink = [] ∧ after.ink = [] ∧
      fragment placement node =
        before ++ Fragment.ofText (Markup.oneLine (Markup.outer node)) ++ after := by
  simp only [fragment]
  split
  · next nothing =>
    refine ⟨∅, ∅, rfl, rfl, ?_⟩
    rw [List.isEmpty_iff.mp nothing]
    rfl
  · cases placement with
    | block => exact ⟨Fragment.blockBreak, Fragment.blockBreak, rfl, rfl, rfl⟩
    | inline => exact ⟨Fragment.inlineBreak, Fragment.inlineBreak, rfl, rfl, rfl⟩

namespace Color

/-- The markup of a coloured text. -/
def markup (name key : String) (value text : Text) : Text :=
  '<' :: name.toList ++ ' ' :: key.toList ++ '=' :: '"' :: Markup.encodeValue value ++
    '"' :: '>' :: Markup.encodeText text ++ Markup.endTag name

private theorem breaksOff_markup_iff {name key : String} {value t : Text}
    (opens : Markup.isWall ('<' :: name.toList ++ ' ' :: key.toList ++ ['=', '"']) = true)
    (closes : Markup.isWall (Markup.endTag name) = true) :
    Markup.BreaksOff (markup name key value t) ↔ Markup.BreaksOff value ∨ Markup.BreaksOff t := by
  have between : Markup.isWall ['"', '>'] = true := by decide
  have parts : markup name key value t =
      ('<' :: name.toList ++ ' ' :: key.toList ++ ['=', '"']) ++ (Markup.encodeValue value ++
        (['"', '>'] ++ (Markup.encodeText t ++ Markup.endTag name))) := by
    simp [markup]
  rw [parts, Markup.breaksOff_behind_iff opens, Markup.breaksOff_across_iff between,
    Markup.breaksOff_before_iff closes, Markup.breaksOff_encodeValue_iff,
    Markup.breaksOff_encodeText_iff]

end Color

namespace Image

private theorem lineFeed_notMem_sizeStyle {property : String} {length : Option Text}
    (named : '\n' ∉ property.toList) (single : ∀ l ∈ length, '\n' ∉ l) :
    '\n' ∉ sizeStyle property length := by
  cases length with
  | none => exact List.not_mem_nil
  | some l => simpa [sizeStyle] using ⟨named, single l rfl⟩

private theorem breaksOff_sizedTag_iff {address alt : Text} {width height : Option Text}
    (width' : ∀ l ∈ width, '\n' ∉ l) (height' : ∀ l ∈ height, '\n' ∉ l) :
    Markup.BreaksOff (sizedTag address alt width height) ↔
      Markup.BreaksOff address ∨ Markup.BreaksOff alt := by
  have parts : sizedTag address alt width height =
      "<img src=\"".toList ++ (Markup.encodeValue address ++ ("\" alt=\"".toList ++
        (Markup.encodeValue alt ++ ("\" style=\"".toList ++ (sizeStyle "max-width" width ++
          (sizeStyle "max-height" height ++ "\">".toList)))))) := by
    unfold sizedTag
    simp only [List.append_assoc]
  have opens : Markup.isWall "<img src=\"".toList = true := by decide
  have labels : Markup.isWall "\" alt=\"".toList = true := by decide
  have styles : Markup.isWall "\" style=\"".toList = true := by decide
  have single : '\n' ∉ sizeStyle "max-width" width ++
      (sizeStyle "max-height" height ++ "\">".toList) := by
    rw [List.mem_append, List.mem_append, not_or, not_or]
    exact ⟨lineFeed_notMem_sizeStyle (by decide) width',
      lineFeed_notMem_sizeStyle (by decide) height', by decide⟩
  rw [parts, Markup.breaksOff_behind_iff opens, Markup.breaksOff_across_iff labels,
    Markup.breaksOff_across_iff styles, Markup.breaksOff_encodeValue_iff,
    Markup.breaksOff_encodeValue_iff, or_iff_left (mt Markup.BreaksOff.lineFeed single)]

end Image

namespace Node

/-- The raw markup that an element is written as, and the texts that are put into it as they are,
apart from characters with a meaning in markup. -/
inductive Writes (s : Settings) (centered : Bool) (paths : List Text) :
    Node → Text → List Text → Prop
  | centeredText {space : ElementSpace} {attributes : List Attribute} {children : List Node}
      {t : Text} (lone : Centered.loneText? children = some t) (filled : t ≠ []) :
      Writes s centered paths (.element space "center" attributes children)
        ("<center>".toList ++ Markup.encodeText t ++ "</center>".toList) [t]
  | coloredSpan {space : ElementSpace} {attributes : List Attribute} {children : List Node}
      {t : Text} (plain : Formula.fragment? attributes children = none)
      (keeps : s.keepColors = true) (colored : Color.isColored attributes = true)
      (lone : Color.loneText? children = some t) :
      Writes s centered paths (.element space "span" attributes children)
        (Color.markup "span" "style" (trim (Attribute.valueOf attributes "style")) t)
        [trim (Attribute.valueOf attributes "style"), t]
  | coloredFont {space : ElementSpace} {attributes : List Attribute} {children : List Node}
      {t : Text} (keeps : s.keepColors = true)
      (colored : trim (Attribute.valueOf attributes "color") ≠ [])
      (lone : Color.loneText? children = some t) :
      Writes s centered paths (.element space "font" attributes children)
        (Color.markup "font" "color" (trim (Attribute.valueOf attributes "color")) t)
        [trim (Attribute.valueOf attributes "color"), t]
  | sizedImage {space : ElementSpace} {attributes : List Attribute} {children : List Node}
      (plain : Attribute.hasClass attributes Image.formulaClass = false)
      (addressed : trim (Attribute.valueOf attributes "src") ≠ [])
      (sized : ((Image.keptLength s attributes "width").isSome ||
        (Image.keptLength s attributes "height").isSome) = true) :
      Writes s centered paths (.element space "img" attributes children)
        (Image.sizedTag (Image.shownAddress s attributes paths)
          (trim (Attribute.valueOf attributes "alt")) (Image.keptLength s attributes "width")
          (Image.keptLength s attributes "height"))
        [Image.shownAddress s attributes paths, trim (Attribute.valueOf attributes "alt")]
  | alignedParagraph {space : ElementSpace} {attributes : List Attribute} {children : List Node}
      {side : Text} (aligned : Paragraph.form s attributes children = .aligned side)
      (filled : Markup.oneLine (Markup.inner (allShown centered children)) ≠ []) :
      Writes s centered paths (.element space "p" attributes children)
        ("<div style=\"text-align:".toList ++ side ++ ";\">".toList ++
          Markup.oneLine (Markup.inner (allShown centered children)) ++ "</div>".toList) []
  | passed {space : ElementSpace} {name : String} {attributes : List Attribute}
      {children : List Node} {placement : Raw.Placement}
      (rule : Rule.ofName name = .raw placement) :
      Writes s centered paths (.element space name attributes children)
        (Markup.oneLine (Markup.outer (shown centered (.element space name attributes children))))
          []
  | drawing {space : ElementSpace} {attributes : List Attribute} {children : List Node}
      (visible : Drawing.isHidden attributes = false) (stays : s.localizeAssets = false)
      (unstyled : (subtrees (allShown centered children)).any (isElement "style") = false) :
      Writes s centered paths (.element space "svg" attributes children)
        ("<div align=\"center\">".toList ++ Markup.oneLine
          (Drawing.markup space "svg" attributes (allShown centered children)) ++ "</div>".toList)
            []

variable {s : Settings} {centered : Bool} {paths parts : List Text} {node : Node} {markup : Text}

/-- The fragment of the element is the markup, between separators or alone. -/
theorem Writes.fragment (writes : node.Writes s centered paths markup parts) :
    ∃ before after : Fragment, before.ink = [] ∧ after.ink = [] ∧
      (draftNode s centered node).fill paths = before ++ Fragment.ofText markup ++ after := by
  cases writes with
  | centeredText lone filled =>
      have rule : Rule.ofName "center" = .center := rfl
      refine ⟨Fragment.blockBreak, Fragment.blockBreak, rfl, rfl, ?_⟩
      rw [draftNode, rule]
      simp only [lone]
      exact if_neg (mt List.isEmpty_iff.mp filled)
  | coloredSpan plain keeps colored lone =>
      have rule : Rule.ofName "span" = .span := rfl
      refine ⟨∅, ∅, rfl, rfl, ?_⟩
      rw [draftNode, rule, Fragment.append_empty]
      simp only [plain, keeps, if_true, Color.span?, colored, lone]
      rfl
  | coloredFont keeps colored lone =>
      have rule : Rule.ofName "font" = .font := rfl
      refine ⟨∅, ∅, rfl, rfl, ?_⟩
      rw [draftNode, rule, Fragment.append_empty]
      simp only [keeps, if_true, Color.font?, List.isEmpty_eq_false_iff.mpr colored, lone]
      rfl
  | sizedImage plain addressed sized =>
      have rule : Rule.ofName "img" = .image := rfl
      obtain ⟨centers, filled⟩ := Image.fill_draft (s := s) plain addressed centered paths
      refine ⟨if centers then Fragment.blockBreak else Fragment.inlineBreak, Fragment.blockBreak,
        ?_, rfl, ?_⟩
      · cases centers <;> rfl
      · rw [draftNode, rule, filled, Image.markdown, if_pos sized]
        rfl
  | alignedParagraph aligned filled =>
      have rule : Rule.ofName "p" = .paragraph := rfl
      refine ⟨Fragment.blockBreak, Fragment.blockBreak, rfl, rfl, ?_⟩
      rw [draftNode, rule]
      simp only [aligned]
      exact if_neg (mt List.isEmpty_iff.mp filled)
  | passed rule =>
      rw [draftNode, rule]
      exact Raw.fragment_split _ _
  | drawing visible stays unstyled =>
      have rule : Rule.ofName "svg" = .drawing := rfl
      refine ⟨Fragment.blockBreak, Fragment.blockBreak, rfl, rfl, ?_⟩
      rw [draftNode, rule]
      simp only [Drawing.draft, visible, stays, unstyled, Bool.false_eq_true, if_false]
      rfl

/-- The markup has a blank line exactly if one of the texts in it has. -/
theorem Writes.breaksOff_iff (writes : node.Writes s centered paths markup parts) :
    Markup.BreaksOff markup ↔ ∃ part ∈ parts, Markup.BreaksOff part := by
  have single : ∀ {t : Text}, '\n' ∉ t →
      (Markup.BreaksOff t ↔ ∃ part ∈ [], Markup.BreaksOff part) :=
    fun absent => iff_of_false (mt Markup.BreaksOff.lineFeed absent) (by simp)
  cases writes with
  | centeredText lone filled =>
      have opens : Markup.isWall "<center>".toList = true := by decide
      have closes : Markup.isWall "</center>".toList = true := by decide
      rw [Markup.breaksOff_before_iff closes, Markup.breaksOff_behind_iff opens,
        Markup.breaksOff_encodeText_iff]
      simp
  | coloredSpan plain keeps colored lone =>
      rw [Color.breaksOff_markup_iff (by decide) (by decide)]
      simp
  | coloredFont keeps colored lone =>
      rw [Color.breaksOff_markup_iff (by decide) (by decide)]
      simp
  | @sizedImage _ attributes _ plain addressed sized =>
      have kept : ∀ name, ∀ l ∈ Image.keptLength s attributes name, '\n' ∉ l :=
        fun _ _ length => Image.notMem_keptLength length rfl
      rw [Image.breaksOff_sizedTag_iff (kept "width") (kept "height")]
      simp
  | alignedParagraph aligned filled =>
      refine single ?_
      simp only [List.mem_append, not_or]
      refine ⟨⟨⟨⟨by decide, ?_⟩, by decide⟩, Markup.lineFeed_notMem_oneLine _⟩, by decide⟩
      rcases (Paragraph.of_form_aligned aligned).1 with rfl | rfl <;> decide
  | passed rule => exact single (Markup.lineFeed_notMem_oneLine _)
  | drawing visible stays unstyled =>
      refine single ?_
      simp only [List.mem_append, not_or]
      exact ⟨⟨by decide, Markup.lineFeed_notMem_oneLine _⟩, by decide⟩

/-- An element that is written as raw markup is written as this markup alone, and the markup has a
blank line exactly if one of the texts of the document that are put into it has: a centred or
coloured text, a colour or a style, or the address or label of an image with a size. Markup that is
passed through has none. -/
theorem markup_breaksOff_iff (writes : node.Writes s centered paths markup parts) :
    (∃ before after : Fragment, before.ink = [] ∧ after.ink = [] ∧
      (draftNode s centered node).fill paths = before ++ Fragment.ofText markup ++ after) ∧
    (Markup.BreaksOff markup ↔ ∃ part ∈ parts, Markup.BreaksOff part) :=
  ⟨writes.fragment, writes.breaksOff_iff⟩

/-- A key with a blank line in it. -/
def brokenKey : Node :=
  .element .html "kbd" [] [.text "a\n\nb".toList]

/-- A key whose text is parted by a blank line does not break off, as its text is collapsed. -/
theorem markup_breaksOff_iff_brokenKey :
    brokenKey.Writes {} false [] "<kbd>a b</kbd>".toList [] ∧
      (∃ before after : Fragment, before.ink = [] ∧ after.ink = [] ∧
        (draftNode {} false brokenKey).fill [] =
          before ++ Fragment.ofText "<kbd>a b</kbd>".toList ++ after) ∧
      ¬Markup.BreaksOff "<kbd>a b</kbd>".toList := by
  have line : Markup.oneLine (Markup.outer (shown false brokenKey)) = "<kbd>a b</kbd>".toList := by
    rfl
  have rule : Rule.ofName "kbd" = .raw .inline := rfl
  have writes : brokenKey.Writes {} false [] "<kbd>a b</kbd>".toList [] := line ▸ .passed rule
  obtain ⟨written, breaks⟩ := markup_breaksOff_iff writes
  exact ⟨writes, written, fun broken => by simpa using breaks.mp broken⟩

/-- A centred text with a blank line in it. -/
def brokenCentered : Node :=
  .element .html "center" [] [.text "a\n\nb".toList]

/-- The text of a centred element is not collapsed, and breaks off. -/
theorem brokenCentered_breaksOff :
    brokenCentered.Writes {} false [] "<center>a\n\nb</center>".toList ["a\n\nb".toList] ∧
      (draftNode {} false brokenCentered).fill [] =
        Fragment.blockText "<center>a\n\nb</center>".toList ∧
      Markup.BreaksOff "<center>a\n\nb</center>".toList := by
  have lone : Centered.loneText? brokenCentered.children = some "a\n\nb".toList := by rfl
  exact ⟨.centeredText lone (by decide), by rfl, [], nofun, by decide⟩

end Node
end ArticleMarkdown
