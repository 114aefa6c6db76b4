import ArticleMarkdown.Proofs.Asset.PlainPath
import ArticleMarkdown.Proofs.Markdown.Leaves
import ArticleMarkdown.Proofs.Markup.OneLine

/-!
# Links, images and markup

A link shows an address, an image shows the path of its file or its address, and some elements are
passed through as markup. What is written is quiet unless the path or the markup holds the mark; if
one does, the mark is mentioned.
-/

namespace ArticleMarkdown

open Node Text

namespace Link

private theorem not_infix_destination {address : Text} (clear : ¬markText <:+: address) :
    ¬markText <:+: destination address := by
  rw [destination]
  split
  · have opening : Severs markText ['<'] := by decide
    refine (opening.enclose (by decide : Severs markText ['>']) ?_).clear
    refine Severing.absent (fun c => ?_) clear
    split
    · exact .inr (by decide)
    · split
      · exact .inr (by decide)
      · exact .inl rfl
  · exact clear

/-- The end of a link to an address without the mark keeps apart what stands around it. -/
theorem severs_ending {address : Text} (clear : ¬markText <:+: address) :
    Severs markText (ending address) := by
  have opening : Severs markText [']', '('] := by decide
  exact opening.enclose (by decide : Severs markText [')']) (not_infix_destination clear)

/-- So does a link whose label and address do not hold the mark. -/
theorem severs_ofText {label address : Text} (clear : ¬markText <:+: label)
    (clear' : ¬markText <:+: address) : Severs markText (ofText label address) := by
  have opening : Severs markText ['['] := by decide
  refine opening.enclose (severs_ending clear') ?_
  refine Severing.absent (fun c => ?_) clear
  split
  · next bracket =>
    rw [Bool.or_eq_true, beq_iff_eq, beq_iff_eq] at bracket
    rcases bracket with rfl | rfl <;> exact .inr (by decide)
  · exact .inl rfl

end Link

namespace Image

/-- A character that a length may hold. -/
def isLengthChar (c : Char) : Bool :=
  isDecimalDigit c || c == '.' || isAsciiAlphanumeric c || c == '%'

private theorem isLengthChar_of_digits {t : Text} :
    ∀ c ∈ t.takeWhile isDecimalDigit, isLengthChar c = true := by
  intro c member
  rw [isLengthChar, List.mem_takeWhile_imp member]
  rfl

private theorem isLengthChar_of_number (t : Text) :
    ∀ c ∈ (spanNumber t).1, isLengthChar c = true := by
  unfold spanNumber
  simp only
  split
  · split
    · exact isLengthChar_of_digits
    · exact List.forall_mem_append.mpr
        ⟨isLengthChar_of_digits, List.forall_mem_cons.mpr ⟨rfl, isLengthChar_of_digits⟩⟩
  · exact isLengthChar_of_digits

private theorem isLengthChar_of_lower {unit : Text} (letters : unit.all isUnitChar = true) :
    ∀ c ∈ lower unit, isLengthChar c = true := by
  intro c member
  obtain ⟨d, within, rfl⟩ := List.mem_map.mp member
  have letter := List.all_eq_true.mp letters d within
  rw [isUnitChar, Bool.or_eq_true, beq_iff_eq] at letter
  rcases letter with letter | rfl
  · have plain := isAsciiAlphanumeric_lowerChar (c := d) (by rw [isAsciiAlphanumeric, letter]; rfl)
    simp [isLengthChar, plain]
  · rfl

/-- A length is made of the characters of lengths. -/
theorem isLengthChar_of_cssLength {raw length : Text} (found : cssLength? raw = some length) :
    ∀ c ∈ length, isLengthChar c = true := by
  simp only [cssLength?] at found
  split at found
  · cases found
  · next proper =>
    cases found
    rw [Bool.not_eq_true, Bool.or_eq_false_iff, Bool.not_eq_false'] at proper
    refine List.forall_mem_append.mpr ⟨isLengthChar_of_number _, ?_⟩
    split
    · exact List.all_eq_true.mp rfl
    · exact isLengthChar_of_lower proper.2

/-- A length lacks every character that no length may hold. -/
theorem notMem_cssLength {raw length : Text} (found : cssLength? raw = some length) {c : Char}
    (other : isLengthChar c = false) : c ∉ length := by
  intro member
  rw [isLengthChar_of_cssLength found c member] at other
  cases other

/-- The length that is kept of a dimension. -/
def keptLength (s : Settings) (attributes : List Attribute) (name : String) : Option Text :=
  if s.keepImageSizes then (Attribute.find? attributes name).bind cssLength? else none

/-- No other character gets into the length of an image. -/
theorem notMem_keptLength {s : Settings} {attributes : List Attribute} {name : String}
    {length : Text} (kept : length ∈ keptLength s attributes name) {c : Char}
    (other : isLengthChar c = false) : c ∉ length := by
  rw [keptLength] at kept
  split at kept
  · obtain ⟨raw, -, found⟩ := Option.bind_eq_some_iff.mp kept
    exact notMem_cssLength found other
  · cases kept

/-- The address that an image shows: the path of its file, or its own. -/
def shownAddress (s : Settings) (attributes : List Attribute) (paths : List Text) : Text :=
  let address := Text.trim (Attribute.valueOf attributes "src")
  if s.localizeAssets && !Asset.Sink.isSelfContained address then paths.headD [] else address

/-- An image that shows no formula and has an address is written with what is kept of its size. -/
theorem fill_draft {s : Settings} {attributes : List Attribute}
    (plain : Attribute.hasClass attributes formulaClass = false)
    (addressed : Text.trim (Attribute.valueOf attributes "src") ≠ []) (centered : Bool)
    (paths : List Text) :
    ∃ centers, (draft s centered attributes).fill paths =
      placed centers (markdown (shownAddress s attributes paths)
        (Text.trim (Attribute.valueOf attributes "alt"))
        (keptLength s attributes "width") (keptLength s attributes "height")) := by
  refine ⟨centered || (Attribute.find? attributes Node.centerMark).isSome || s.centerImages, ?_⟩
  simp only [draft, plain, List.isEmpty_eq_false_iff.mpr addressed, Bool.false_eq_true, if_false,
    shownAddress]
  cases s.localizeAssets && !Asset.Sink.isSelfContained (trim (Attribute.valueOf attributes "src"))
    <;> rfl

/-- The length of an image does not hold the mark. -/
theorem not_infix_length (s : Settings) (attributes : List Attribute) (key : String) :
    ∀ l ∈ keptLength s attributes key, ¬markText <:+: l :=
  fun _ kept => not_infix_of_notMem (c := '-') (by decide) (notMem_keptLength kept rfl)

/-- A declaration of a length and what follows it. -/
theorem not_infix_sizeStyle (property : String) {length : Option Text} {t : Text}
    (clear : ¬markText <:+: property.toList) (clear' : ∀ l ∈ length, ¬markText <:+: l)
    (clear'' : ¬markText <:+: t) : ¬markText <:+: sizeStyle property length ++ t := by
  intro held
  cases length with
  | none => exact clear'' held
  | some l =>
      simp only [sizeStyle, List.append_assoc, List.cons_append, List.nil_append] at held
      rcases infix_across_foreign (by decide) held with name | later
      · exact clear name
      · rcases infix_across_foreign (by decide) later with value | behind
        · exact clear' l rfl value
        · exact clear'' behind

/-- An image keeps apart what stands around it, if neither its address nor its words hold the mark.
-/
theorem severs_markdown {address alt : Text} {width height : Option Text}
    (address' : ¬markText <:+: address) (alt' : ¬markText <:+: alt)
    (width' : ∀ l ∈ width, ¬markText <:+: l) (height' : ∀ l ∈ height, ¬markText <:+: l) :
    Severs markText (markdown address alt width height) := by
  by_cases sized : (width.isSome || height.isSome) = true
  · have sizes :
        ¬markText <:+: sizeStyle "max-width" width ++ (sizeStyle "max-height" height ++ []) :=
      not_infix_sizeStyle "max-width" (by decide) width'
        (not_infix_sizeStyle "max-height" (by decide) height' (by decide))
    have style : Severs markText "\" style=\"".toList := by decide
    have middle : Severs markText "\" alt=\"".toList := by decide
    have opening : Severs markText "<img src=\"".toList := by decide
    have closing : Severs markText "\">".toList := by decide
    have styled := style.enclose closing sizes
    have labelled := middle.enclose styled (Markup.not_infix_encodeValue alt')
    have whole := opening.enclose labelled (Markup.not_infix_encodeValue address')
    rw [markdown, if_pos sized]
    unfold sizedTag
    simpa only [List.append_assoc, List.append_nil] using whole
  · have opening : Severs markText ['!'] := by decide
    rw [markdown, if_neg sized]
    exact opening.append (Link.severs_ofText alt' address')

/-- A placed image without the mark is quiet. -/
theorem quiet_placed (centered : Bool) {image : Text} (clear : ¬markText <:+: image) :
    (placed centered image).Quiet := by
  have space : Severs markText [' '] := by decide
  have whole := space.enclose space clear
  right
  cases centered <;> simpa [placed] using whole

end Image

namespace Raw

variable {node : Node}

/-- Raw markup without the mark is quiet. -/
theorem quiet_fragment (placement : Placement) (clear : ¬markText <:+: Markup.outer node) :
    (fragment placement node).Quiet := by
  have line : ¬markText <:+: Markup.oneLine (Markup.outer node) := by
    rwa [Markup.infix_oneLine_iff solid_markText (by decide)]
  simp only [fragment]
  split
  · exact .empty
  · cases placement with
    | block => exact .blockText line
    | inline => exact .inlineText line

/-- Raw markup shows the mark that it holds. -/
theorem mentions_fragment (placement : Placement) (held : markText <:+: Markup.outer node) :
    (fragment placement node).Mentions markText := by
  have line := (Markup.infix_oneLine_iff solid_markText (by decide)).mpr held
  simp only [fragment]
  split
  · next nothing =>
    rw [List.isEmpty_iff.mp nothing] at line
    exact absurd (List.infix_nil.mp line) solid_markText.filled
  · cases placement with
    | block => exact (Fragment.Mentions.ofText line).blocked
    | inline => exact (Fragment.Mentions.ofText line).inlined

end Raw

namespace Paragraph

/-- The mark of a table of contents is quiet. -/
theorem quiet_contents : contents.Quiet := by
  right
  decide

/-- An aligned paragraph is aligned to one of two sides, and shows no image. -/
theorem of_form_aligned {s : Settings} {attributes : List Attribute} {children : List Node}
    {side : Text} (aligned : form s attributes children = .aligned side) :
    (side = "center".toList ∨ side = "right".toList) ∧
      (subtrees children).any (Node.isElement "img") = false := by
  unfold form at aligned
  split at aligned
  · cases aligned
  split at aligned
  · split at aligned <;> cases aligned
  split at aligned
  · cases aligned
  split at aligned
  · split at aligned
    · next sides =>
      split at aligned
      · cases aligned
      · next imageless =>
        cases aligned
        rw [Bool.or_eq_true, beq_iff_eq, beq_iff_eq] at sides
        exact ⟨sides, Bool.eq_false_iff.mpr imageless⟩
    · cases aligned
  · cases aligned

/-- An aligned paragraph is quiet, if its text nodes do not hold the mark. -/
theorem quiet_aligned {s : Settings} {attributes : List Attribute} {children : List Node}
    {side : Text} (form' : form s attributes children = .aligned side)
    (unmentioned : Unmentioned markText children) (centered : Bool) :
    (aligned side (allShown centered children)).Quiet := by
  obtain ⟨sides, imageless⟩ := of_form_aligned form'
  have clear := unmentioned.not_infix_inner imageless centered
  rw [← Markup.infix_oneLine_iff solid_markText (by decide)] at clear
  simp only [aligned]
  split
  · exact .empty
  · have opening : Severs markText "<div style=\"text-align:".toList := by decide
    have middle : Severs markText ";\">".toList := by decide
    have closing : Severs markText "</div>".toList := by decide
    have named : ¬markText <:+: side := by
      rcases sides with rfl | rfl <;> decide
    have whole := (opening.enclose (middle.enclose closing clear) named).clear
    refine .blockText ?_
    simpa only [List.append_assoc] using whole

end Paragraph

namespace Text

private theorem hyphen_ne_base64Digit {n : Nat} (small : n < 64) : base64Digit n ≠ '-' := by
  decide +revert

private theorem hyphen_not_mem_base64 (body : Bytes) : '-' ∉ base64 body := by
  have digit : ∀ n shift, base64At n shift ≠ '-' :=
    fun n shift => hyphen_ne_base64Digit (Nat.mod_lt _ (by decide))
  fun_induction base64 body with
  | case1 a b c rest n ih => simp [ih, (digit _ _).symm]
  | case2 a b n => simp [(digit _ _).symm]
  | case3 a n => simp [(digit _ _).symm]
  | case4 => exact List.not_mem_nil

end Text

namespace Drawing

/-- A drawing that is embedded is quiet, as its markup is encoded. -/
theorem quiet_embedded (markup : Text) : (embedded markup).Quiet := by
  have opening : Severs markText "![](data:image/svg+xml;base64,".toList := by decide
  have clear : ¬markText <:+: base64 (utf8 markup) :=
    not_infix_of_notMem (by decide) (hyphen_not_mem_base64 _)
  rw [embedded, List.append_assoc]
  exact .blockText (opening.enclose (by decide : Severs markText [')']) clear).clear

private theorem severs_tags :
    Severs markText "<div align=\"center\">".toList ∧ Severs markText "</div>".toList := by decide

/-- A drawing that stays in place is quiet, if its markup does not hold the mark. -/
theorem quiet_inPlace {markup : Text} (clear : ¬markText <:+: markup) : (inPlace markup).Quiet := by
  obtain ⟨opening, closing⟩ := severs_tags
  rw [← Markup.infix_oneLine_iff solid_markText (by decide)] at clear
  rw [inPlace, List.append_assoc]
  exact .blockText (opening.enclose closing clear).clear

/-- A drawing that stays in place shows the mark that its markup holds. -/
theorem mentions_inPlace {markup : Text} (held : markText <:+: markup) :
    (inPlace markup).Mentions markText := by
  have line := (Markup.infix_oneLine_iff solid_markText (by decide)).mpr held
  refine (Fragment.Mentions.ofText ?_).blocked
  exact List.infix_append_of_infix_left (List.infix_append_of_infix_right line)

/-- The reference to a file of a drawing is quiet, if the path does not hold the mark. -/
theorem quiet_fileReference {path : Text} (clear : ¬markText <:+: path) :
    (fileReference path).Quiet := by
  have opening : Severs markText "![](".toList := by decide
  rw [fileReference, List.append_assoc]
  exact .blockText (opening.enclose (by decide : Severs markText [')']) clear).clear

/-- The reference to a file of a drawing shows the mark that the path holds. -/
theorem mentions_fileReference {path : Text} (held : markText <:+: path) :
    (fileReference path).Mentions markText :=
  (Fragment.Mentions.ofText
    (List.infix_append_of_infix_left (List.infix_append_of_infix_right held))).blocked

end Drawing
end ArticleMarkdown
