import ArticleMarkdown.Proofs.Html.Leaves
import ArticleMarkdown.Proofs.Markdown.RawMarkup
import ArticleMarkdown.Proofs.Text.Lines

/-!
# Markup around texts

A coloured text, a centred text and an image of a given size are written as markup around texts of
the document. No text breaks out of it: the markup is one element with just these texts as its
values and its content (`Formatted.isReadFrom`).
-/

namespace ArticleMarkdown

open Text Html

namespace Fragment

private theorem ofText_injective : Function.Injective ofText := by
  rintro (_ | ⟨c, s⟩) (_ | ⟨d, t⟩) same
  · rfl
  · cases same
  · cases same
  · cases same
    rfl

private theorem blockText_injective : Function.Injective blockText := by
  rintro (_ | ⟨c, s⟩) (_ | ⟨d, t⟩) same
  · rfl
  · cases same
  · cases same
  · cases same
    rfl

end Fragment

namespace Text

private theorem isSpace_of_isDecimalDigit {c : Char} (digit : isDecimalDigit c = true) :
    isSpace c = false := by
  simp only [isDecimalDigit, zeroDigits, List.any_cons, List.any_nil, Bool.or_false,
    Bool.or_eq_true, Bool.and_eq_true, decide_eq_true_eq] at digit
  simp only [isSpace, Bool.or_eq_false_iff, Bool.and_eq_false_iff, decide_eq_false_iff_not,
    beq_eq_false_iff_ne]
  omega

end Text

namespace Image

/-- The declaration of a length. -/
def declaration (property : String) (length : Text) : Text :=
  property.toList ++ ':' :: length

/-- The element of an image with bounds. -/
def sizedLeaf (address alt : Text) (width height : Option Text) : Leaf where
  name := "img"
  attributes := [("src", address), ("alt", alt),
    ("style", sizeStyle "max-width" width ++ sizeStyle "max-height" height)]
  content := none

variable {address alt : Text} {width height : Option Text}

private theorem splitOn_sizeStyle {property : String} {length : Option Text}
    (single : ';' ∉ property.toList)
    (single' : ∀ l ∈ length, ';' ∉ l) (t : Text) :
    splitOn ';' (sizeStyle property length ++ t) =
      (length.map (declaration property)).toList ++ splitOn ';' t := by
  cases length with
  | none => rfl
  | some l =>
      have alone : ';' ∉ declaration property l := by
        rw [declaration, List.mem_append, List.mem_cons]
        rintro (inName | colon | inLength)
        · exact single inName
        · exact absurd colon (by decide)
        · exact single' l rfl inLength
      have parts : sizeStyle property (some l) ++ t = declaration property l ++ ';' :: t := by
        simp [sizeStyle, declaration]
      rw [parts, splitOn_append_cons, splitOn_of_notMem alone]
      rfl

/-- What a declaration says of a property. -/
theorem findSome?_declaration {property other : String} {length : Option Text}
    (single : ':' ∉ property.toList) :
    (length.map (declaration property)).toList.findSome? (fun t =>
      (splitFirst? ':' t).bind fun (name, value) =>
        if eqIgnoringCase (trim name) other.toList then some (trim value) else none) =
      if eqIgnoringCase (trim property.toList) other.toList then length.map trim else none := by
  cases length with
  | none => simp
  | some l => simp [declaration, splitFirst?_append single]

/-- The style of the element declares its bounds and nothing else. -/
theorem styleProperty?_sizedLeaf (width' : ∀ l ∈ width, ';' ∉ l) (height' : ∀ l ∈ height, ';' ∉ l)
    (property : String) :
    Attribute.styleProperty? ((sizedLeaf address alt width height).attributes.map fun a =>
        ⟨.none, a.1, a.2⟩) property =
      ((if eqIgnoringCase "max-width".toList property.toList then width.map trim else none).or
        (if eqIgnoringCase "max-height".toList property.toList then height.map trim
        else none)) := by
  have address' : Attribute.sameName "src" "style" = false := by decide
  have alt' : Attribute.sameName "alt" "style" = false := by decide
  have own : Attribute.sameName "style" "style" = true := by decide
  have style : Attribute.valueOf ((sizedLeaf address alt width height).attributes.map fun a =>
      ⟨.none, a.1, a.2⟩) "style" =
        sizeStyle "max-width" width ++ (sizeStyle "max-height" height ++ []) := by
    simp [Attribute.valueOf, Attribute.find?, sizedLeaf, address', alt', own]
  have ends : (splitOn ';' []).findSome? (fun t => (splitFirst? ':' t).bind fun (name, value) =>
      if eqIgnoringCase (trim name) property.toList then some (trim value) else none) = none := rfl
  have widthName : trim "max-width".toList = "max-width".toList := by decide
  have heightName : trim "max-height".toList = "max-height".toList := by decide
  rw [Attribute.styleProperty?, style, splitOn_sizeStyle (by decide) width',
    splitOn_sizeStyle (by decide) height', List.findSome?_append, List.findSome?_append,
    findSome?_declaration (by decide), findSome?_declaration (by decide), widthName, heightName,
    ends, Option.or_none]

private theorem isSpace_of_isLengthChar {c : Char} (proper : isLengthChar c = true) :
    Text.isSpace c = false := by
  simp only [isLengthChar, Bool.or_eq_true, beq_iff_eq] at proper
  rcases proper with ((digit | rfl) | alphanumeric) | rfl
  · exact isSpace_of_isDecimalDigit digit
  · rfl
  · exact (FileName.alphanumeric_properties alphanumeric).1
  · rfl

/-- The length of a dimension has no space around it. -/
theorem trim_cssLength {raw length : Text} (found : cssLength? raw = some length) :
    trim length = length := by
  have proper := isLengthChar_of_cssLength found
  exact trim_of_edges
    (fun c first => isSpace_of_isLengthChar (proper c (List.mem_of_mem_head? first)))
    (fun c last => isSpace_of_isLengthChar (proper c (List.mem_of_getLast? last)))

private theorem isLengthChar_of_bound {dimension : Option Text} :
    ∀ l ∈ dimension.bind cssLength?, ∀ c ∈ l, isLengthChar c = true := by
  intro l kept
  obtain ⟨raw, -, found⟩ := Option.bind_eq_some_iff.mp kept
  exact isLengthChar_of_cssLength found

/-- The bounds that are read from the element are the lengths of the dimensions. -/
theorem bounds_sizedLeaf (address alt : Text) (width height : Option Text) :
    Attribute.styleProperty? ((sizedLeaf address alt (width.bind cssLength?)
        (height.bind cssLength?)).attributes.map fun a => ⟨.none, a.1, a.2⟩) "max-width" =
          width.bind cssLength? ∧
      Attribute.styleProperty? ((sizedLeaf address alt (width.bind cssLength?)
        (height.bind cssLength?)).attributes.map fun a => ⟨.none, a.1, a.2⟩) "max-height" =
          height.bind cssLength? := by
  have single : ∀ dimension : Option Text, ∀ l ∈ dimension.bind cssLength?, ';' ∉ l := by
    intro dimension l kept
    obtain ⟨raw, -, found⟩ := Option.bind_eq_some_iff.mp kept
    exact notMem_cssLength found rfl
  have trimmed : ∀ dimension : Option Text,
      (dimension.bind cssLength?).map trim = dimension.bind cssLength? := by
    intro dimension
    refine Option.map_congr (fun l kept => ?_) |>.trans Option.map_id'
    obtain ⟨raw, -, found⟩ := Option.bind_eq_some_iff.mp kept
    exact trim_cssLength found
  have own : eqIgnoringCase "max-width".toList "max-width".toList = true := by decide
  have own' : eqIgnoringCase "max-height".toList "max-height".toList = true := by decide
  have apart : ¬eqIgnoringCase "max-height".toList "max-width".toList = true := by decide
  have apart' : ¬eqIgnoringCase "max-width".toList "max-height".toList = true := by decide
  rw [styleProperty?_sizedLeaf (single width) (single height),
    styleProperty?_sizedLeaf (single width) (single height), if_pos own, if_neg apart,
    if_neg apart', if_pos own', Option.or_none, Option.none_or, trimmed, trimmed]
  exact ⟨rfl, rfl⟩

private theorem plain_sizeStyle {property : String} {length : Option Text}
    (named : ∀ c ∈ property.toList, c ∉ ['&', '<', '>', '"'])
    (proper : ∀ l ∈ length, ∀ c ∈ l, isLengthChar c = true) :
    ∀ c ∈ sizeStyle property length, c ∉ ['&', '<', '>', '"'] := by
  have foreign : ∀ c ∈ ['&', '<', '>', '"'], isLengthChar c = false :=
    List.all_iff_forall_prop.mp (by decide)
  cases length with
  | none => exact fun c member => absurd member List.not_mem_nil
  | some l =>
      refine List.forall_mem_append.mpr ⟨List.forall_mem_append.mpr ⟨named, ?_⟩,
        List.all_iff_forall_prop.mp (by decide)⟩
      refine List.forall_mem_cons.mpr ⟨by decide, fun c member special => ?_⟩
      have other := foreign c special
      rw [proper l rfl c member] at other
      cases other

private theorem write_sized (address alt style : Text) :
    Leaf.write ⟨"img", [("src", address), ("alt", alt), ("style", style)], none⟩ =
      "<img src=\"".toList ++ address ++ "\" alt=\"".toList ++ alt ++ "\" style=\"".toList ++
        style ++
        "\">".toList := by
  have opens : "<img src=\"".toList = '<' :: "img".toList ++ (' ' :: "src".toList ++ ['=', '"']) :=
    rfl
  have labels : "\" alt=\"".toList = '"' :: ' ' :: "alt".toList ++ ['=', '"'] := rfl
  have styles : "\" style=\"".toList = '"' :: ' ' :: "style".toList ++ ['=', '"'] := rfl
  have closes : "\">".toList = ['"', '>'] := rfl
  rw [opens, labels, styles, closes]
  simp only [Leaf.write, Leaf.writeAttribute, Leaf.writeContent, List.flatMap_cons,
    List.flatMap_nil, List.append_assoc, List.cons_append, List.nil_append]

/-- An image with bounds is written as its element. -/
theorem sizedTag_eq_markup (width' : ∀ l ∈ width, ∀ c ∈ l, isLengthChar c = true)
    (height' : ∀ l ∈ height, ∀ c ∈ l, isLengthChar c = true) :
    sizedTag address alt width height = (sizedLeaf address alt width height).markup := by
  have widthName : ∀ c ∈ "max-width".toList, c ∉ ['&', '<', '>', '"'] :=
    List.all_iff_forall_prop.mp (by decide)
  have heightName : ∀ c ∈ "max-height".toList, c ∉ ['&', '<', '>', '"'] :=
    List.all_iff_forall_prop.mp (by decide)
  have style := Markup.encodeValue_of_plain (List.forall_mem_append.mpr
    ⟨plain_sizeStyle widthName width', plain_sizeStyle heightName height'⟩)
  have escaped : (sizedLeaf address alt width height).escaped =
      ⟨"img", [("src", Markup.encodeValue address), ("alt", Markup.encodeValue alt),
        ("style", sizeStyle "max-width" width ++ sizeStyle "max-height" height)], none⟩ :=
    congrArg (fun t => Leaf.mk "img" [("src", Markup.encodeValue address),
      ("alt", Markup.encodeValue alt), ("style", t)] none) style
  rw [Leaf.markup, escaped, write_sized, ← List.append_assoc]
  rfl

private theorem proper_sizedLeaf : (sizedLeaf address alt width height).Proper where
  name := (by decide : Leaf.isWord "img".toList = true)
  keys := List.forall_mem_cons.mpr ⟨(by decide : Leaf.isWord "src".toList = true),
    List.forall_mem_cons.mpr ⟨(by decide : Leaf.isWord "alt".toList = true),
      List.forall_mem_singleton.mpr (by decide : Leaf.isWord "style".toList = true)⟩⟩
  distinct := (by decide : ["src", "alt", "style"].Nodup)

end Image

namespace Color

/-- The element of a coloured text. -/
def leaf (name key : String) (value text : Text) : Leaf where
  name := name
  attributes := [(key, value)]
  content := some text

private theorem proper_leaf {name key : String} (word : Leaf.isWord name.toList = true)
    (word' : Leaf.isWord key.toList = true) (value text : Text) :
      (leaf name key value text).Proper where
  name := word
  keys := List.forall_mem_singleton.mpr word'
  distinct := List.nodup_singleton key

private theorem element_eq (name key : String) (value text : Text) :
    element name key value text = Fragment.ofText (leaf name key value text).markup := by
  rw [element]
  refine congrArg Fragment.ofText ?_
  simp [leaf, Leaf.markup, Leaf.escaped, Leaf.mapTexts, Leaf.write, Leaf.writeAttribute,
    Leaf.writeContent]

private theorem eq_of_loneText? {children : List Node} {t : Text}
    (lone : loneText? children = some t) :
    ∃ content, children = [.text content] ∧ t = trim content := by
  rw [loneText?.eq_def] at lone
  split at lone
  · next content =>
    split at lone
    · cases lone
    · exact ⟨content, rfl, (Option.some.inj lone).symm⟩
  · cases lone

private theorem eq_markup_of_loneText? {name key : String} {value content markup : Text}
    (written : (loneText? [.text content]).map (element name key value) =
      some (Fragment.ofText markup)) :
    markup = (leaf name key value (trim content)).markup := by
  obtain ⟨t, lone, same⟩ := Option.map_eq_some_iff.mp written
  obtain ⟨_, children, rfl⟩ := eq_of_loneText? lone
  cases children
  rw [element_eq] at same
  exact (Fragment.ofText_injective same).symm

end Color

namespace Centered

/-- The element of a centred text. -/
def leaf (t : Text) : Leaf where
  name := "center"
  attributes := []
  content := some t

private theorem proper_leaf (t : Text) : (leaf t).Proper where
  name := (by decide : Leaf.isWord "center".toList = true)
  keys := List.forall_mem_nil _
  distinct := List.nodup_nil

private theorem eq_of_loneText? {children : List Node} {t : Text}
    (lone : loneText? children = some t) :
    ∃ content, children = [.text content] ∧ t = trim content := by
  rw [loneText?.eq_def] at lone
  split at lone
  · next content => exact ⟨content, rfl, (Option.some.inj lone).symm⟩
  · cases lone

private theorem text_eq {t : Text} (filled : t ≠ []) :
    text t = Fragment.blockText (leaf t).markup := by
  rw [text, if_neg (mt List.isEmpty_iff.mp filled)]
  refine congrArg Fragment.blockText ?_
  simp [leaf, Leaf.markup, Leaf.escaped, Leaf.mapTexts, Leaf.write, Leaf.writeContent,
    Markup.endTag]

end Centered

/-- Markup that is formatted around texts of the document, and the element that it is to be. -/
inductive Formatted : Text → Leaf → Prop
  | image (address alt : Text) (width height : Option Text) :
      Formatted
        (Image.sizedTag address alt (width.bind Image.cssLength?) (height.bind Image.cssLength?))
        (Image.sizedLeaf address alt (width.bind Image.cssLength?) (height.bind Image.cssLength?))
  | span {attributes : List Attribute} {content markup : Text}
      (written : Color.span? attributes [.text content] = some (Fragment.ofText markup)) :
      Formatted markup
        (Color.leaf "span" "style" (trim (Attribute.valueOf attributes "style")) (trim content))
  | font {attributes : List Attribute} {content markup : Text}
      (written : Color.font? attributes [.text content] = some (Fragment.ofText markup)) :
      Formatted markup
        (Color.leaf "font" "color" (trim (Attribute.valueOf attributes "color")) (trim content))
  | center {content markup : Text}
      (written : Centered.text (trim content) = Fragment.blockText markup) :
      Formatted markup (Centered.leaf (trim content))

namespace Formatted

variable {markup : Text} {leaf : Leaf}

private theorem proper (formatted : Formatted markup leaf) : leaf.Proper := by
  cases formatted with
  | image => exact Image.proper_sizedLeaf
  | span => exact Color.proper_leaf (by decide) (by decide) _ _
  | font => exact Color.proper_leaf (by decide) (by decide) _ _
  | center => exact Centered.proper_leaf _

private theorem eq_markup (formatted : Formatted markup leaf) : markup = leaf.markup := by
  cases formatted with
  | image => exact Image.sizedTag_eq_markup Image.isLengthChar_of_bound Image.isLengthChar_of_bound
  | @span attributes content _ written =>
      rw [Color.span?] at written
      split at written
      · exact Color.eq_markup_of_loneText? written
      · cases written
  | @font attributes content _ written =>
      rw [Color.font?] at written
      split at written
      · cases written
      · exact Color.eq_markup_of_loneText? written
  | @center content _ written =>
      by_cases filled : trim content = []
      · rw [filled] at written
        cases markup <;> cases written
      · rw [Centered.text_eq filled] at written
        exact (Fragment.blockText_injective written).symm

/-- The bounds of an image are made of digits, points, letters and percent signs. -/
theorem bounds (formatted : Formatted markup leaf) (named : leaf.name = "img") :
    ∀ property ∈ ["max-width", "max-height"],
      ∀ length ∈ Attribute.styleProperty? (leaf.attributes.map fun a => ⟨.none, a.1, a.2⟩) property,
        ∀ c ∈ length, Image.isLengthChar c = true := by
  cases formatted with
  | image address alt width height =>
      obtain ⟨first, second⟩ := Image.bounds_sizedLeaf address alt width height
      refine List.forall_mem_cons.mpr ⟨?_, List.forall_mem_singleton.mpr ?_⟩
      · rw [first]
        exact Image.isLengthChar_of_bound
      · rw [second]
        exact Image.isLengthChar_of_bound
  | span => exact absurd named (by decide : "span" ≠ "img")
  | font => exact absurd named (by decide : "font" ≠ "img")
  | center => exact absurd named (by decide : "center" ≠ "img")

/-- Where an element is written as markup around texts of the document, the markup is formatted, and
these texts are values or the text of its element. -/
theorem of_writes {s : Settings} {centered : Bool} {paths parts : List Text} {node : Node}
    (writes : node.Writes s centered paths markup parts) (put : parts ≠ []) :
    ∃ leaf, Formatted markup leaf ∧
      ∀ part ∈ parts, part ∈ leaf.attributes.map (·.2) ∨ part ∈ leaf.content := by
  cases writes with
  | centeredText lone filled =>
      obtain ⟨content, rfl, rfl⟩ := Centered.eq_of_loneText? lone
      have written : Centered.text (trim content) = Fragment.blockText _ :=
        if_neg (mt List.isEmpty_iff.mp filled)
      exact ⟨_, .center written, List.forall_mem_singleton.mpr (.inr rfl)⟩
  | @coloredSpan _ attributes _ _ plain keeps colored lone =>
      obtain ⟨content, rfl, rfl⟩ := Color.eq_of_loneText? lone
      have written : Color.span? attributes [.text content] = some (Color.element "span" "style"
          (trim (Attribute.valueOf attributes "style")) (trim content)) := by
        rw [Color.span?, if_pos colored, lone]
        rfl
      exact ⟨_, .span written, by simp [Color.leaf]⟩
  | @coloredFont _ attributes _ _ keeps colored lone =>
      obtain ⟨content, rfl, rfl⟩ := Color.eq_of_loneText? lone
      have written : Color.font? attributes [.text content] = some (Color.element "font" "color"
          (trim (Attribute.valueOf attributes "color")) (trim content)) := by
        rw [Color.font?, lone]
        exact if_neg (mt List.isEmpty_iff.mp colored)
      exact ⟨_, .font written, by simp [Color.leaf]⟩
  | @sizedImage _ attributes =>
      have kept : ∀ name, Image.keptLength s attributes name =
          (if s.keepImageSizes then Attribute.find? attributes name else none).bind
            Image.cssLength? := by
        intro name
        rw [Image.keptLength]
        split <;> rfl
      rw [kept, kept]
      exact ⟨_, .image _ _ _ _, by simp [Image.sizedLeaf]⟩
  | alignedParagraph => exact absurd rfl put
  | passed => exact absurd rfl put
  | drawing => exact absurd rfl put

/-- No text breaks out of the markup around it, whatever it holds: the markup is read as exactly the
one element, its values and its text are those of the document, and the bounds of an image are made
of digits, points, letters and percent signs. And where an element is written as markup around texts
of the document, it is such markup that stands in the fragment of the element, and these texts are
values or the text of what is read from it. -/
theorem isReadFrom :
    (∀ {markup : Text} {leaf : Leaf}, Formatted markup leaf → leaf.IsReadFrom markup ∧
      (leaf.name = "img" → ∀ property ∈ ["max-width", "max-height"],
        ∀ length ∈
            Attribute.styleProperty? (leaf.attributes.map fun a => ⟨.none, a.1, a.2⟩) property,
          ∀ c ∈ length, Image.isLengthChar c = true)) ∧
    ∀ {s : Settings} {centered : Bool} {paths parts : List Text} {node : Node} {markup : Text},
      node.Writes s centered paths markup parts → parts ≠ [] →
        (∃ before after : Fragment, before.ink = [] ∧ after.ink = [] ∧
          (draftNode s centered node).fill paths = before ++ Fragment.ofText markup ++ after) ∧
        ∃ leaf, Formatted markup leaf ∧
          ∀ part ∈ parts, part ∈ leaf.attributes.map (·.2) ∨ part ∈ leaf.content := by
  refine ⟨fun formatted => ⟨?_, formatted.bounds⟩, fun writes put => ?_⟩
  · rw [formatted.eq_markup]
    exact Leaf.isReadFrom_markup formatted.proper
  · exact ⟨writes.fragment, of_writes writes put⟩

/-- An image whose address and label hold characters with a meaning. -/
def quotedImage : Leaf where
  name := "img"
  attributes := [("src", "a.png?x&y".toList), ("alt", "say \"hi\"".toList),
    ("style", "max-height:2px;".toList)]
  content := none

/-- A coloured span whose style holds a quote, around a text that holds a tag. -/
def quotedSpan : Node :=
  .element .html "span" [⟨.none, "style", "color:red;x:\"".toList⟩] [.text " a <b> ".toList]

/-- Each of the four kinds of markup, around texts that hold characters with a meaning. -/
theorem isReadFrom_quotes :
    (quotedImage.IsReadFrom
        "<img src=\"a.png?x&amp;y\" alt=\"say &quot;hi&quot;\" style=\"max-height:2px;\">".toList ∧
      Attribute.styleProperty? (quotedImage.attributes.map fun a => ⟨.none, a.1, a.2⟩)
        "max-height" = some "2px".toList ∧
      ∀ c ∈ "2px".toList, Image.isLengthChar c = true) ∧
    (quotedSpan.Writes { keepColors := true } false []
        "<span style=\"color:red;x:&quot;\">a &lt;b&gt;</span>".toList
        ["color:red;x:\"".toList, "a <b>".toList] ∧
      ∃ leaf : Leaf, leaf.IsReadFrom
          "<span style=\"color:red;x:&quot;\">a &lt;b&gt;</span>".toList ∧
        ∀ part ∈ ["color:red;x:\"".toList, "a <b>".toList],
          part ∈ leaf.attributes.map (·.2) ∨ part ∈ leaf.content) ∧
    (Color.leaf "font" "color" "\">".toList "a".toList).IsReadFrom
      "<font color=\"&quot;&gt;\">a</font>".toList ∧
    (Centered.leaf "</center>&amp;".toList).IsReadFrom
      "<center>&lt;/center&gt;&amp;amp;</center>".toList := by
  obtain ⟨reads, writes⟩ := isReadFrom
  have image : Formatted _ quotedImage :=
    .image "a.png?x&y".toList "say \"hi\"".toList none (some "2".toList)
  have declared : Attribute.styleProperty? (quotedImage.attributes.map fun a => ⟨.none, a.1, a.2⟩)
      "max-height" = some "2px".toList := by decide
  have span : quotedSpan.Writes { keepColors := true } false []
      "<span style=\"color:red;x:&quot;\">a &lt;b&gt;</span>".toList
      ["color:red;x:\"".toList, "a <b>".toList] :=
    .coloredSpan (t := "a <b>".toList) (by decide) rfl (by decide) (by decide)
  have font : Formatted "<font color=\"&quot;&gt;\">a</font>".toList
      (Color.leaf "font" "color" "\">".toList "a".toList) :=
    @Formatted.font [⟨.none, "color", "\">".toList⟩] "a".toList _ (by decide)
  have center : Formatted "<center>&lt;/center&gt;&amp;amp;</center>".toList
      (Centered.leaf "</center>&amp;".toList) :=
    @Formatted.center "</center>&amp;".toList _ (by decide)
  obtain ⟨-, leaf, formatted, parts⟩ := writes span (List.cons_ne_nil _ _)
  exact ⟨⟨(reads image).1, declared, (reads image).2 rfl "max-height" (by decide) _ declared⟩,
    ⟨span, leaf, (reads formatted).1, parts⟩, (reads font).1, (reads center).1⟩

end Formatted
end ArticleMarkdown
