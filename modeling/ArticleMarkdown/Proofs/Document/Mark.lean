import ArticleMarkdown.Document.Node
import ArticleMarkdown.Document.Markup
import ArticleMarkdown.Proofs.Document.Unmentioned
import ArticleMarkdown.Proofs.Fragment.Origins

/-!
# The mark of centred images in markup

In the markup of a document that does not mention the mark of centred images, the mark shows up
exactly if the images of the document are marked and the start tag of one of them is written
(`Unmentioned.infix_outer_shown`).
-/

namespace ArticleMarkdown

/-- The mark as it is read. -/
def Node.markText : Text :=
  Node.centerMark.toList

open Node (markText)

namespace Text

/-- The mark is made of lasting characters. -/
theorem markText_lasting : ∀ c ∈ markText, isLasting c = true :=
  List.all_eq_true.mp (by decide)

/-- The mark is not closed off by punctuation. -/
theorem unclosed_markText : markText.Unclosed :=
  ⟨⟨by decide, of_any_eq_false (by decide)⟩, of_any_eq_false (by decide)⟩

/-- The mark is solid. -/
theorem solid_markText : markText.Solid :=
  unclosed_markText.toSolid

end Text

namespace Markup

open Text

private theorem severing_escapeChar (quoted : Bool) : Severing markText (escapeChar quoted) := by
  intro c
  rw [escapeChar]
  iterate 5
    split
    · exact .inr (by decide)
  exact .inl rfl

/-- Escaping a text does not make the mark. -/
theorem not_infix_encodeText {t : Text} (clear : ¬markText <:+: t) :
    ¬markText <:+: encodeText t := by
  refine Severing.absent (fun c => ?_) clear
  iterate 3
    split
    · exact .inr (by decide)
  exact .inl rfl

/-- Escaping a value does not make the mark. -/
theorem not_infix_encodeValue {t : Text} (clear : ¬markText <:+: t) :
    ¬markText <:+: encodeValue t := by
  refine Severing.absent (fun c => ?_) clear
  iterate 4
    split
    · exact .inr (by decide)
  exact .inl rfl

private theorem not_infix_attributeName {a : Attribute} (clear : ¬markText <:+: a.name.toList) :
    ¬markText <:+: attributeName a := by
  have behind : ∀ before : Text, Severs markText before →
      ¬markText <:+: before ++ a.name.toList :=
    fun _ severs held => clear (severs.infix_behind_iff.mp held)
  rw [attributeName]
  cases a.space with
  | none => exact clear
  | xlink => exact behind "xlink:".toList (by decide)
  | xml => exact behind "xml:".toList (by decide)
  | other uri => exact behind "unknown_namespace:".toList (by decide)
  | xmlns =>
      simp only
      split
      · exact clear
      · exact behind "xmlns:".toList (by decide)

private theorem severs_writeAttribute {a : Attribute} (name : ¬markText <:+: a.name.toList)
    (value : ¬markText <:+: a.value) : Severs markText (writeAttribute a) := by
  have escaped := (severing_escapeChar true).absent value
  have opening : Severs markText ['=', '"'] := by decide
  have quoted := opening.enclose (by decide : Severs markText ['"']) escaped
  have space : Severs markText [' '] := by decide
  have whole := space.enclose quoted (not_infix_attributeName name)
  simpa [writeAttribute, escapeValue] using whole

private theorem severs_startTag {name : String} {attributes : List Attribute}
    (named : ¬markText <:+: name.toList)
    (clear : ∀ a ∈ attributes, ¬markText <:+: a.name.toList ∧ ¬markText <:+: a.value) :
    Severs markText (startTag name attributes) := by
  have ending : Severs markText (attributes.flatMap writeAttribute ++ ['>']) := by
    induction attributes with
    | nil => decide
    | cons a rest ih =>
        obtain ⟨here, later⟩ := List.forall_mem_cons.mp clear
        rw [List.flatMap_cons, List.append_assoc]
        exact (severs_writeAttribute here.1 here.2).append (ih later)
  have opening : Severs markText ['<'] := by decide
  simpa [startTag] using opening.enclose ending named

private theorem severs_endTag {name : String} (named : ¬markText <:+: name.toList) :
    Severs markText (endTag name) := by
  have opening : Severs markText ['<', '/'] := by decide
  simpa [endTag] using opening.enclose (by decide : Severs markText ['>']) named

/-- A comment starts and ends with hyphens, as the mark holds them; but no occurrence of the mark
starts or ends there. -/
theorem severs_comment {content : Text} (clear : ¬markText <:+: content) :
    Severs markText ("<!--".toList ++ content ++ "-->".toList) where
  first := ⟨'<', rfl, by decide⟩
  last := ⟨'>', by rw [List.getLast?_append]; rfl, by decide⟩
  clear := by
    intro held
    have front := infix_of_append_of_getLast? (c := 'r') rfl (by decide) held
    exact clear (infix_of_append_of_head? (c := 'd') rfl (by decide) front)

end Markup

namespace Node

open Markup Text

mutual

/-- Markup is covered by the text nodes of its document. -/
theorem covered_writeNode (raw hidden : Bool) :
    ∀ node, Unmentioned markText [node] →
      Covered markText (texts [node]) (writeNode raw hidden node)
  | .text content, _ => by
      have here := Covered.self markText_lasting content
      rw [texts_text, writeNode.eq_def]
      simp only
      split
      · exact here
      · exact here.escape (severing_escapeChar false)
  | .element space name attributes children, unmentioned => by
      have start := severs_startTag unmentioned.name unmentioned.attributes
      have ending := severs_endTag unmentioned.name
      have content := covered_writeNodes (holdsRawText space name)
        (hidden || isVoid space name) children unmentioned.children
      have opened := (Covered.of_severs start []).append content
      rw [texts_element, writeNode.eq_def]
      simp only
      split
      · exact content
      · split
        · exact opened
        · have closed := opened.append (Covered.of_severs ending [])
          rwa [List.append_nil] at closed
  | .document children, unmentioned => by
      rw [texts_document, writeNode.eq_def]
      exact covered_writeNodes false hidden children unmentioned.children
  | .comment content, unmentioned => by
      rw [writeNode.eq_def]
      exact .of_severs (severs_comment (unmentioned.strings _ List.mem_cons_self)) _
  | .doctype name, unmentioned => by
      have opening : Severs markText "<!DOCTYPE ".toList := by decide
      have clear := unmentioned.strings _ List.mem_cons_self
      rw [writeNode.eq_def]
      simp only [List.append_assoc]
      exact .of_severs (opening.enclose (by decide) clear) _
  | .instruction target data, unmentioned => by
      have opening : Severs markText "<?".toList := by decide
      have middle : Severs markText [' '] := by decide
      have target' : ¬markText <:+: target := unmentioned.strings _ (by simp [strings])
      have data' : ¬markText <:+: data := unmentioned.strings _ (by simp [strings])
      have ending := middle.enclose (by decide : Severs markText ['>']) data'
      have whole := opening.enclose ending target'
      rw [writeNode.eq_def]
      refine .of_severs ?_ _
      simpa using whole

private theorem covered_writeNodes (raw hidden : Bool) :
    ∀ nodes, Unmentioned markText nodes →
      Covered markText (texts nodes) (writeNodes raw hidden nodes)
  | [], _ => by
      rw [writeNodes.eq_def]
      exact .nil _ _
  | node :: rest, unmentioned => by
      rw [texts_cons, writeNodes.eq_def]
      exact (covered_writeNode raw hidden node unmentioned.head).append
        (covered_writeNodes raw hidden rest unmentioned.tail)

end

mutual

/-- Whether the markup of a node has the start tag of an image; `hidden` tells that tags are not
shown. -/
def showsImage (hidden : Bool) : Node → Bool
  | .element space name _ children =>
    (!hidden && Attribute.sameName name "img") || showImages (hidden || isVoid space name) children
  | .document children => showImages hidden children
  | .text _ => false
  | .comment _ => false
  | .doctype _ => false
  | .instruction _ _ => false

/-- Whether the markup of nodes has the start tag of an image. -/
def showImages (hidden : Bool) : List Node → Bool
  | [] => false
  | node :: rest => showsImage hidden node || showImages hidden rest

end

mutual

/-- Marked images that show no start tag change nothing. -/
theorem writeNode_markImages (raw hidden : Bool) :
    ∀ node, showsImage hidden node = false →
      writeNode raw hidden (markImages node) = writeNode raw hidden node
  | .element space name attributes children, unshown => by
      rw [showsImage, Bool.or_eq_false_iff] at unshown
      have content := writeNodes_markAllImages (holdsRawText space name)
        (hidden || isVoid space name) children unshown.2
      rw [markImages.eq_def, writeNode.eq_def,
        writeNode.eq_def raw hidden (.element _ _ _ children)]
      simp only [content]
      cases shown : hidden with
      | true => rfl
      | false =>
          rw [shown, Bool.not_false, Bool.true_and] at unshown
          rw [markAttributes, unshown.1]
          rfl
  | .document children, unshown => by
      rw [showsImage] at unshown
      rw [markImages.eq_def, writeNode.eq_def, writeNode.eq_def raw hidden (.document children)]
      exact writeNodes_markAllImages false hidden children unshown
  | .text _, _ | .comment _, _ | .doctype _, _ | .instruction _ _, _ => by rw [markImages]

private theorem writeNodes_markAllImages (raw hidden : Bool) :
    ∀ nodes, showImages hidden nodes = false →
      writeNodes raw hidden (markAllImages nodes) = writeNodes raw hidden nodes
  | [], _ => by rw [markAllImages]
  | node :: rest, unshown => by
      rw [showImages, Bool.or_eq_false_iff] at unshown
      rw [markAllImages, writeNodes, writeNodes, writeNode_markImages raw hidden node unshown.1,
        writeNodes_markAllImages raw hidden rest unshown.2]

end

mutual

/-- Marking images keeps the names of the elements. -/
theorem any_isElement_markImages (name : String) :
    ∀ node, (subtree (markImages node)).any (isElement name) = (subtree node).any (isElement name)
  | .element space own attributes children => by
      rw [markImages, subtree_element, subtree_element, List.any_cons, List.any_cons,
        any_isElement_markAllImages name children]
      rfl
  | .document children => by
      rw [markImages, subtree_document, subtree_document, List.any_cons, List.any_cons,
        any_isElement_markAllImages name children]
      rfl
  | .text _ | .comment _ | .doctype _ | .instruction _ _ => by rw [markImages]

/-- Marking images changes no name of an element. -/
theorem any_isElement_markAllImages (name : String) :
    ∀ nodes, (subtrees (markAllImages nodes)).any (isElement name) =
      (subtrees nodes).any (isElement name)
  | [] => by rw [markAllImages]
  | node :: rest => by
      rw [markAllImages, subtrees_cons, subtrees_cons, List.any_append, List.any_append,
        any_isElement_markImages name node, any_isElement_markAllImages name rest]

end

/-- Marking images keeps the names of elements. -/
theorem any_isElement_allShown (name : String) (centered : Bool) (nodes : List Node) :
    (subtrees (allShown centered nodes)).any (isElement name) =
      (subtrees nodes).any (isElement name) := by
  rw [allShown]
  split
  · exact any_isElement_markAllImages name nodes
  · rfl

private theorem infix_writeAttribute (a : Attribute) : a.name.toList <:+: writeAttribute a := by
  have inName : a.name.toList <:+: attributeName a := (List.suffix_append _ _).isInfix
  rw [writeAttribute]
  iterate 2 refine List.infix_append_of_infix_left ?_
  exact List.infix_cons inName

/-- A start tag shows the name of an attribute that is set. -/
theorem infix_startTag_set (name key : String) (value : Text) (attributes : List Attribute) :
    key.toList <:+: startTag name (Attribute.set key value attributes) := by
  have inTags : key.toList <:+: (Attribute.set key value attributes).flatMap writeAttribute := by
    induction attributes with
    | nil =>
        rw [Attribute.set, List.flatMap_singleton]
        exact infix_writeAttribute ⟨.none, key, value⟩
    | cons a rest ih =>
        rw [Attribute.set]
        split
        · next same =>
          rw [List.flatMap_cons, ← beq_iff_eq.mp same]
          exact List.infix_append_of_infix_left (infix_writeAttribute { a with value })
        · rw [List.flatMap_cons]
          exact List.infix_append_of_infix_right ih
  rw [startTag]
  exact List.infix_append_of_infix_left (List.infix_cons (List.infix_append_of_infix_right inTags))

mutual

/-- Marked images show the mark in their start tags. -/
theorem infix_writeNode_markImages (raw hidden : Bool) :
    ∀ node, showsImage hidden node = true → markText <:+: writeNode raw hidden (markImages node)
  | .element space name attributes children, shown => by
      have content := infix_writeNodes_markAllImages (holdsRawText space name)
        (hidden || isVoid space name) children
      rw [showsImage, Bool.or_eq_true, Bool.and_eq_true, Bool.not_eq_true'] at shown
      rw [markImages.eq_def, writeNode.eq_def]
      simp only
      rcases shown with ⟨rfl, image⟩ | below
      · have tag := infix_startTag_set name centerMark "true".toList attributes
        rw [markAttributes, if_pos image, if_neg Bool.false_ne_true]
        split
        · exact List.infix_append_of_infix_left tag
        · exact List.infix_append_of_infix_left (List.infix_append_of_infix_left tag)
      · split
        · exact content below
        · split
          · exact List.infix_append_of_infix_right (content below)
          · exact List.infix_append_of_infix_left (List.infix_append_of_infix_right (content below))
  | .document children, shown => by
      rw [showsImage] at shown
      rw [markImages.eq_def, writeNode.eq_def]
      exact infix_writeNodes_markAllImages false hidden children shown
  | .text _, shown | .comment _, shown | .doctype _, shown | .instruction _ _, shown => by
      rw [showsImage] at shown
      cases shown

/-- If an image among the nodes is shown, the mark is written. -/
theorem infix_writeNodes_markAllImages (raw hidden : Bool) :
    ∀ nodes, showImages hidden nodes = true →
      markText <:+: writeNodes raw hidden (markAllImages nodes)
  | [], shown => by
      rw [showImages] at shown
      cases shown
  | node :: rest, shown => by
      rw [showImages, Bool.or_eq_true] at shown
      rw [markAllImages, writeNodes.eq_def]
      rcases shown with here | later
      · exact List.infix_append_of_infix_left (infix_writeNode_markImages raw hidden node here)
      · exact List.infix_append_of_infix_right
          (infix_writeNodes_markAllImages raw hidden rest later)

end

mutual

/-- A node without images shows none. -/
theorem showsImage_of_imageless (hidden : Bool) :
    ∀ node, (subtree node).any (isElement "img") = false → showsImage hidden node = false
  | .element space name attributes children, imageless => by
      rw [subtree_element, List.any_cons, Bool.or_eq_false_iff] at imageless
      have other : Attribute.sameName name "img" = false := imageless.1
      rw [showsImage, other, Bool.and_false, Bool.false_or]
      exact showImages_of_imageless _ children imageless.2
  | .document children, imageless => by
      rw [subtree_document, List.any_cons, Bool.or_eq_false_iff] at imageless
      rw [showsImage]
      exact showImages_of_imageless hidden children imageless.2
  | .text _, _ | .comment _, _ | .doctype _, _ | .instruction _ _, _ => by rw [showsImage]

/-- Without images, no image is shown. -/
theorem showImages_of_imageless (hidden : Bool) :
    ∀ nodes, (subtrees nodes).any (isElement "img") = false → showImages hidden nodes = false
  | [], _ => by rw [showImages]
  | node :: rest, imageless => by
      rw [subtrees_cons, List.any_append, Bool.or_eq_false_iff] at imageless
      rw [showImages, showsImage_of_imageless hidden node imageless.1,
        showImages_of_imageless hidden rest imageless.2]
      rfl

end

/-- If the document of a node does not mention the mark, its markup shows the mark exactly if the
node stands within a centring element and the start tag of an image is written. -/
theorem Unmentioned.infix_outer_shown {node : Node} (unmentioned : Unmentioned markText [node])
    (centered : Bool) :
    markText <:+: outer (shown centered node) ↔ centered = true ∧ showsImage false node = true := by
  have unmarked : ¬markText <:+: outer node :=
    (covered_writeNode false false node unmentioned).absent unmentioned.unspelled
  cases centered with
  | false => exact iff_of_false unmarked fun both => Bool.false_ne_true both.1
  | true =>
      rw [shown, if_pos rfl, outer]
      cases shows : showsImage false node with
      | true => exact iff_of_true (infix_writeNode_markImages false false node shows) ⟨rfl, rfl⟩
      | false =>
          rw [writeNode_markImages false false node shows]
          exact iff_of_false unmarked fun both => Bool.false_ne_true both.2

/-- Without images, nothing shows the mark. -/
theorem Unmentioned.not_infix_inner {nodes : List Node} (unmentioned : Unmentioned markText nodes)
    (imageless : (subtrees nodes).any (isElement "img") = false) (centered : Bool) :
    ¬markText <:+: inner (allShown centered nodes) := by
  have unmarked : ¬markText <:+: inner nodes :=
    (covered_writeNodes false false nodes unmentioned).absent unmentioned.unspelled
  rw [allShown]
  split
  · have unshown := showImages_of_imageless false nodes imageless
    rw [Markup.inner, writeNodes_markAllImages false false nodes unshown]
    exact unmarked
  · exact unmarked

end Node
end ArticleMarkdown
