import ArticleMarkdown.Markdown.Drawing
import ArticleMarkdown.Proofs.Document.Mark

/-!
# The mark in drawings

Naming the namespaces of a drawing adds attributes that do not mention the mark of centred images,
so its markup shows the mark exactly if the drawing stands within a centring element and holds an
image.
-/

namespace ArticleMarkdown

open Node

/-- Setting an attribute brings its name and its value. -/
theorem Attribute.of_mem_strings_set {t : Text} {name : String} {value : Text}
    {attributes : List Attribute} (held : t ∈ strings (set name value attributes)) :
    t ∈ strings attributes ∨ t = name.toList ∨ t = value := by
  induction attributes with
  | nil =>
      rw [set, strings, List.flatMap_singleton] at held
      exact .inr (by simpa using held)
  | cons a rest ih =>
      rw [strings, List.flatMap_cons, List.mem_append]
      rw [set] at held
      split at held
      · rw [strings, List.flatMap_cons, List.mem_append] at held
        rcases held with here | later
        · simp only [List.mem_cons, List.not_mem_nil, or_false] at here ⊢
          tauto
        · exact .inl (.inr later)
      · rw [strings, List.flatMap_cons, List.mem_append] at held
        rcases held with here | later
        · exact .inl (.inl here)
        · exact (ih later).imp_left .inr

namespace Drawing

/-- An element of one name is none of another. -/
theorem sameName_apart {name first second : String} (same : Attribute.sameName name first = true)
    (apart : Attribute.sameName first second = false) : Attribute.sameName name second = false := by
  simp only [Attribute.sameName, Text.eqIgnoringCase, beq_iff_eq, beq_eq_false_iff_ne] at *
  rwa [same]

mutual

/-- Elements are named for their space and images are marked in any order. -/
theorem nameForeign_markImages (foreign : Bool) :
    ∀ node, nameForeign foreign (markImages node) = markImages (nameForeign foreign node)
  | .element space name attributes children => by
      have below := nameAllForeign_markAllImages (Attribute.sameName name "foreignObject") children
      rw [markImages.eq_def, nameForeign.eq_def,
        nameForeign.eq_def foreign (.element _ _ _ children), markImages.eq_def]
      simp only [below]
      split
      · next block =>
        rw [Bool.and_eq_true] at block
        have noImage : Attribute.sameName name "img" = false := sameName_apart block.2 (by decide)
        simp only [markAttributes, noImage, Bool.false_eq_true, if_false]
      · rfl
  | .document children => by
      rw [markImages.eq_def, nameForeign.eq_def, nameForeign.eq_def foreign (.document children),
        markImages.eq_def]
      simp only [nameAllForeign_markAllImages false children]
  | .text _ | .comment _ | .doctype _ | .instruction _ _ => rfl

/-- Images are marked before namespaces are named, or after. -/
theorem nameAllForeign_markAllImages (foreign : Bool) :
    ∀ nodes, nameAllForeign foreign (markAllImages nodes) =
      markAllImages (nameAllForeign foreign nodes)
  | [] => rfl
  | node :: rest => by
      rw [markAllImages, nameAllForeign, nameAllForeign, markAllImages,
        nameForeign_markImages foreign node, nameAllForeign_markAllImages foreign rest]

end

mutual

/-- Naming elements for their space keeps the text nodes. -/
theorem texts_nameForeign (foreign : Bool) :
    ∀ node, texts [nameForeign foreign node] = texts [node]
  | .element space name attributes children => by
      rw [nameForeign.eq_def, texts_element, texts_element]
      exact texts_nameAllForeign _ children
  | .document children => by
      rw [nameForeign.eq_def, texts_document, texts_document]
      exact texts_nameAllForeign false children
  | .text _ | .comment _ | .doctype _ | .instruction _ _ => rfl

private theorem texts_nameAllForeign (foreign : Bool) :
    ∀ nodes, texts (nameAllForeign foreign nodes) = texts nodes
  | [] => rfl
  | node :: rest => by
      rw [nameAllForeign, texts_cons, texts_cons node, texts_nameForeign foreign node,
        texts_nameAllForeign foreign rest]

end

mutual

/-- Naming elements for their space writes nothing new but the name space. -/
theorem strings_nameForeign (foreign : Bool) :
    ∀ node, ∀ inner ∈ subtree (nameForeign foreign node), ∀ t ∈ inner.strings,
      (∃ original ∈ subtree node, t ∈ original.strings) ∨ t = "xmlns".toList ∨ t = documentNamespace
  | .element space name attributes children => by
      intro inner member t held
      rw [nameForeign.eq_def, subtree_element] at member
      rw [subtree_element]
      rcases List.mem_cons.mp member with rfl | below
      · rw [strings] at held
        rcases List.mem_cons.mp held with rfl | ofAttribute
        · exact .inl ⟨_, List.mem_cons_self, List.mem_cons_self⟩
        · have kept : t ∈ Attribute.strings attributes →
              t ∈ strings (.element space name attributes children) :=
            fun within => List.mem_cons_of_mem _ within
          split at ofAttribute
          · rcases Attribute.of_mem_strings_set ofAttribute with within | added
            · exact .inl ⟨_, List.mem_cons_self, kept within⟩
            · exact .inr added
          · exact .inl ⟨_, List.mem_cons_self, kept ofAttribute⟩
      · rcases strings_nameAllForeign _ children inner below t held with
          ⟨original, within, held⟩ | added
        · exact .inl ⟨original, List.mem_cons_of_mem _ within, held⟩
        · exact .inr added
  | .document children => by
      intro inner member t held
      rw [nameForeign.eq_def, subtree_document] at member
      rw [subtree_document]
      rcases List.mem_cons.mp member with rfl | below
      · cases held
      · rcases strings_nameAllForeign false children inner below t held with
          ⟨original, within, held⟩ | added
        · exact .inl ⟨original, List.mem_cons_of_mem _ within, held⟩
        · exact .inr added
  | .text _ | .comment _ | .doctype _ | .instruction _ _ => fun inner member t held =>
      .inl ⟨inner, member, held⟩

private theorem strings_nameAllForeign (foreign : Bool) :
    ∀ nodes, ∀ inner ∈ subtrees (nameAllForeign foreign nodes), ∀ t ∈ inner.strings,
      (∃ original ∈ subtrees nodes, t ∈ original.strings) ∨ t = "xmlns".toList ∨
        t = documentNamespace
  | [] => fun inner member => by
      rw [nameAllForeign, subtrees_nil] at member
      cases member
  | node :: rest => by
      intro inner member t held
      rw [nameAllForeign, subtrees_cons] at member
      rw [subtrees_cons]
      rcases List.mem_append.mp member with here | later
      · refine (strings_nameForeign foreign node inner here t held).imp_left ?_
        exact fun ⟨original, within, held⟩ => ⟨original, List.mem_append_left _ within, held⟩
      · refine (strings_nameAllForeign foreign rest inner later t held).imp_left ?_
        exact fun ⟨original, within, held⟩ => ⟨original, List.mem_append_right _ within, held⟩

end
mutual

/-- Naming elements for their space keeps the images that are shown. -/
theorem showsImage_nameForeign (foreign hidden : Bool) :
    ∀ node, showsImage hidden (nameForeign foreign node) = showsImage hidden node
  | .element space name attributes children => by
      rw [nameForeign.eq_def, showsImage, showsImage, showImages_nameAllForeign _ _ children]
  | .document children => by
      rw [nameForeign.eq_def, showsImage, showsImage,
        showImages_nameAllForeign false hidden children]
  | .text _ | .comment _ | .doctype _ | .instruction _ _ => rfl

private theorem showImages_nameAllForeign (foreign hidden : Bool) :
    ∀ nodes, showImages hidden (nameAllForeign foreign nodes) = showImages hidden nodes
  | [] => rfl
  | node :: rest => by
      rw [nameAllForeign, showImages, showImages, showsImage_nameForeign foreign hidden node,
        showImages_nameAllForeign foreign hidden rest]

end

/-- A drawing with its namespaces named. -/
def named (space : ElementSpace) (name : String) (attributes : List Attribute)
    (children : List Node) : Node :=
  .element space name (nameSpace attributes) (nameAllForeign false children)

section

variable {space : ElementSpace} {name : String} {attributes : List Attribute} {children : List Node}

/-- Naming namespaces adds nothing that mentions the mark. -/
theorem unmentioned_named
    (unmentioned : Unmentioned markText [.element space name attributes children]) :
    Unmentioned markText [named space name attributes children] where
  unsaid := by
    have clear : ∀ t, t = "xmlns".toList ∨ t = drawingNamespace ∨ t = documentNamespace →
        ¬markText <:+: t := by
      rintro t (rfl | rfl | rfl) <;> decide
    have self := unmentioned.strings
    intro inner member t held
    rw [subtrees_cons, subtrees_nil, List.append_nil, named, subtree_element] at member
    rcases List.mem_cons.mp member with rfl | below
    · rw [strings] at held self
      rcases List.mem_cons.mp held with rfl | ofAttribute
      · exact self _ List.mem_cons_self
      · rw [nameSpace] at ofAttribute
        split at ofAttribute
        · exact self t (List.mem_cons_of_mem _ ofAttribute)
        · rcases Attribute.of_mem_strings_set ofAttribute with within | added
          · exact self t (List.mem_cons_of_mem _ within)
          · exact clear t (added.imp_right .inl)
    · rcases strings_nameAllForeign false children inner below t held with
        ⟨original, within, held⟩ | added
      · exact unmentioned.children.unsaid original within t held
      · exact clear t (added.imp_right .inr)
  unspelled := by
    rw [named, texts_element, texts_nameAllForeign]
    exact texts_element space name attributes children ▸ unmentioned.unspelled

private theorem markup_eq_outer (noImage : Attribute.sameName name "img" = false)
    (centered : Bool) :
    markup space name attributes (allShown centered children) =
      Markup.outer (shown centered (named space name attributes children)) := by
  rw [markup, named, allShown, shown]
  split
  · rw [markImages.eq_def]
    simp only [markAttributes, noImage, Bool.false_eq_true, if_false, nameAllForeign_markAllImages]
  · rfl

/-- The markup of a drawing shows the mark exactly if the drawing stands within a centring element
and the start tag of an image is written. -/
theorem infix_markup_iff
    (unmentioned : Unmentioned markText [.element space name attributes children])
    (noImage : Attribute.sameName name "img" = false) (centered : Bool) :
    markText <:+: markup space name attributes (allShown centered children) ↔
      centered = true ∧ showsImage false (.element space name attributes children) = true := by
  have same : showsImage false (named space name attributes children) =
      showsImage false (.element space name attributes children) := by
    rw [named, showsImage, showsImage, showImages_nameAllForeign]
  rw [markup_eq_outer noImage, (unmentioned_named unmentioned).infix_outer_shown centered, same]

end

end Drawing
end ArticleMarkdown
