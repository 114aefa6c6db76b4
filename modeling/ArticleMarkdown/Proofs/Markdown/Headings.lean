import ArticleMarkdown.Proofs.Markdown.Columns
import ArticleMarkdown.Proofs.Markdown.Emphasis
import ArticleMarkdown.Proofs.Markdown.Visible
import ArticleMarkdown.Proofs.Text.Runs

/-!
# Headings of text

A heading of text, emphasis, spans and links without attributes is one line. What decides whether
the line is marked is its text without the separators: `Node.spelled`. It is marked unless this text
starts like an image, whatever it is in the document (`Heading.marks_line_iff`), so a heading whose
text only looks like an image loses its mark (`Heading.draftTitle_unmarked`).
-/

namespace ArticleMarkdown

open Text

namespace Text

private theorem trim_append {s t : Text} (trimmed : trim s = s) (trimmed' : trim t = t) :
    trim (s ++ t) = s ++ t :=
  trim_of_edges (forall_head?_append (head?_of_trimmed trimmed) (head?_of_trimmed trimmed'))
    (forall_getLast?_append (getLast?_of_trimmed trimmed) (getLast?_of_trimmed trimmed'))

end Text

namespace Fragment

/-- The fragment is a line that shows a text, apart from its inline separators. -/
structure Spells (f : Fragment) (t : Text) : Prop where
  flat : .blockBreak ∉ f.tokens
  literal : f.plainText = t
  trimmed : Text.trim t = t
  single : '\n' ∉ t

namespace Spells

variable {f g : Fragment} {s t : Text}

private theorem empty : (∅ : Fragment).Spells [] :=
  ⟨List.not_mem_nil, rfl, rfl, List.not_mem_nil⟩

private theorem inlineBreak : Fragment.inlineBreak.Spells [] :=
  ⟨by decide, rfl, rfl, List.not_mem_nil⟩

private theorem ofText (trimmed : Text.trim t = t) (single : '\n' ∉ t) :
    (Fragment.ofText t).Spells t :=
  ⟨blockBreak_notMem_ofText t, plainText_ofText t, trimmed, single⟩

private theorem append (spells : f.Spells s) (spells' : g.Spells t) : (f ++ g).Spells (s ++ t) where
  flat := Token.blockBreak_notMem_join spells.flat spells'.flat
  literal := by rw [plainText_append, spells.literal, spells'.literal]
  trimmed := trim_append spells.trimmed spells'.trimmed
  single := by
    rw [List.mem_append, not_or]
    exact ⟨spells.single, spells'.single⟩

private theorem inlined (spells : f.Spells t) : f.inlined.Spells t := by
  have around := (inlineBreak.append spells).append inlineBreak
  rwa [List.nil_append, List.append_nil] at around

private theorem trim (spells : f.Spells t) : f.trim.Spells t where
  flat := mt (blockBreak_mem_trim f).mp spells.flat
  literal := by rw [plainText_trim spells.flat, spells.literal, spells.trimmed]
  trimmed := spells.trimmed
  single := spells.single

/-- Only a line without text is blank. -/
theorem isBlank_iff (spells : f.Spells t) : f.isBlank = true ↔ t = [] := by
  rw [Fragment.isBlank_iff, ← ink_plainText, spells.literal, ink_eq_nil]
  exact trim_eq_nil.symm.trans (by rw [spells.trimmed])

/-- Resolved, it is a single line, laid out as its final text. -/
theorem lines_resolve (spells : f.Spells t) :
    ∃ line, f.resolve.lines = [line] ∧ line.plainText = t ∧ line.laid = f.finalText := by
  have unbroken := f.settled_resolve.unbroken
  have literal : f.resolve.lines.map plainText = [t] := by
    rw [← splitOn_plainText unbroken, plainText_resolve spells.flat, spells.literal,
      spells.trimmed, splitOn_of_notMem spells.single]
  obtain ⟨line, lines, spelled⟩ := List.map_eq_singleton_iff.mp literal
  refine ⟨line, lines, spelled, ?_⟩
  rw [← finalText_resolve, finalText_eq_trim_laid, trim_laid_resolve, laid_eq_join unbroken, lines]
  rfl

private theorem lineBreak_notMem_finalText (spells : f.Spells t) : '\n' ∉ f.finalText := by
  obtain ⟨line, lines, -, laid⟩ := spells.lines_resolve
  have member : line.laid ∈ splitOn '\n' f.resolve.laid := by
    rw [splitOn_laid f.settled_resolve.unbroken, lines]
    exact List.mem_singleton_self _
  rw [← laid]
  exact mark_notMem_of_mem_splitOn member

/-- The mark of the line stands right in front of its final text. -/
theorem laid_markLines (spells : f.Spells t) (mark : Nat → Text → Text) :
    (f.resolve.markLines mark).laid = mark 0 t ++ f.finalText := by
  obtain ⟨line, lines, spelled, laid⟩ := spells.lines_resolve
  rw [Fragment.laid_markLines f.settled_resolve.unbroken, lines, List.mapIdx_singleton, spelled,
    laid]
  rfl

/-- What shows first in the text shows first in the final text. -/
theorem head?_line (spells : f.Spells t) : f.finalText.head? = t.head? := by
  rw [← head?_ink fun c => Fragment.head?_finalText, ← head?_ink (head?_of_trimmed spells.trimmed),
    ink_finalText, ← ink_plainText, spells.literal]

end Spells
end Fragment

open Fragment (Spells)

namespace Plain

private theorem spells_edgeBreak (edge : Option Char) : (edgeBreak edge).Spells [] := by
  rw [edgeBreak]
  split
  · exact .inlineBreak
  · exact .empty

private theorem spells_fragment (content : Text) :
    (fragment content).Spells (squeeze (trim content)) := by
  have first := spells_edgeBreak content.head?
  unfold fragment
  split
  · next nothing =>
    rw [nothing]
    exact first
  · have inner := Fragment.Spells.ofText (trim_squeeze_trim content)
      (lineBreak_notMem_squeezeFrom false _)
    have whole := (first.append inner).append (spells_edgeBreak content.getLast?)
    rwa [List.nil_append, List.append_nil] at whole

end Plain

namespace Emphasis

/-- Marks around a text that shows something. -/
def spell (kind : Emphasis) (t : Text) : Text :=
  if t.isEmpty then [] else kind.opening ++ t ++ kind.closing

private theorem spells_marks (kind : Emphasis) :
    (Fragment.ofText kind.opening).Spells kind.opening ∧
      (Fragment.ofText kind.closing).Spells kind.closing := by
  constructor <;> cases kind <;> exact .ofText rfl (by decide)

private theorem spells_outside {edge : List Token} (flat : .blockBreak ∉ edge) :
    (outside edge).Spells [] := by
  rw [outside, if_neg (mt List.contains_iff_mem.mp flat)]
  exact .inlineBreak

private theorem spells_core {f : Fragment} {t : Text} (spells : f.Spells t) :
    (core f).Spells t where
  flat := flat_core f
  literal := by
    have silent : ∀ token : Token, token.isBlank = true → isBlank token.literal = true :=
      fun token blank => blank
    have framed := Token.frames_read_dropBlank (fun _ blank => blank) silent f.tokens
    rw [core, Fragment.plainText_trim (Fragment.flat_flattened _), Fragment.plainText_flattened,
      ← spells.trimmed, ← spells.literal]
    exact (trim_of_frames framed).symm
  trimmed := spells.trimmed
  single := spells.single

private theorem spells_wrap (kind : Emphasis) {f : Fragment} {t : Text} (spells : f.Spells t) :
    (kind.wrap f).Spells (kind.spell t) := by
  have inner := spells_core spells
  rw [wrap_eq, spell]
  by_cases nothing : t = []
  · rw [if_pos (inner.isBlank_iff.mpr nothing), if_pos (List.isEmpty_iff.mpr nothing)]
    exact .empty
  · rw [if_neg (mt inner.isBlank_iff.mp nothing), if_neg (mt List.isEmpty_iff.mp nothing)]
    have before : .blockBreak ∉ f.tokens.takeWhile Token.isBlank := fun member =>
      spells.flat ((List.takeWhile_sublist _).subset member)
    have after : .blockBreak ∉
        (f.tokens.dropWhile Token.isBlank).reverse.takeWhile Token.isBlank := fun member =>
      spells.flat ((List.dropWhile_sublist _).subset
        (List.mem_reverse.mp ((List.takeWhile_sublist _).subset member)))
    have marked := (kind.spells_marks.1.append inner).append kind.spells_marks.2
    have whole := ((spells_outside before).append marked).append (spells_outside after)
    rwa [List.nil_append, List.append_nil] at whole

end Emphasis

private theorem Link.spells_unlinked {f : Fragment} {t : Text} (spells : f.Spells t) :
    (unlinked f).Spells t := by
  have flattened : f.flattened.Spells t :=
    ⟨Fragment.flat_flattened f, (Fragment.plainText_flattened f).trans spells.literal,
      spells.trimmed, spells.single⟩
  have labelled : (label f).Spells t := flattened.trim
  simp only [unlinked]
  split
  · next blank =>
    rw [labelled.isBlank_iff.mp blank]
    exact .empty
  · exact labelled.inlined

/-- What the rule of a phrase makes of a text. -/
def Rule.spell : Rule → Text → Text
  | .emphasis kind, t => kind.spell t
  | _, t => t

namespace Node

/-- Elements that stand within a line of text. -/
def phraseNames : List String :=
  ["strong", "b", "em", "i", "u", "ins", "s", "del", "strike", "span", "a"]

mutual

/-- Whether a node is text, or an element without attributes that stands within a line and holds
such nodes. -/
def isPhrase : Node → Bool
  | .text _ => true
  | .element _ name attributes children =>
    phraseNames.contains name && attributes.isEmpty && arePhrases children
  | .comment _ => false
  | .doctype _ => false
  | .instruction _ _ => false
  | .document _ => false

/-- Whether nodes are text and elements without attributes that stand within a line. -/
def arePhrases : List Node → Bool
  | [] => true
  | node :: rest => isPhrase node && arePhrases rest

end

mutual

/-- The text of a node with the marks of emphasis, each text node trimmed and with single spaces. -/
def spelled : Node → Text
  | .text content => Plain.squeeze (trim content)
  | .element _ name _ children => (Rule.ofName name).spell (spelledAll children)
  | .comment _ => []
  | .doctype _ => []
  | .instruction _ _ => []
  | .document children => spelledAll children

/-- The texts of nodes with the marks of emphasis, one right after another. -/
def spelledAll : List Node → Text
  | [] => []
  | node :: rest => spelled node ++ spelledAll rest

end

private theorem arePhrases_iff {nodes : List Node} :
    arePhrases nodes = true ↔ ∀ node ∈ nodes, node.isPhrase = true := by
  induction nodes with
  | nil => simp [arePhrases]
  | cons node rest ih => rw [arePhrases, Bool.and_eq_true, ih, List.forall_mem_cons]

private theorem isFlow_of_phraseNames {name : String} (listed : phraseNames.contains name = true) :
    isFlow name = true := by
  have every : phraseNames.all isFlow = true := by decide
  exact List.all_eq_true.mp every name (List.contains_iff_mem.mp listed)

mutual

/-- What phrases are made of belongs to prose. -/
theorem prose_of_phrase : ∀ node : Node, node.isPhrase = true → node.isProse = true
  | .text _, _ => by rw [isProse]
  | .element space name attributes children, phrase => by
      rw [isPhrase, Bool.and_eq_true, Bool.and_eq_true] at phrase
      rw [isProse, if_pos (isFlow_of_phraseNames phrase.1.1), phrase.1.2,
        prose_of_phrases children phrase.2]
      rfl
  | .comment _, phrase | .doctype _, phrase | .instruction _ _, phrase
  | .document _, phrase => by
      rw [isPhrase] at phrase
      cases phrase

private theorem prose_of_phrases :
    ∀ nodes : List Node, arePhrases nodes = true → areProse nodes = true
  | [], _ => by rw [areProse]
  | node :: rest, phrases => by
      rw [arePhrases, Bool.and_eq_true] at phrases
      rw [areProse, prose_of_phrase node phrases.1, prose_of_phrases rest phrases.2]
      rfl

end

end Node

private theorem Rule.ofName_phrase {name : String}
    (listed : Node.phraseNames.contains name = true) :
    (∃ kind, Rule.ofName name = .emphasis kind) ∨ Rule.ofName name = .span ∨
      Rule.ofName name = .link := by
  rw [List.contains_iff_mem, Node.phraseNames] at listed
  simp only [List.mem_cons, List.not_mem_nil, or_false] at listed
  rcases listed with rfl | rfl | rfl | rfl | rfl | rfl | rfl | rfl | rfl | rfl | rfl
  iterate 9 exact .inl ⟨_, rfl⟩
  · exact .inr (.inl rfl)
  · exact .inr (.inr rfl)

private theorem Rule.spells_wrapBare {name : String}
    (listed : Node.phraseNames.contains name = true) :
    ∃ wrap, (Rule.ofName name).wrapBare? = some wrap ∧ ∀ (f : Fragment) (t : Text), f.Spells t →
      (wrap f).Spells ((Rule.ofName name).spell t) := by
  rcases Rule.ofName_phrase listed with ⟨kind, rule⟩ | rule | rule <;> rw [rule]
  · exact ⟨_, rfl, fun f t spells => kind.spells_wrap spells.trim⟩
  · exact ⟨_, rfl, fun f t spells => spells⟩
  · exact ⟨_, rfl, fun f t spells => Link.spells_unlinked spells⟩

mutual

/-- A phrase is drafted to the text that it spells. -/
theorem draftNode_spells (s : Settings) (centered : Bool) :
    ∀ node : Node, node.isPhrase = true →
      (draftNode s centered node).Settles fun f => f.Spells node.spelled
  | .text content, _ => by
      rw [draftNode, Node.spelled]
      exact .of (Plain.spells_fragment content)
  | .element space name attributes children, phrase => by
      rw [Node.isPhrase, Bool.and_eq_true, Bool.and_eq_true, List.isEmpty_iff] at phrase
      obtain ⟨⟨listed, rfl⟩, inner⟩ := phrase
      obtain ⟨wrap, wraps, spells⟩ := Rule.spells_wrapBare listed
      rw [draftNode_bare wraps, Node.spelled]
      exact (draftNodes_spells s centered children inner).map fun f => spells f _
  | .comment _, phrase | .doctype _, phrase | .instruction _ _, phrase
  | .document _, phrase => by
      rw [Node.isPhrase] at phrase
      cases phrase

private theorem draftNodes_spells (s : Settings) (centered : Bool) :
    ∀ nodes : List Node, Node.arePhrases nodes = true →
      (draftNodes s centered nodes).Settles fun f => f.Spells (Node.spelledAll nodes)
  | [], _ => by
      rw [draftNodes, Node.spelledAll]
      exact .of .empty
  | node :: rest, phrases => by
      rw [Node.arePhrases, Bool.and_eq_true] at phrases
      rw [draftNodes, Node.spelledAll]
      exact (draftNode_spells s centered node phrases.1).combine
        (draftNodes_spells s centered rest phrases.2) fun f g spells spells' =>
          spells.append spells'

end

namespace Heading

/-- The elements that are headings, with their levels. -/
def levels : List (String × Nat) :=
  [("h1", 1), ("h2", 2), ("h3", 3), ("h4", 4), ("h5", 5), ("h6", 6)]

private theorem rule_of_levels {name : String} {level : Nat} (named : (name, level) ∈ levels) :
    Rule.ofName name = .heading level := by
  simp only [levels, List.mem_cons, Prod.mk.injEq, List.not_mem_nil, or_false] at named
  rcases named with ⟨rfl, rfl⟩ | ⟨rfl, rfl⟩ | ⟨rfl, rfl⟩ | ⟨rfl, rfl⟩ | ⟨rfl, rfl⟩ | ⟨rfl, rfl⟩ <;>
    rfl

/-- A text that starts like an image, whatever it is. -/
def ImageLike (t : Text) : Prop :=
  "![".toList <+: t ∨ "<img".toList <+: t

instance (t : Text) : Decidable (ImageLike t) :=
  inferInstanceAs (Decidable (_ ∨ _))

variable {content : Fragment} {t : Text}

private theorem isImageLine_iff (trimmed : trim t = t) : isImageLine t = true ↔ ImageLike t := by
  rw [isImageLine, trimStart_of_trimmed trimmed, Bool.or_eq_true, startsWith_iff, startsWith_iff,
    ImageLike]

private theorem head?_of_imageLike (like : ImageLike t) : ∃ c ∈ t.head?, c ≠ '#' := by
  rcases like with ⟨rest, rfl⟩ | ⟨rest, rfl⟩
  · exact ⟨'!', rfl, by decide⟩
  · exact ⟨'<', rfl, by decide⟩

private theorem trim_mark_append (level : Nat) {line : Text} (trimmed : trim line = line)
    (shown : line ≠ []) : trim (mark (level + 1) ++ line) = mark (level + 1) ++ line := by
  refine trim_of_edges ?_ ?_
  · rintro c ⟨⟩
    rfl
  · rw [List.getLast?_append_of_ne_nil _ shown]
    exact getLast?_of_trimmed trimmed

private theorem lineMark_of_shown (level : Nat) (trimmed : trim t = t) (shown : t ≠ []) :
    lineMark level t = [] ∧ ImageLike t ∨ lineMark level t = mark level ∧ ¬ ImageLike t := by
  have solid : isBlank t = false := by
    rw [← Bool.not_eq_true, ← trim_eq_nil, trimmed]
    exact shown
  rw [lineMark, solid, Bool.false_or, ← isImageLine_iff trimmed]
  cases isImageLine t <;> simp

private theorem trim_lineMark_append (level : Nat) (spells : content.Spells t) (shown : t ≠ []) :
    trim (lineMark (level + 1) t ++ content.finalText) =
      lineMark (level + 1) t ++ content.finalText := by
  have filled : content.finalText ≠ [] := by
    rw [Ne, ← List.head?_eq_none_iff, spells.head?_line, List.head?_eq_none_iff]
    exact shown
  have kept : trim content.finalText = content.finalText := trim_trim _
  rcases lineMark_of_shown (level + 1) spells.trimmed shown with ⟨none, -⟩ | ⟨marked, -⟩
  · rw [none]
    exact kept
  · rw [marked]
    exact trim_mark_append level kept filled

/-- A heading of one line is this line, behind its mark unless it is spared. -/
theorem finalText_fragment (level : Nat) (spells : content.Spells t) (shown : t ≠ []) :
    (fragment (level + 1) content).finalText = lineMark (level + 1) t ++ content.finalText := by
  have solid : ¬ content.resolve.isBlank = true := by
    rw [Fragment.isBlank_iff, Fragment.ink_resolve, ← Fragment.isBlank_iff, spells.isBlank_iff]
    exact shown
  have trimmed := trim_lineMark_append level spells shown
  have laid := spells.laid_markLines fun _ line => lineMark (level + 1) line
  have unbroken := Fragment.blockBreak_notMem_markLines content.settled_resolve.unbroken
    fun _ line => lineMark (level + 1) line
  have opens : ∀ c ∈ (lineMark (level + 1) t ++ content.finalText).head?, isLineBreak c = false :=
    fun c first => isLineBreak_of_solid (head?_of_trimmed trimmed c first)
  rw [← laid] at opens
  calc (fragment (level + 1) content).finalText
      = (content.resolve.markLines fun _ line => lineMark (level + 1) line).blocked.finalText := by
        rw [fragment, if_neg solid]
        rfl
    _ = lineMark (level + 1) t ++ content.finalText := by
        rw [Fragment.finalText_blocked unbroken opens, laid, trimmed]

private theorem line_fragment (level : Nat) (spells : content.Spells t) (shown : t ≠ []) :
    isBlank (fragment (level + 1) content).finalText = false ∧
      '\n' ∉ (fragment (level + 1) content).finalText := by
  constructor
  · rw [← Bool.not_eq_true, ← ink_eq_nil, Fragment.ink_finalText]
    intro nothing
    have held := ink_fragment (level + 1) content
    rw [nothing, List.sublist_nil, ← Fragment.isBlank_iff, spells.isBlank_iff] at held
    exact shown held
  · rw [finalText_fragment level spells shown, List.mem_append, not_or]
    refine ⟨fun member => ?_, spells.lineBreak_notMem_finalText⟩
    cases (marks (level + 1)).single 0 t _ member

private theorem starts_marked_iff (level : Nat) (spells : content.Spells t) (shown : t ≠ []) :
    mark (level + 1) <+: (fragment (level + 1) content).finalText ↔ ¬ ImageLike t := by
  rw [finalText_fragment level spells shown]
  rcases lineMark_of_shown (level + 1) spells.trimmed shown with ⟨none, like⟩ | ⟨marked, unlike⟩
  · rw [none, List.nil_append, iff_false_right (not_not_intro like)]
    rintro ⟨rest, starts⟩
    obtain ⟨c, first, other⟩ := head?_of_imageLike like
    rw [← spells.head?_line, ← starts] at first
    cases first
    exact other rfl
  · rw [marked, iff_true_right unlike]
    exact List.prefix_append _ _

/-- What the heading of the given nodes shows, without the separators. -/
def caption (children : List Node) : Text :=
  Node.spelledAll (children.filter fun node => !isEmptyLink node)

private theorem draftHeading_spells (s : Settings) (centered : Bool) {children : List Node}
    (phrases : Node.arePhrases children = true)
    (shown : visible (Node.textContents children) ≠ []) :
    (draftHeading s centered children).Settles fun f =>
      f.Spells (caption children) ∧ caption children ≠ [] := by
  have kept : Node.arePhrases (children.filter fun node => !isEmptyLink node) = true :=
    Node.arePhrases_iff.mpr fun node member =>
      Node.arePhrases_iff.mp phrases node (List.mem_of_mem_filter member)
  have seen := draftHeading_shows s centered children (Node.prose_of_phrases children phrases)
  rw [draftHeading_eq] at seen ⊢
  obtain ⟨content, drafted, spells⟩ := draftNodes_spells s centered _ kept
  obtain ⟨content', drafted', held⟩ := seen
  have same : content' = content := congrFun (congrArg Draft.fill (drafted'.symm.trans drafted)) []
  refine ⟨content, drafted, spells, fun nothing => shown ?_⟩
  rw [caption] at nothing
  rw [same, ← Fragment.ink_plainText, spells.literal, nothing] at held
  exact List.sublist_nil.mp held

/-- A heading of text that shows something is one line. It starts with its mark exactly when what
it shows does not start like an image. -/
theorem marks_line_iff {name : String} {level : Nat} (named : (name, level) ∈ levels)
    {children : List Node} (phrases : Node.arePhrases children = true)
    (shown : visible (Node.textContents children) ≠ []) (s : Settings) (centered : Bool)
    (space : ElementSpace) (attributes : List Attribute) :
    ∃ f, draftNode s centered (.element space name attributes children) = .of f ∧
      isBlank f.finalText = false ∧ '\n' ∉ f.finalText ∧
      ((List.replicate level '#' ++ [' ']) <+: f.finalText ↔ ¬ ImageLike (caption children)) := by
  have rule := rule_of_levels named
  obtain ⟨below, rfl⟩ := Nat.exists_eq_add_of_lt (Rule.level_pos rule)
  obtain ⟨content, drafted, spells, filled⟩ := draftHeading_spells s centered phrases shown
  refine ⟨fragment (0 + below + 1) content, ?_, ?_, ?_, starts_marked_iff _ spells filled⟩
  · rw [draftNode, rule]
    simp only [drafted]
    rfl
  · exact (line_fragment _ spells filled).1
  · exact (line_fragment _ spells filled).2

/-- A title with an anchor in front of it and an image mark within. -/
def anchoredTitle : List Node :=
  [.element .html "a" [] [.text "\n".toList],
   .element .html "span" [] [.text " Notes on".toList],
   .element .html "b" [] [.text "![alt]".toList]]

/-- A title behind an anchor is marked as a heading. -/
theorem marks_line_iff_anchoredTitle :
    ("h2", 2) ∈ levels ∧ Node.arePhrases anchoredTitle = true ∧
      visible (Node.textContents anchoredTitle) ≠ [] ∧
      ∃ f, draftNode {} false (.element .html "h2" [⟨.none, "id", "n".toList⟩] anchoredTitle) =
          .of f ∧ "## ".toList <+: f.finalText := by
  have named : ("h2", 2) ∈ levels := by decide
  have phrases : Node.arePhrases anchoredTitle = true := by rfl
  have shown : visible (Node.textContents anchoredTitle) ≠ [] := by decide
  obtain ⟨f, drafted, -, -, marked⟩ :=
    marks_line_iff named phrases shown {} false .html [⟨.none, "id", "n".toList⟩]
  have spelled : caption anchoredTitle = "Notes on**![alt]**".toList := by decide +kernel
  have unlike : ¬ ImageLike "Notes on**![alt]**".toList := by decide
  exact ⟨named, phrases, shown, f, drafted, marked.mpr (spelled ▸ unlike)⟩

/-- A title that starts with a remark in brackets. -/
def draftTitle : List Node :=
  [.text "![draft] Title".toList]

/-- A title that starts like an image is not. -/
theorem draftTitle_unmarked :
    ("h1", 1) ∈ levels ∧ Node.arePhrases draftTitle = true ∧
      visible (Node.textContents draftTitle) ≠ [] ∧
      ¬ "# ".toList <+:
        ((draftNode {} false (.element .html "h1" [] draftTitle)).fill []).finalText ∧
      (Article.convertNodes none {} {} [.element .html "h1" [] draftTitle]).2 =
        .ok "![draft] Title\n\n".toList := by
  refine ⟨by decide, by rfl, by decide, ?_, by rfl⟩
  have laid : ((draftNode {} false (.element .html "h1" [] draftTitle)).fill []).finalText =
      "![draft] Title".toList := by rfl
  rw [laid]
  decide

/-- The separators of a link do not keep a heading from being taken for an image. -/
example : (Article.convertNodes none {} {} [.element .html "h1" []
    [.text "!".toList, .element .html "a" [] [.text "[1]".toList]]]).2 =
      .ok "! [1]\n\n".toList := by
  rfl

end Heading
end ArticleMarkdown
