import ArticleMarkdown.Proofs.Document.Prose
import ArticleMarkdown.Proofs.Fragment.Conveys
import ArticleMarkdown.Proofs.Markdown.Ink

/-!
# Words stay apart

Text that flows through paragraphs, containers and emphasis keeps its words, and whitespace between
two of them stays whitespace (`Article.words_stay_apart`). The exception is whitespace in emphasis
that holds no word: such emphasis is dropped with all its content
(`Article.emptyEmphasis_joins_words`).
-/

namespace ArticleMarkdown

open Text

namespace Plain

private theorem wordChars_of_isMarkupSpace {c : Char} (space : isMarkupSpace c = true) :
    wordChars [c] = [] :=
  wordChars_of_blank (by simp [Text.isBlank, isSpace_of_isMarkupSpace space])

private theorem wordChars_squeezeFrom (inRun : Bool) (t : Text) :
    wordChars (squeezeFrom inRun t) = wordChars t := by
  fun_induction squeezeFrom inRun t with
  | case1 => rfl
  | case2 inRun c rest space ih =>
      have single : wordChars (if inRun then [] else [' ']) = [] := by cases inRun <;> rfl
      rw [wordChars_append, ih, single, ← List.singleton_append, wordChars_append,
        wordChars_of_isMarkupSpace space]
  | case3 inRun c rest _ ih =>
      rw [← List.singleton_append, wordChars_append, ih, ← wordChars_append]
      rfl

/-- A run of whitespace stays a gap; within a run its space has been written before. -/
theorem gapAt_squeezeFrom {n : Nat} (inRun : Bool) (t : Text) (gap : GapAt n t) :
    GapAt n (squeezeFrom inRun t) ∨ inRun = true ∧ n = 0 := by
  fun_induction squeezeFrom inRun t generalizing n with
  | case1 => exact absurd gap (not_gapAt_nil n)
  | case2 inRun c rest space ih =>
      have single : Text.isBlank (if inRun then [] else [' ']) = true := by cases inRun <;> rfl
      have opened : n = 0 → GapAt n ((if inRun then [] else [' ']) ++ squeezeFrom true rest) ∨
          inRun = true ∧ n = 0 := by
        rintro rfl
        cases inRun with
        | true => exact .inr ⟨rfl, rfl⟩
        | false => exact .inl (gapAt_cons_of_space rfl _)
      have bare : Text.isBlank [c] = true := by
        simp [Text.isBlank, isSpace_of_isMarkupSpace space]
      rw [← List.singleton_append] at gap
      rcases gap.of_blank_append bare with start | behind
      · exact opened start
      · rcases ih behind with kept | ⟨_, start⟩
        · have moved := kept.behind (if inRun then [] else [' '])
          rw [wordChars_of_blank single, List.length_nil, Nat.zero_add] at moved
          exact .inl moved
        · exact opened start
  | case3 inRun c rest _ ih =>
      rw [← List.singleton_append] at gap ⊢
      rcases gap.of_append with first | ⟨m, behind, rfl⟩
      · exact .inl (first.before _)
      · rcases ih behind with kept | ⟨impossible, _⟩
        · exact .inl (kept.behind [c])
        · cases impossible

private theorem isWording_squeezeFrom (inRun : Bool) {t : Text} (wording : isWording t = true) :
    isWording (squeezeFrom inRun t) = true := by
  fun_induction squeezeFrom inRun t with
  | case1 => rfl
  | case2 inRun c rest _ ih =>
      rw [← List.singleton_append, isWording_append, Bool.and_eq_true] at wording
      rw [isWording_append, ih wording.2]
      cases inRun <;> rfl
  | case3 inRun c rest _ ih =>
      rw [← List.singleton_append, isWording_append, Bool.and_eq_true] at wording
      rw [← List.singleton_append, isWording_append, wording.1, ih wording.2, Bool.and_self]

private theorem edgeBreak_conveys (edge : Option Char) : (edgeBreak edge).Conveys [] := by
  rw [edgeBreak]
  split
  · exact .inlineBreak
  · exact .empty

private theorem spread_edgeBreak {edge : Option Char} (space : edge.any isSpace = true) :
    (edgeBreak edge).spread = [' '] := by
  rw [edgeBreak, if_pos space]
  rfl

private theorem fragment_conveys {t : Text} (wording : isWording t = true) :
    (fragment t).Conveys t := by
  have framed := Text.frames_trim t
  rw [fragment]
  split
  · next nothing =>
    rw [nothing] at framed
    have edge := edgeBreak_conveys t.head?
    refine ⟨edge.words.trans framed.wordChars_eq.symm, fun n gap => ?_, edge.unclosed⟩
    rcases framed.gapAt gap with inner | rfl | rfl
    · exact absurd inner (not_gapAt_nil n)
    · rw [spread_edgeBreak (gap.head? wording)]
      exact gapAt_cons_of_space rfl []
    · rw [spread_edgeBreak (GapAt.head? gap wording)]
      exact gapAt_cons_of_space rfl []
  · next trimmed _ =>
    have middle : (Fragment.ofText (squeeze (trim t))).Conveys (trim t) := by
      refine ⟨?_, fun n gap => ?_, ?_⟩
      · rw [Fragment.spread_ofText, squeeze, wordChars_squeezeFrom]
      · rw [Fragment.spread_ofText]
        exact (gapAt_squeezeFrom false _ gap).resolve_right (by simp)
      · rw [Fragment.spread_ofText]
        exact unclosed_of_wording (isWording_squeezeFrom false (framed.isWording wording))
    have front := (edgeBreak_conveys t.head?).append middle
    have whole := front.append (edgeBreak_conveys t.getLast?)
    rw [List.nil_append] at front whole
    rw [List.append_nil] at whole
    refine ⟨whole.words.trans framed.wordChars_eq.symm, fun n gap => ?_, whole.unclosed⟩
    rcases framed.gapAt gap with inner | rfl | rfl
    · exact whole.gaps n inner
    · rw [Fragment.spread_append, Fragment.spread_append, spread_edgeBreak (gap.head? wording)]
      exact gapAt_cons_of_space rfl _
    · rw [← framed.wordChars_eq] at gap
      have closes : GapAt 0 (edgeBreak t.getLast?).spread := by
        rw [spread_edgeBreak (gap.getLast? wording)]
        exact gapAt_cons_of_space rfl []
      rw [Fragment.spread_append, ← front.words]
      exact closes.behind _

end Plain

/-- The text of a whole document has the words of its fragment and what separates them. -/
theorem Fragment.Conveys.documentText {f : Fragment} {t : Text} (conveyed : f.Conveys t) :
    wordChars f.documentText = wordChars t ∧ ∀ k, Separated k t → Separated k f.documentText := by
  obtain ⟨words, separated⟩ := conveyed.finalText
  obtain ⟨ending, blank, split⟩ := f.documentText_split
  have same : wordChars f.documentText = wordChars f.finalText := by
    rw [split, wordChars_append, wordChars_of_blank blank, List.append_nil]
  refine ⟨same.trans words, fun k apart => ?_⟩
  obtain ⟨gap, positive, below⟩ := separated k apart
  rw [Separated, same, split]
  exact ⟨gap.before ending, positive, below⟩

/-- A text, or nothing if it holds no word. -/
def Text.spoken (t : Text) : Text :=
  if wordChars t = [] then [] else t

private theorem Text.wordChars_spoken (t : Text) : wordChars t.spoken = wordChars t := by
  rw [spoken]
  split
  · next wordless => rw [wordless, wordChars_nil]
  · rfl

private theorem Fragment.Conveys.wordless {f : Fragment} {t : Text} (conveyed : f.Conveys t)
    (wordless : wordChars t = []) : f.Conveys [] :=
  ⟨conveyed.words.trans wordless, fun n gap => absurd gap (not_gapAt_nil n), conveyed.unclosed⟩

namespace Emphasis

/-- Marks that are no tags hold no words. -/
theorem marks_wordless {kind : Emphasis} (marks : kind ≠ .underline) :
    wordChars kind.opening = [] ∧ wordChars kind.closing = [] := by
  cases kind with
  | underline => exact absurd rfl marks
  | bold | italic | strike => decide +kernel

private theorem marks_unclosed (kind : Emphasis) :
    ∀ c ∈ kind.opening ++ kind.closing, isClosingPunctuation c = false := by
  have none : (kind.opening ++ kind.closing).any isClosingPunctuation = false := by
    cases kind <;> decide +kernel
  exact fun c member => Bool.eq_false_iff.mpr (List.any_eq_false.mp none c member)

/-- Emphasis keeps words and gaps, and is dropped only if it holds no word. -/
theorem conveys_wrap {kind : Emphasis} (marks : kind ≠ .underline) {f : Fragment} {t : Text}
    (conveyed : f.Conveys t) : (kind.wrap f.trim).Conveys t.spoken := by
  have framed := f.frames_trim.trans (frames_core f.trim)
  have words := framed.wordChars_eq.symm.trans conveyed.words
  rw [wrap_eq]
  split
  · next nothing =>
    have wordless : wordChars t = [] := by
      rw [← words]
      refine wordChars_of_blank (ink_eq_nil.mp ?_)
      exact (Fragment.isBlank_iff _).mp nothing
    rw [spoken, if_pos wordless]
    exact .empty
  · generalize List.takeWhile _ f.trim.tokens = leading
    generalize List.takeWhile _ (List.reverse _) = trailing
    have kept : Fragment.Conveys (outside leading ++
        (Fragment.ofText kind.opening ++ core f.trim ++ Fragment.ofText kind.closing) ++
        outside trailing) t := by
      have spread : Fragment.spread (outside leading ++
          (Fragment.ofText kind.opening ++ core f.trim ++ Fragment.ofText kind.closing) ++
          outside trailing) =
            ' ' :: kind.opening ++ (core f.trim).spread ++ (kind.closing ++ [' ']) := by simp
      obtain ⟨opening, closing⟩ := marks_wordless marks
      have front : wordChars (' ' :: kind.opening) = [] :=
        (wordChars_append [' '] kind.opening).trans opening
      have closes : GapAt 0 (kind.closing ++ [' ']) := by
        have moved := (gapAt_cons_of_space (c := ' ') rfl []).behind kind.closing
        rwa [closing] at moved
      refine ⟨?_, fun n gap => ?_, fun c member => ?_⟩
      · rw [spread, wordChars_append, wordChars_append, front, words, wordChars_append, closing]
        exact List.append_nil _
      · rw [spread]
        exact framed.gapAt_between front (gapAt_cons_of_space rfl _) closes (conveyed.gaps n gap)
      · have space : isClosingPunctuation ' ' = false := by decide
        have marks := marks_unclosed kind
        rw [spread] at member
        simp only [List.mem_append, List.mem_cons, List.not_mem_nil, or_false] at member marks
        rcases member with ((rfl | opened) | inner) | closed | rfl
        · exact space
        · exact marks c (.inl opened)
        · exact conveyed.unclosed c (framed.mem inner)
        · exact marks c (.inr closed)
        · exact space
    rw [spoken]
    split
    · next wordless => exact kept.wordless wordless
    · exact kept

end Emphasis

namespace Node

/-- Elements that emphasize their content by marks that are no tags. -/
def emphasisNames : List String :=
  ["strong", "b", "em", "i", "s", "del", "strike"]

/-- Elements that flow their content and write no tags. -/
def wordingNames : List String :=
  ["p", "div", "span", "font"] ++ emphasisNames

mutual

/-- Whether a node flows words, and nothing else, through elements without attributes. -/
def isWording : Node → Bool
  | .text content => Text.isWording content
  | .element _ name attributes children =>
    wordingNames.contains name && attributes.isEmpty && areWording children
  | .document children => areWording children
  | .comment _ => true
  | .doctype _ => true
  | .instruction _ _ => true

/-- Whether nodes flow words, and nothing else, through elements without attributes. -/
def areWording : List Node → Bool
  | [] => true
  | node :: rest => isWording node && areWording rest

end

mutual

/-- The text of a node, without emphasis that holds no word. -/
def spokenText : Node → Text
  | .text content => content
  | .element _ name _ children =>
    if emphasisNames.contains name then (spokenTexts children).spoken else spokenTexts children
  | .document children => spokenTexts children
  | .comment _ => []
  | .doctype _ => []
  | .instruction _ _ => []

/-- The text of nodes one after another, without emphasis that holds no word. -/
def spokenTexts : List Node → Text
  | [] => []
  | node :: rest => spokenText node ++ spokenTexts rest

end

mutual

/-- The words that are spoken are the words of the text. -/
theorem wordChars_spokenText : ∀ node : Node,
    wordChars node.spokenText = wordChars node.textContent
  | .text content => by rw [spokenText, textContent_text]
  | .element space name attributes children => by
      rw [spokenText, textContent_element, ← wordChars_spokenTexts children]
      split
      · rw [wordChars_spoken]
      · rfl
  | .document children => by
      rw [spokenText, textContent_document, wordChars_spokenTexts children]
  | .comment _ | .doctype _ | .instruction _ _ => by
      rw [spokenText, textContent, textContentWithout]

private theorem wordChars_spokenTexts :
    ∀ nodes : List Node, wordChars (spokenTexts nodes) = wordChars (textContents nodes)
  | [] => by rw [spokenTexts, textContents_nil]
  | node :: rest => by
      rw [spokenTexts, textContents_cons, wordChars_append, wordChars_append,
        wordChars_spokenText node, wordChars_spokenTexts rest]

end

end Node

/-- What the rule of an element of words does to fragments. -/
theorem Rule.conveys_wrapBare {name : String} (listed : Node.wordingNames.contains name = true) :
    ∃ wrap, (Rule.ofName name).wrapBare? = some wrap ∧ ∀ (f : Fragment) (t : Text), f.Conveys t →
      (wrap f).Conveys (if Node.emphasisNames.contains name then t.spoken else t) := by
  have emphasis : ∀ kind : Emphasis, kind ≠ .underline → ∀ (f : Fragment) (t : Text),
      f.Conveys t → (kind.wrap f.trim).Conveys t.spoken :=
    fun _ marks _ _ conveyed => Emphasis.conveys_wrap marks conveyed
  rw [List.contains_iff_mem, Node.wordingNames, Node.emphasisNames] at listed
  simp only [List.cons_append, List.nil_append, List.mem_cons, List.not_mem_nil, or_false] at listed
  rcases listed with rfl | rfl | rfl | rfl | rfl | rfl | rfl | rfl | rfl | rfl | rfl
  · exact ⟨_, rfl, fun _ _ conveyed => conveyed.blocked⟩
  · exact ⟨_, rfl, fun _ _ conveyed => conveyed.closed⟩
  · exact ⟨_, rfl, fun _ _ conveyed => conveyed⟩
  · exact ⟨_, rfl, fun _ _ conveyed => conveyed⟩
  · exact ⟨_, rfl, emphasis .bold nofun⟩
  · exact ⟨_, rfl, emphasis .bold nofun⟩
  · exact ⟨_, rfl, emphasis .italic nofun⟩
  · exact ⟨_, rfl, emphasis .italic nofun⟩
  · exact ⟨_, rfl, emphasis .strike nofun⟩
  · exact ⟨_, rfl, emphasis .strike nofun⟩
  · exact ⟨_, rfl, emphasis .strike nofun⟩

mutual

/-- The draft of a node of words conveys what it speaks. -/
theorem draftNode_conveys (s : Settings) (centered : Bool) :
    ∀ node : Node, node.isWording = true →
      (draftNode s centered node).Settles fun f => f.Conveys node.spokenText
  | .text content, wording => by
      rw [Node.isWording] at wording
      rw [draftNode, Node.spokenText]
      exact .of (Plain.fragment_conveys wording)
  | .element space name attributes children, wording => by
      rw [Node.isWording, Bool.and_eq_true, Bool.and_eq_true, List.isEmpty_iff] at wording
      obtain ⟨⟨listed, rfl⟩, inner⟩ := wording
      obtain ⟨wrap, wraps, conveys⟩ := Rule.conveys_wrapBare listed
      rw [draftNode_bare wraps, Node.spokenText]
      exact (draftNodes_conveys s centered children inner).map fun f conveyed =>
        conveys f _ conveyed
  | .document children, wording => by
      rw [Node.isWording] at wording
      rw [draftNode, Node.spokenText]
      exact draftNodes_conveys s centered children wording
  | .comment _, _ | .doctype _, _ | .instruction _ _, _ => by
      rw [draftNode, Node.spokenText]
      exact .of .empty

private theorem draftNodes_conveys (s : Settings) (centered : Bool) :
    ∀ nodes : List Node, Node.areWording nodes = true →
      (draftNodes s centered nodes).Settles fun f => f.Conveys (Node.spokenTexts nodes)
  | [], _ => by
      rw [draftNodes, Node.spokenTexts]
      exact .of .empty
  | node :: rest, wording => by
      rw [Node.areWording, Bool.and_eq_true] at wording
      rw [draftNodes, Node.spokenTexts]
      exact (draftNode_conveys s centered node wording.1).combine
        (draftNodes_conveys s centered rest wording.2) fun _ _ first second => first.append second

end

namespace Article

/-- Documents of words convert without asking for assets. Their Markdown has the same words in the
same order, and words that whitespace separates stay separated by whitespace, unless it stands in
emphasis that holds no word. -/
theorem words_stay_apart {nodes : List Node} (wording : Node.areWording nodes = true)
    (s : Settings) (fetcher : Option Asset.Fetcher) (store : Asset.Store) :
    ∃ markdown, convertNodes fetcher s store nodes = (store, .ok markdown) ∧
      wordChars markdown = wordChars (Node.textContents nodes) ∧
      ∀ k, Separated k (Node.spokenTexts nodes) → Separated k markdown := by
  have conveyed : (draftDocument s nodes).Settles fun markdown =>
      wordChars markdown = wordChars (Node.spokenTexts nodes) ∧
        ∀ k, Separated k (Node.spokenTexts nodes) → Separated k markdown :=
    (draftNodes_conveys s false nodes wording).map fun f conveyed => conveyed.documentText
  obtain ⟨markdown, converts, words, separated⟩ := convertNodes_of_settles conveyed fetcher store
  exact ⟨markdown, converts, words.trans (Node.wordChars_spokenTexts nodes), separated⟩

/-- Two words in emphasis and beside it, with whitespace on both sides of a mark. -/
def flowingWords : List Node :=
  [.element .html "p" [] [.text "a ".toList, .element .html "em" [] [.text " b c".toList]]]

/-- The flowing words stay apart. -/
theorem words_stay_apart_flowingWords :
    Node.areWording flowingWords = true ∧
      ∃ markdown, convertNodes none {} {} flowingWords = ({}, .ok markdown) ∧
        wordChars markdown = wordChars (Node.textContents flowingWords) ∧
        ∀ k, Separated k (Node.spokenTexts flowingWords) → Separated k markdown := by
  have wording : Node.areWording flowingWords = true := by decide +kernel
  exact ⟨wording, words_stay_apart wording {} none {}⟩

/-- Two words with nothing but blank emphasis between them. -/
def joinedWords : List Node :=
  [.text "a".toList, .element .html "b" [] [.text " ".toList], .text "b".toList]

/-- Whitespace in emphasis that holds no word is dropped with the emphasis. -/
theorem emptyEmphasis_joins_words :
    Node.areWording joinedWords = true ∧ Separated 1 (Node.textContents joinedWords) ∧
      (convertNodes none {} {} joinedWords).2 = .ok "ab\n\n".toList ∧
      ¬Separated 1 "ab\n\n".toList := by
  refine ⟨by decide +kernel, by decide +kernel, by rfl, by decide +kernel⟩

end Article

end ArticleMarkdown
