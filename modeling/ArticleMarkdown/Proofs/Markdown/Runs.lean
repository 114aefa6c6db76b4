import ArticleMarkdown.Proofs.Document.Prose
import ArticleMarkdown.Proofs.Document.Unmentioned
import ArticleMarkdown.Proofs.Fragment.Flat
import ArticleMarkdown.Proofs.Fragment.Origins
import ArticleMarkdown.Proofs.Markdown.Words
import ArticleMarkdown.Proofs.Text.Runs

/-!
# Runs of the marks of emphasis

Emphasis puts its marks directly around what it shows. Where the first or the last thing shown is
emphasis of the same mark, the marks of both stand next to each other, and nothing else brings marks
together: a run of marks stands in the Markdown of a document exactly where the emphasis of its tree
is nested so (`Article.markRun_iff`). Bold text at the edge of bold text shows four asterisks in a
row (`Article.markRun_nestedStrong`).
-/

namespace ArticleMarkdown

open Text

/-- A text without closing punctuation stands in a document where its fragment mentions it. -/
theorem Fragment.infix_documentText_iff {p : Text} (unclosed : p.Unclosed) (f : Fragment) :
    p <:+: f.documentText ↔ p <:+: f.spread := by
  obtain ⟨ending, blank, split⟩ := f.documentText_split
  rw [split]
  refine ⟨fun held => Mentions.of_finalText unclosed ?_, fun held => ?_⟩
  · exact unclosed.infix_of_append_blank blank held
  · exact List.infix_append_of_infix_left (Mentions.finalText unclosed.toSolid held)

namespace Emphasis

private theorem spread_core (f : Fragment) : (core f).spread = trim f.spread := by
  rw [core, Fragment.spread_trim (Fragment.flat_flattened _), Fragment.spread_flattened]
  exact (trim_of_frames (Token.frames_dropBlank (fun _ blank => blank) f.tokens)).symm

/-- Emphasis shows its trimmed content between its marks. -/
theorem spread_wrap (kind : Emphasis) (f : Fragment) :
    (kind.wrap f).spread =
      if isBlank f.spread then []
      else ' ' :: (kind.opening ++ trim f.spread ++ kind.closing ++ [' ']) := by
  have nothing : (core f).isBlank = isBlank f.spread := by
    rw [Bool.eq_iff_iff, Fragment.isBlank_iff, Fragment.ink, spread_core, ink_trim, ink_eq_nil]
  rw [wrap_eq, nothing]
  split
  · rfl
  · simp [spread_core]

private theorem spread_wrap_trim (kind : Emphasis) (f : Fragment) :
    (kind.wrap f.trim).spread =
      if isBlank f.spread then []
      else ' ' :: (kind.opening ++ trim f.spread ++ kind.closing ++ [' ']) := by
  have blank : isBlank f.trim.spread = isBlank f.spread := by
    rw [Bool.eq_iff_iff, ← ink_eq_nil, ← ink_eq_nil, f.frames_trim.ink_eq]
  rw [spread_wrap, blank, ← trim_of_frames f.frames_trim]

/-- How often a mark stands on each side of the content. -/
def marks (mark : Char) (kind : Emphasis) : Nat :=
  kind.opening.count mark

/-- The run of a mark at an edge of emphasis, from the one at that edge of its content. -/
def run (mark : Char) (kind : Emphasis) (shown : Text) (inner : Nat) : Nat :=
  if isBlank shown || kind.marks mark == 0 then 0 else kind.marks mark + inner

end Emphasis

namespace Node

mutual

/-- The length of the run of a mark that stands at an edge of what a node shows. -/
def edgeRun (mark : Char) (atEnd : Bool) : Node → Nat
  | .element _ name _ children =>
    match Rule.ofName name with
    | .emphasis kind => kind.run mark (textContents children) (edgeRuns mark atEnd children)
    | _ => edgeRuns mark atEnd children
  | .document children => edgeRuns mark atEnd children
  | .text _ => 0
  | .comment _ => 0
  | .doctype _ => 0
  | .instruction _ _ => 0

/-- The length of the run at an edge of what nodes show: at that of the first node that shows
something, or of the last one. -/
def edgeRuns (mark : Char) (atEnd : Bool) : List Node → Nat
  | [] => 0
  | node :: rest =>
    if isBlank (if atEnd then textContents rest else textContent node) == atEnd then
      edgeRun mark atEnd node
    else edgeRuns mark atEnd rest

end

/-- Whether a run of so many marks stands at an edge of what some of the nodes show. -/
def HoldRun (mark : Char) (n : Nat) (nodes : List Node) : Prop :=
  ∃ node ∈ nodes, ∃ atEnd, n ≤ node.edgeRun mark atEnd

section HoldRun

variable {mark : Char} {n : Nat}

private theorem holdRun_cons {node : Node} {rest : List Node} :
    HoldRun mark n (node :: rest) ↔
      (∃ atEnd, n ≤ node.edgeRun mark atEnd) ∨ HoldRun mark n rest := by
  simp only [HoldRun, List.mem_cons, exists_eq_or_imp]

/-- A node with no run at its edges holds the runs that stand below it. -/
theorem holdRun_of_edgeless {node : Node} {below : List Node} (some : n ≠ 0)
    (none : ∀ atEnd, node.edgeRun mark atEnd = 0) :
    HoldRun mark n (node :: below) ↔ HoldRun mark n below := by
  rw [holdRun_cons]
  refine or_iff_right ?_
  rintro ⟨atEnd, within⟩
  rw [none] at within
  exact some (Nat.le_zero.mp within)

private theorem not_holdRun_nil : ¬HoldRun mark n [] :=
  fun ⟨_, member, _⟩ => List.not_mem_nil member

private theorem holdRun_append {first second : List Node} :
    HoldRun mark n (first ++ second) ↔ HoldRun mark n first ∨ HoldRun mark n second := by
  simp only [HoldRun, List.mem_append, or_and_right, exists_or]

end HoldRun

mutual

/-- Whether a node flows text without marks, and nothing else, through elements without
attributes. -/
def isUnmarked : Node → Bool
  | .text content => !content.contains '*' && !content.contains '~'
  | .element _ name attributes children =>
    wordingNames.contains name && attributes.isEmpty && areUnmarked children
  | .document children => areUnmarked children
  | .comment _ => true
  | .doctype _ => true
  | .instruction _ _ => true

/-- Whether nodes flow text without marks, and nothing else, through elements without
attributes. -/
def areUnmarked : List Node → Bool
  | [] => true
  | node :: rest => isUnmarked node && areUnmarked rest

end

end Node

/-- What the text of nodes shows of a mark: runs at its edges, and the runs in it. -/
structure Text.Marked (mark : Char) (shown t : Text) (run : Bool → Nat) (found : Nat → Prop) :
    Prop where
  blank : isBlank shown = true → isBlank t = true ∧ ∀ atEnd, run atEnd = 0
  edged : isBlank shown = false → Edged mark t (run false) (run true)
  run_iff : ∀ n ≠ 0, List.replicate n mark <:+: t ↔ found n

namespace Text.Marked

variable {mark : Char} {shown t : Text} {run : Bool → Nat} {found : Nat → Prop}

private theorem none (ink : isSpace mark = false) {w : Text} (blank : isBlank w = true)
    (absent : ∀ n ≠ 0, ¬found n) : Marked mark [] w (fun _ => 0) found where
  blank _ := ⟨blank, fun _ => rfl⟩
  edged shown := nomatch shown
  run_iff n some :=
    iff_of_false ((solid_run ink some).not_infix_blank blank) (absent n some)

/-- Nodes one after another join no runs. -/
theorem append (ink : isSpace mark = false) (marked : Marked mark shown t run found)
    {shown' t' : Text} {run' : Bool → Nat} {found' : Nat → Prop}
    (marked' : Marked mark shown' t' run' found') :
    Marked mark (shown ++ shown') (t ++ t')
      (fun atEnd => if isBlank (if atEnd then shown' else shown) == atEnd then run atEnd
        else run' atEnd) fun n => found n ∨ found' n where
  blank nothing := by
    rw [isBlank_append, Bool.and_eq_true] at nothing
    obtain ⟨blank, runs⟩ := marked.blank nothing.1
    obtain ⟨blank', runs'⟩ := marked'.blank nothing.2
    refine ⟨by rw [isBlank_append, blank, blank']; rfl, fun atEnd => ?_⟩
    simp only [runs, runs', ite_self]
  edged something := by
    rw [isBlank_append] at something
    cases nothing : isBlank shown with
    | true =>
        cases nothing' : isBlank shown' with
        | true =>
            rw [nothing, nothing'] at something
            cases something
        | false =>
            simpa [nothing, nothing'] using
              (marked'.edged nothing').blank_append ink (marked.blank nothing).1
    | false =>
        cases nothing' : isBlank shown' with
        | true =>
            simpa [nothing, nothing'] using
              (marked.edged nothing).append_blank ink (marked'.blank nothing').1
        | false =>
            simpa [nothing, nothing'] using (marked.edged nothing).append (marked'.edged nothing')
  run_iff n some := by
    rw [← marked.run_iff n some, ← marked'.run_iff n some]
    cases nothing : isBlank shown with
    | true =>
        have blank := (marked.blank nothing).1
        have solid := solid_run ink some
        rw [solid.infix_frames_iff ⟨t, [], blank, rfl, (List.append_nil _).symm⟩,
          or_iff_right (solid.not_infix_blank blank)]
    | false => exact (marked.edged nothing).run_append_iff t'

private theorem congr (marked : Marked mark shown t run found) {run' : Bool → Nat}
    {found' : Nat → Prop}
    (same : ∀ atEnd, run' atEnd = run atEnd) (alike : ∀ n ≠ 0, found' n ↔ found n) :
    Marked mark shown t run' found' where
  blank nothing := by
    obtain ⟨blank, runs⟩ := marked.blank nothing
    exact ⟨blank, fun atEnd => (same atEnd).trans (runs atEnd)⟩
  edged something := by
    rw [same, same]
    exact marked.edged something
  run_iff n some := (marked.run_iff n some).trans (alike n some).symm

/-- The runs at the edges are among those in the text. -/
theorem found_of_le (marked : Marked mark shown t run found) {n : Nat} (some : n ≠ 0)
    (within : ∃ atEnd, n ≤ run atEnd) : found n := by
  cases nothing : isBlank shown with
  | true =>
      obtain ⟨atEnd, within⟩ := within
      rw [(marked.blank nothing).2 atEnd] at within
      exact absurd (Nat.le_zero.mp within) some
  | false =>
      rw [Bool.exists_bool] at within
      exact (marked.run_iff n some).mp ((marked.edged nothing).run_of_le within)

/-- Whitespace around what nodes show changes no run. -/
theorem framed (ink : isSpace mark = false) (marked : Marked mark shown t run found)
    {before after : Text} (blank : isBlank before = true) (blank' : isBlank after = true) :
    Marked mark shown (before ++ t ++ after) run found where
  blank nothing := by
    obtain ⟨inner, runs⟩ := marked.blank nothing
    exact ⟨by rw [isBlank_append, isBlank_append, blank, blank', inner]; rfl, runs⟩
  edged something :=
    ((marked.edged something).blank_append ink blank).append_blank ink blank'
  run_iff n some := by
    rw [← marked.run_iff n some]
    exact (solid_run ink some).infix_frames_iff ⟨before, after, blank, blank', rfl⟩

end Text.Marked

namespace Emphasis

variable {mark : Char} {kind : Emphasis}

private theorem isSpace_mark (listed : mark = '*' ∨ mark = '~') : isSpace mark = false := by
  rcases listed with rfl | rfl <;> rfl

/-- The marks of emphasis are runs of one mark, or hold none of it. -/
theorem marks_cases (listed : mark = '*' ∨ mark = '~') (kind : Emphasis) :
    (kind.marks mark ≠ 0 ∧ kind.opening = List.replicate (kind.marks mark) mark ∧
        kind.closing = List.replicate (kind.marks mark) mark) ∨
      (kind.marks mark = 0 ∧ mark ∉ kind.opening ∧ mark ∉ kind.closing) := by
  rcases listed with rfl | rfl <;> cases kind <;> decide +kernel

private theorem marks_sealed (kind : Emphasis) :
    kind.opening ≠ [] ∧ (∀ c ∈ kind.opening.head?, isSpace c = false) ∧
      kind.closing ≠ [] ∧ ∀ c ∈ kind.closing.getLast?, isSpace c = false := by
  have opens : kind.opening.head?.any (fun c => !isSpace c) = true := by cases kind <;> rfl
  have closes : kind.closing.getLast?.any (fun c => !isSpace c) = true := by cases kind <;> rfl
  refine ⟨fun none => ?_, fun c first => ?_, fun none => ?_, fun c last => ?_⟩
  · rw [none] at opens
    cases opens
  · rw [Option.mem_def.mp first] at opens
    simpa using opens
  · rw [none] at closes
    cases closes
  · rw [Option.mem_def.mp last] at closes
    simpa using closes

section Wrap

variable (listed : mark = '*' ∨ mark = '~') {shown : Text}
  {inner : Bool → Nat} {found : Nat → Prop} {f : Fragment}
  (marked : Marked mark shown f.spread inner found)
include listed marked

private theorem edged_wrap (something : isBlank shown = false) :
    Edged mark (kind.wrap f.trim).spread (kind.run mark shown (inner false))
      (kind.run mark shown (inner true)) := by
  have ink := isSpace_mark listed
  have edged := marked.edged something
  rw [spread_wrap_trim, edged.not_blank, if_neg Bool.false_ne_true]
  rcases kind.marks_cases listed with ⟨some, opens, closes⟩ | ⟨none, unmarked, unmarked'⟩
  · simp only [run, something, beq_false_of_ne some, Bool.or_self, Bool.false_eq_true, if_false]
    rw [opens, closes]
    exact edged.wrap ink _
  · simp only [run, something, none, beq_self_eq_true, Bool.or_true, if_true]
    obtain ⟨filled, solid, filled', solid'⟩ := kind.marks_sealed
    exact .wrap_other ink unmarked unmarked' filled solid filled' solid' f.spread

private theorem run_wrap_iff {n : Nat} (some : n ≠ 0) :
    List.replicate n mark <:+: (kind.wrap f.trim).spread ↔
      (∃ atEnd, n ≤ kind.run mark shown (inner atEnd)) ∨ found n := by
  have ink := isSpace_mark listed
  have solid := solid_run ink some
  have nonzero : ¬n ≤ 0 := fun none => some (Nat.le_zero.mp none)
  rw [← marked.run_iff n some, spread_wrap_trim]
  cases nothing : isBlank shown with
  | true =>
      have blank := (marked.blank nothing).1
      rw [blank, if_pos rfl]
      simp only [run, nothing, Bool.true_or, if_true, nonzero, exists_const, false_or]
      exact iff_of_false (solid.not_infix_blank rfl) (solid.not_infix_blank blank)
  | false =>
      have edged := marked.edged nothing
      rw [edged.not_blank, if_neg Bool.false_ne_true]
      rcases kind.marks_cases listed with ⟨more, opens, closes⟩ | ⟨none, unmarked, unmarked'⟩
      · simp only [run, nothing, beq_false_of_ne more, Bool.or_self, Bool.false_eq_true, if_false,
          Bool.exists_bool]
        rw [opens, closes]
        exact edged.run_wrap_iff ink _ some
      · simp only [run, nothing, none, beq_self_eq_true, Bool.or_true, if_true, nonzero,
          exists_const, false_or]
        exact Edged.run_wrap_other_iff ink unmarked unmarked' some f.spread

/-- Emphasis lengthens the runs at the edges of its content, if it is emphasis of the mark. -/
theorem marked_wrap :
    Marked mark shown (kind.wrap f.trim).spread (fun atEnd => kind.run mark shown (inner atEnd))
      fun n => (∃ atEnd, n ≤ kind.run mark shown (inner atEnd)) ∨ found n where
  blank nothing := by
    rw [spread_wrap_trim, (marked.blank nothing).1, if_pos rfl]
    exact ⟨rfl, fun atEnd => by rw [run, nothing, Bool.true_or, if_pos rfl]⟩
  edged := edged_wrap listed marked
  run_iff _ := run_wrap_iff listed marked

end Wrap
end Emphasis

namespace Plain

private theorem marked_fragment {mark : Char} (ink : isSpace mark = false) {content : Text}
    (unmarked : mark ∉ content) {found : Nat → Prop} (absent : ∀ n ≠ 0, ¬found n) :
    Marked mark content (fragment content).spread (fun _ => 0) found := by
  have same : Text.ink (fragment content).spread = Text.ink content := ink_fragment content
  have unwritten : mark ∉ (fragment content).spread := by
    intro member
    have inInk : mark ∈ Text.ink content := by
      rw [← same]
      exact List.mem_filter.mpr ⟨member, by rw [ink]; rfl⟩
    exact unmarked (List.mem_of_mem_filter inInk)
  refine ⟨fun nothing => ⟨?_, fun _ => rfl⟩, fun something => .of_unmarked ?_ unwritten,
    fun n some => ?_⟩
  · rw [← ink_eq_nil, same, ink_eq_nil]
    exact nothing
  · rw [← Bool.not_eq_true, ← ink_eq_nil, same, ink_eq_nil, Bool.not_eq_true]
    exact something
  · refine iff_of_false (fun held => unwritten (held.subset ?_)) (absent n some)
    exact List.mem_replicate.mpr ⟨some, rfl⟩

end Plain

/-- What the rule of an element of words makes of content: emphasis of it, or whitespace around
it. -/
theorem Rule.wrapBare_cases {name : String} (listed : Node.wordingNames.contains name = true) :
    ∃ wrap, (Rule.ofName name).wrapBare? = some wrap ∧
      ((∃ kind, Rule.ofName name = .emphasis kind ∧ ∀ f, wrap f = kind.wrap f.trim) ∨
        (∀ kind, Rule.ofName name ≠ .emphasis kind) ∧ ∃ before after,
          isBlank before = true ∧ isBlank after = true ∧
            ∀ f, (wrap f).spread = before ++ f.spread ++ after) := by
  have others : ∀ {rule : Rule}, rule = .paragraph ∨ rule = .container ∨ rule = .span ∨
      rule = .font → ∀ kind, rule ≠ .emphasis kind := by
    rintro rule listed kind rfl
    simp at listed
  rw [List.contains_iff_mem, Node.wordingNames, Node.emphasisNames] at listed
  simp only [List.cons_append, List.nil_append, List.mem_cons, List.not_mem_nil, or_false] at listed
  rcases listed with rfl | rfl | rfl | rfl | rfl | rfl | rfl | rfl | rfl | rfl | rfl
  · exact ⟨_, rfl, .inr ⟨others (.inl rfl), [' '], [' '], rfl, rfl,
      fun f => by simp [Fragment.blocked]⟩⟩
  · exact ⟨_, rfl, .inr ⟨others (.inr (.inl rfl)), [], [' '], rfl, rfl,
      fun f => by simp [Fragment.closed]⟩⟩
  · exact ⟨_, rfl, .inr ⟨others (.inr (.inr (.inl rfl))), [], [], rfl, rfl, fun f => by simp⟩⟩
  · exact ⟨_, rfl, .inr ⟨others (.inr (.inr (.inr rfl))), [], [], rfl, rfl, fun f => by simp⟩⟩
  · exact ⟨_, rfl, .inl ⟨.bold, rfl, fun f => rfl⟩⟩
  · exact ⟨_, rfl, .inl ⟨.bold, rfl, fun f => rfl⟩⟩
  · exact ⟨_, rfl, .inl ⟨.italic, rfl, fun f => rfl⟩⟩
  · exact ⟨_, rfl, .inl ⟨.italic, rfl, fun f => rfl⟩⟩
  · exact ⟨_, rfl, .inl ⟨.strike, rfl, fun f => rfl⟩⟩
  · exact ⟨_, rfl, .inl ⟨.strike, rfl, fun f => rfl⟩⟩
  · exact ⟨_, rfl, .inl ⟨.strike, rfl, fun f => rfl⟩⟩

section Tree

variable {mark : Char} (listed : mark = '*' ∨ mark = '~')
include listed

private theorem Node.notMem_of_isUnmarked {content : Text}
    (unmarked : (Node.text content).isUnmarked = true) : mark ∉ content := by
  rw [isUnmarked, Bool.and_eq_true, Bool.not_eq_true', Bool.not_eq_true'] at unmarked
  rcases listed with rfl | rfl
  · simpa using unmarked.1
  · simpa using unmarked.2

/-- A node without text holds no runs. -/
theorem Node.marked_of_silent {node : Node} (silent : node.textContent = [])
    (none : ∀ atEnd, node.edgeRun mark atEnd = 0) :
    Marked mark node.textContent (∅ : Fragment).spread (fun atEnd => node.edgeRun mark atEnd)
      fun n => HoldRun mark n [node] := by
  rw [silent]
  refine (Marked.none (Emphasis.isSpace_mark listed) rfl fun n some => ?_).congr none
    fun _ _ => .rfl
  rw [holdRun_of_edgeless some none]
  exact not_holdRun_nil

mutual

/-- The draft of an unmarked node has the runs of marks that the node tells, within and at its
edges. -/
theorem draftNode_marked (s : Settings) (centered : Bool) :
    ∀ node : Node, node.isUnmarked = true → (draftNode s centered node).Settles fun f =>
      Marked mark node.textContent f.spread (fun atEnd => node.edgeRun mark atEnd)
        fun n => Node.HoldRun mark n node.subtree
  | .text content, unmarked => by
      rw [draftNode, Node.textContent_text]
      have none : ∀ atEnd, (Node.text content).edgeRun mark atEnd = 0 := fun atEnd => by
        rw [Node.edgeRun]
      refine .of ((Plain.marked_fragment (Emphasis.isSpace_mark listed)
        (Node.notMem_of_isUnmarked listed unmarked) fun n some => ?_).congr none fun _ _ => .rfl)
      rw [Node.subtree, Node.holdRun_of_edgeless some none]
      exact Node.not_holdRun_nil
  | .element space name attributes children, unmarked => by
      rw [Node.isUnmarked, Bool.and_eq_true, Bool.and_eq_true, List.isEmpty_iff] at unmarked
      obtain ⟨⟨named, rfl⟩, inner⟩ := unmarked
      obtain ⟨wrap, wraps, cases⟩ := Rule.wrapBare_cases named
      rw [draftNode_bare wraps, Node.textContent_element, Node.subtree]
      refine (draftNodes_marked s centered children inner).map fun f marked => ?_
      rcases cases with ⟨kind, rule, emphasis⟩ | ⟨other, before, after, blank, blank', around⟩
      · have runs : ∀ atEnd, (Node.element space name [] children).edgeRun mark atEnd =
            kind.run mark (Node.textContents children) (Node.edgeRuns mark atEnd children) :=
          fun atEnd => by rw [Node.edgeRun, rule]
        rw [emphasis]
        refine (Emphasis.marked_wrap listed marked).congr runs fun n _ => ?_
        simp only [Node.holdRun_cons, runs]
      · have runs : ∀ atEnd, (Node.element space name [] children).edgeRun mark atEnd =
            Node.edgeRuns mark atEnd children := fun atEnd => by
          rw [Node.edgeRun]
          split
          · next kind rule => exact absurd rule (other kind)
          · rfl
        rw [around]
        have framed := marked.framed (Emphasis.isSpace_mark listed) blank blank'
        refine framed.congr runs fun n some => ?_
        simp only [Node.holdRun_cons, runs]
        exact or_iff_right_of_imp (marked.found_of_le some)
  | .document children, unmarked => by
      rw [Node.isUnmarked] at unmarked
      rw [draftNode, Node.textContent_document, Node.subtree]
      obtain ⟨f, settled, marked⟩ := draftNodes_marked s centered children unmarked
      have runs : ∀ atEnd, (Node.document children).edgeRun mark atEnd =
          Node.edgeRuns mark atEnd children := fun atEnd => by rw [Node.edgeRun]
      refine ⟨f, settled, marked.congr runs fun n some => ?_⟩
      simp only [Node.holdRun_cons, runs]
      exact or_iff_right_of_imp (marked.found_of_le some)
  | .comment _, _ | .doctype _, _ | .instruction _ _, _ => by
      rw [draftNode, Node.subtree]
      refine .of (Node.marked_of_silent listed ?_ fun atEnd => ?_)
      · rw [Node.textContent, Node.textContentWithout]
      · rw [Node.edgeRun]

private theorem draftNodes_marked (s : Settings) (centered : Bool) :
    ∀ nodes : List Node, Node.areUnmarked nodes = true →
      (draftNodes s centered nodes).Settles fun f =>
        Marked mark (Node.textContents nodes) f.spread (fun atEnd => Node.edgeRuns mark atEnd nodes)
          fun n => Node.HoldRun mark n (Node.subtrees nodes)
  | [], _ => by
      rw [draftNodes, Node.textContents_nil, Node.subtrees_nil]
      refine .of ((Marked.none (Emphasis.isSpace_mark listed) rfl fun n _ =>
        Node.not_holdRun_nil).congr (fun atEnd => ?_) fun _ _ => .rfl)
      rw [Node.edgeRuns]
  | node :: rest, unmarked => by
      rw [Node.areUnmarked, Bool.and_eq_true] at unmarked
      rw [draftNodes, Node.textContents_cons, Node.subtrees_cons]
      refine (draftNode_marked s centered node unmarked.1).combine
        (draftNodes_marked s centered rest unmarked.2) fun f g marked marked' => ?_
      rw [Fragment.spread_append]
      have joined := marked.append (Emphasis.isSpace_mark listed) marked'
      refine joined.congr (fun atEnd => ?_) fun n _ => ?_
      · rw [Node.edgeRuns]
      · exact Node.holdRun_append

end
end Tree

namespace Article

/-- Documents of text without marks convert without asking for assets. Their Markdown holds a run of
a mark exactly where such a run stands at an edge of what a node of the tree shows. -/
theorem markRun_iff {nodes : List Node} (unmarked : Node.areUnmarked nodes = true) {mark : Char}
    (listed : mark = '*' ∨ mark = '~') (s : Settings) (fetcher : Option Asset.Fetcher)
    (store : Asset.Store) :
    ∃ markdown, convertNodes fetcher s store nodes = (store, .ok markdown) ∧
      ∀ n ≠ 0, List.replicate n mark <:+: markdown ↔
        Node.HoldRun mark n (Node.subtrees nodes) := by
  have unpunctuated : isClosingPunctuation mark = false := by
    rcases listed with rfl | rfl <;> decide +kernel
  have settled : (draftDocument s nodes).Settles fun markdown =>
      ∀ n ≠ 0, List.replicate n mark <:+: markdown ↔
        Node.HoldRun mark n (Node.subtrees nodes) := by
    refine (draftNodes_marked listed s false nodes unmarked).map fun f marked n some => ?_
    have unclosed : Unclosed (List.replicate n mark) :=
      ⟨solid_run (Emphasis.isSpace_mark listed) some, fun c member =>
        List.eq_of_mem_replicate member ▸ unpunctuated⟩
    rw [Fragment.infix_documentText_iff unclosed, marked.run_iff n some]
  exact convertNodes_of_settles settled fetcher store

/-- Italic text at the end of bold text. -/
def boldItalic : List Node :=
  [.element .html "strong" []
    [.text "a ".toList, .element .html "span" [] [.element .html "em" [] [.text "b".toList]]]]

/-- Bold text within italic text has a run of three marks and none of four. -/
theorem markRun_iff_boldItalic :
    Node.areUnmarked boldItalic = true ∧ ('*' = '*' ∨ '*' = '~') ∧
      ∃ markdown, convertNodes none {} {} boldItalic = ({}, .ok markdown) ∧
        ∀ n ≠ 0, List.replicate n '*' <:+: markdown ↔
          Node.HoldRun '*' n (Node.subtrees boldItalic) := by
  have unmarked : Node.areUnmarked boldItalic = true := by decide +kernel
  exact ⟨unmarked, .inl rfl, markRun_iff unmarked (.inl rfl) {} none {}⟩

/-- Bold text that is all there is of bold text. -/
def nestedStrong : List Node :=
  [.element .html "strong" [] [.element .html "strong" [] [.text "x".toList]]]

/-- Bold text within bold text has a run of four marks. -/
theorem markRun_nestedStrong :
    Node.areUnmarked nestedStrong = true ∧
      (convertNodes none {} {} nestedStrong).2 = .ok "****x****\n\n".toList ∧
      List.replicate 4 '*' <:+: "****x****\n\n".toList := by
  refine ⟨by decide +kernel, by rfl, by decide⟩

end Article
end ArticleMarkdown
