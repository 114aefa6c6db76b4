import ArticleMarkdown.Proofs.Fragment.Blocks
import ArticleMarkdown.Proofs.Fragment.Marking

/-!
# Blocks one below another

Blocks are laid out one below another, with a blank line between two that show something. What a
run of blocks contributes to the final text is therefore a text of its own (`Token.Adds`), and the
texts of two runs are stacked as the runs are joined. A block of marked lines contributes these
lines (`Fragment.adds_blockBreak`).
-/

namespace ArticleMarkdown

namespace Text

/-- A text below another one, with a blank line between them unless one of them is empty. -/
def stack (upper lower : Text) : Text :=
  if upper.isEmpty then lower
  else if lower.isEmpty then upper
  else upper ++ '\n' :: '\n' :: lower

/-- Nothing is put below a text. -/
@[simp] theorem stack_nil (t : Text) : stack t [] = t := by
  cases t <;> rfl

/-- A text is put below nothing. -/
@[simp] theorem nil_stack (t : Text) : stack [] t = t := rfl

/-- Two texts that are not empty have a blank line between them. -/
theorem stack_of_ne_nil {upper lower : Text} (filled : upper ≠ []) (filled' : lower ≠ []) :
    stack upper lower = upper ++ '\n' :: '\n' :: lower := by
  rw [stack, if_neg (mt List.isEmpty_iff.mp filled), if_neg (mt List.isEmpty_iff.mp filled')]

/-- A text on which something is stacked is not empty. -/
theorem stack_ne_nil (upper : Text) {lower : Text} (filled : lower ≠ []) :
    stack upper lower ≠ [] := by
  by_cases nothing : upper = []
  · rw [nothing, nil_stack]
    exact filled
  · rw [stack_of_ne_nil nothing filled]
    exact List.append_ne_nil_of_left_ne_nil nothing _

/-- What follows the lower text follows the stack. -/
theorem stack_append (upper : Text) {lower : Text} (filled : lower ≠ []) (u : Text) :
    stack upper lower ++ u = stack upper (lower ++ u) := by
  by_cases nothing : upper = []
  · rw [nothing, nil_stack, nil_stack]
  · have filled' : lower ++ u ≠ [] := List.append_ne_nil_of_left_ne_nil filled u
    rw [stack_of_ne_nil nothing filled, stack_of_ne_nil nothing filled', List.append_assoc]
    rfl

/-- Stacking keeps the ink. -/
@[simp] theorem ink_stack (upper lower : Text) :
    ink (stack upper lower) = ink upper ++ ink lower := by
  by_cases above : upper = []
  · rw [above]
    rfl
  · by_cases below : lower = []
    · rw [below, stack_nil, ink_nil, List.append_nil]
    · rw [stack_of_ne_nil above below, ink_append]
      rfl

private theorem stack_assoc (a b c : Text) : stack (stack a b) c = stack a (stack b c) := by
  by_cases first : a = []
  · rw [first, nil_stack, nil_stack]
  · by_cases second : b = []
    · rw [second, stack_nil, nil_stack]
    · by_cases third : c = []
      · rw [third, stack_nil, stack_nil]
      · have upper : a ++ '\n' :: '\n' :: b ≠ [] := List.append_ne_nil_of_left_ne_nil first _
        have lower : b ++ '\n' :: '\n' :: c ≠ [] := List.append_ne_nil_of_left_ne_nil second _
        rw [stack_of_ne_nil first second, stack_of_ne_nil second third, stack_of_ne_nil upper third,
          stack_of_ne_nil first lower, List.append_assoc]
        rfl

/-- Cutting spacing off below a blank line may take the blank line too. -/
theorem dropSpacing_below {kept : Text} (filled : kept ≠ [])
    (ended : dropEndWhile isSpacing kept = kept) (t : Text) :
    dropEndWhile isSpacing (kept ++ '\n' :: '\n' :: t) =
      stack kept (dropEndWhile isSpacing t) := by
  have blankLine : kept ++ '\n' :: '\n' :: t = (kept ++ ['\n', '\n']) ++ t := by simp
  rw [blankLine]
  by_cases nothing : dropEndWhile isSpacing t = []
  · rw [dropEndWhile_append_of_nil nothing, dropEndWhile_append_of_nil (by decide), ended, nothing,
      stack_nil]
  · rw [dropEndWhile_append_of_ne_nil nothing, stack_of_ne_nil filled nothing, List.append_assoc]
    rfl

/-- A text of rows ends with no spacing. -/
theorem dropSpacing_rows {rows : List Text} (settled : ∀ row ∈ rows, Row row) (separator : Text) :
    dropEndWhile isSpacing (join separator rows) = join separator rows := by
  by_cases nothing : rows = []
  · rw [nothing]
    rfl
  · obtain ⟨before, c, ending, solid⟩ := join_rows_ends nothing settled separator
    rw [ending]
    exact dropEndWhile_solid (fun _ => isSpace_of_isSpacing) solid before

/-- Stacked texts of rows are a text of all rows. -/
theorem stack_rows {upper lower : List Text} (settled : ∀ row ∈ upper, Row row)
    (settled' : ∀ row ∈ lower, Row row) :
    stack (join ['\n', '\n'] upper) (join ['\n', '\n'] lower) =
      join ['\n', '\n'] (upper ++ lower) := by
  have filled : ∀ {rows : List Text}, rows ≠ [] → (∀ row ∈ rows, Row row) →
      join ['\n', '\n'] rows ≠ [] := by
    intro rows some rowsSettled
    obtain ⟨before, c, ending, -⟩ := join_rows_ends some rowsSettled ['\n', '\n']
    rw [ending]
    exact List.append_ne_nil_of_right_ne_nil before (List.cons_ne_nil c [])
  by_cases above : upper = []
  · rw [above]
    rfl
  · by_cases below : lower = []
    · rw [below, List.append_nil]
      exact stack_nil _
    · rw [stack_of_ne_nil (filled above settled) (filled below settled'), join_append _ above below,
        List.append_assoc]
      rfl

end Text

namespace Layout

variable {layout : Layout} {tokens : List Token}

/-- Where a block separator waits, tokens without one are laid out below what is written, unless
they start with a line break. -/
theorem written_below (blocked : layout.pendingBlock = true) (unbroken : .blockBreak ∉ tokens)
    (inline : Bool) (opens : ∀ c ∈ (tokens.foldl write ⟨[], false, inline⟩).written.head?,
      Text.isLineBreak c = false) :
    Text.dropEndWhile Text.isSpacing (tokens.foldl write layout).written =
      Text.stack (Text.dropEndWhile Text.isSpacing layout.written)
        (Text.dropEndWhile Text.isSpacing (tokens.foldl write ⟨[], false, inline⟩).written) := by
  induction tokens generalizing layout inline with
  | nil => exact (Text.stack_nil _).symm
  | cons token rest ih =>
      have below : .blockBreak ∉ rest := mt (List.mem_cons_of_mem _) unbroken
      cases token with
      | blockBreak => exact absurd List.mem_cons_self unbroken
      | inlineBreak =>
          have onward : (layout.write .inlineBreak).pendingBlock = true := blocked
          exact ih onward below _ opens
      | text t =>
          cases t with
          | nil => exact ih blocked below inline opens
          | cons c more =>
              have filled : c :: more ≠ [] := List.cons_ne_nil _ _
              have alone : write ⟨[], false, inline⟩ (.text (c :: more)) =
                  ⟨c :: more, false, false⟩ := by
                rw [write_unblocked rfl filled]
                simp [space, needsSpace_start]
              rw [List.foldl_cons, alone] at opens
              obtain ⟨after, whole⟩ :=
                @prefix_foldl_write ⟨c :: more, false, false⟩ rest rfl below
              rw [← whole] at opens
              have stays : (c :: more).dropWhile Text.isLineBreak = c :: more := by
                rw [List.dropWhile_cons_of_neg]
                simp [opens c rfl]
              rw [List.foldl_cons, List.foldl_cons, alone,
                write_blocked blocked (by rw [stays]; exact filled), stays]
              have ended := Text.dropEndWhile_idem Text.isSpacing layout.written
              generalize Text.dropEndWhile Text.isSpacing layout.written = kept at ended ⊢
              by_cases nothing : kept = []
              · rw [nothing]
                rfl
              · have moved := foldl_write_after filled below (kept ++ ['\n', '\n'])
                simp only [List.append_assoc, List.cons_append, List.nil_append] at moved
                rw [if_neg (mt List.isEmpty_iff.mp nothing), moved,
                  Text.dropSpacing_below nothing ended]

end Layout

namespace Token

variable {tokens left right : List Token} {s t : Text}

/-- Laid out where a block separator waits, the tokens add a text below what is written, and a
block separator waits again. -/
def Adds (tokens : List Token) (t : Text) : Prop :=
  ∀ layout : Layout, layout.pendingBlock = true →
    (tokens.foldl Layout.write layout).pendingBlock = true ∧
      Text.dropEndWhile Text.isSpacing (tokens.foldl Layout.write layout).written =
        Text.stack (Text.dropEndWhile Text.isSpacing layout.written) t

/-- Laid out anywhere, the tokens add a text below what is written. -/
def AddsBelow (tokens : List Token) (t : Text) : Prop :=
  ∀ layout : Layout, Text.dropEndWhile Text.isSpacing (tokens.foldl Layout.write layout).written =
    Text.stack (Text.dropEndWhile Text.isSpacing layout.written) t

/-- No tokens add nothing. -/
theorem adds_nil : Adds [] [] := by
  intro layout blocked
  exact ⟨blocked, (Text.stack_nil _).symm⟩

/-- Joined tokens add one text below the other. -/
theorem Adds.join (adds : Adds left s) (adds' : Adds right t) :
    Adds (join left right) (Text.stack s t) := by
  intro layout blocked
  obtain ⟨blocked', laid⟩ := adds layout blocked
  obtain ⟨blocked'', laid'⟩ := adds' _ blocked'
  rw [Layout.foldl_write_join]
  refine ⟨blocked'', ?_⟩
  rw [laid', laid, Text.stack_assoc]

/-- A block separator starts the text that tokens add. -/
theorem Adds.below (adds : Adds tokens t) : AddsBelow (.blockBreak :: tokens) t :=
  fun layout => (adds (layout.write .blockBreak) rfl).2

/-- No tokens add nothing below. -/
theorem addsBelow_nil : AddsBelow [] [] :=
  fun _ => (Text.stack_nil _).symm

/-- Further tokens add their text below that of the first. -/
theorem AddsBelow.join (adds : AddsBelow left s) (adds' : AddsBelow right t) :
    AddsBelow (join left right) (Text.stack s t) := by
  intro layout
  rw [Layout.foldl_write_join, adds', adds, Text.stack_assoc]

end Token

namespace Fragment

variable {f : Fragment}

/-- A fragment without block separators, closed by one, adds what it is laid out as. -/
theorem adds_blockBreak (unbroken : .blockBreak ∉ f.tokens)
    (opens : ∀ c ∈ f.laid.head?, Text.isLineBreak c = false) :
    Token.Adds (f ++ blockBreak).tokens (Text.dropEndWhile Text.isSpacing f.laid) := by
  intro layout blocked
  rw [tokens_append, Layout.foldl_write_join]
  exact ⟨rfl, Layout.written_below blocked unbroken false opens⟩

/-- Behind a text, blocks are laid out below it. -/
theorem finalText_ofText_append {t : Text} (below : Token.AddsBelow f.tokens t) (head : Text) :
    (ofText head ++ f).finalText =
      Text.trim (Text.stack (Text.dropEndWhile Text.isSpacing head) t) := by
  have started : (Layout.start.write (.text head)).written = head := by
    by_cases nothing : head = []
    · rw [nothing]
      rfl
    · rw [Layout.write_unblocked rfl nothing]
      rfl
  have written : (ofText head).tokens.foldl Layout.write .start =
      Layout.start.write (.text head) := by
    cases head <;> rfl
  rw [finalText, tokens_append, Layout.foldl_write_join, written, ← Text.trim_dropSpacing, below,
    started]

/-- The final text is what the tokens add to an empty text, trimmed. -/
theorem finalText_of_addsBelow {t : Text} (below : Token.AddsBelow f.tokens t) :
    f.finalText = Text.trim t :=
  finalText_ofText_append below []

end Fragment
end ArticleMarkdown
