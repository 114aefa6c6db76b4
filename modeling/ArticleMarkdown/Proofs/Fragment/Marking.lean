import ArticleMarkdown.Proofs.Fragment.Mentions
import ArticleMarkdown.Proofs.Fragment.Resolution
import ArticleMarkdown.Proofs.Text.Lines

/-!
# Marked lines in the final text

Lines are cut out of tokens, and the layout runs over all tokens at once. Without block separators
the two agree: the layout of a fragment is the layouts of its lines, joined by line breaks
(`Fragment.laid_eq_join`), because after a line break no separator becomes a space. So a mark in
front of a line stands in front of that line in the final text (`Fragment.finalText_markLines`).
-/

namespace ArticleMarkdown

/-- What a token can be within a line. -/
def Token.InLine : Token → Prop
  | .text t => t ≠ [] ∧ '\n' ∉ t
  | .inlineBreak => True
  | .blockBreak => False

namespace Layout

variable {layout : Layout} {tokens : List Token} {t : Text}

/-- A text may be written in two parts. -/
theorem write_text_append (layout : Layout) (s t : Text) :
    layout.write (.text (s ++ t)) = (layout.write (.text s)).write (.text t) := by
  cases blocked : layout.pendingBlock with
  | false => exact write_append blocked s t
  | true =>
      by_cases opened : s.dropWhile Text.isLineBreak = []
      · -- Line breaks at the start are absorbed, whichever part they stand in.
        have absorbed : (s ++ t).dropWhile Text.isLineBreak = t.dropWhile Text.isLineBreak := by
          rw [List.dropWhile_append, opened]
          rfl
        rw [write_lineBreaks blocked opened]
        by_cases nothing : t.dropWhile Text.isLineBreak = []
        · rw [write_lineBreaks blocked nothing, write_lineBreaks blocked (absorbed.trans nothing)]
        · have something : (s ++ t).dropWhile Text.isLineBreak ≠ [] := absorbed ▸ nothing
          rw [write_blocked blocked nothing, write_blocked blocked something, absorbed]
      · have kept : (s ++ t).dropWhile Text.isLineBreak = s.dropWhile Text.isLineBreak ++ t := by
          rw [List.dropWhile_append, if_neg (mt List.isEmpty_iff.mp opened)]
        have something : (s ++ t).dropWhile Text.isLineBreak ≠ [] :=
          kept ▸ List.append_ne_nil_of_left_ne_nil opened t
        rw [write_blocked blocked opened, write_blocked blocked something, kept]
        by_cases nothing : t = []
        · rw [nothing, List.append_nil, write_nil]
        · rw [write_unblocked rfl nothing]
          split <;> simp [space]

/-- Joining tokens changes nothing for the layout. -/
theorem foldl_write_join (left right : List Token) (layout : Layout) :
    (Token.join left right).foldl write layout = right.foldl write (left.foldl write layout) := by
  fun_induction Token.join left right generalizing layout with
  | case1 right => rfl
  | case2 s t right =>
      rw [List.foldl_cons, write_text_append]
      rfl
  | case3 token left right _ ih => exact ih (layout.write token)

/-- The first text needs no space in front. -/
theorem needsSpace_start (t : Text) : Text.needsSpace [] t = false := rfl

/-- Tokens are laid out behind any text as behind the last part of it. -/
theorem foldl_write_after (filled : t ≠ []) (unbroken : .blockBreak ∉ tokens) (before : Text) :
    (tokens.foldl write ⟨before ++ t, false, false⟩).written =
      before ++ (tokens.foldl write ⟨t, false, false⟩).written :=
  congrArg Layout.written (@foldl_write_behind ⟨t, false, false⟩ tokens rfl filled unbroken before)

/-- Behind text after which nothing needs a space, tokens are laid out as on their own. -/
theorem written_fresh {written : Text} (fresh : ∀ t, Text.needsSpace written t = false)
    (unbroken : .blockBreak ∉ tokens) (inline inline' : Bool) :
    (tokens.foldl write ⟨written, false, inline⟩).written =
      written ++ (tokens.foldl write ⟨[], false, inline'⟩).written := by
  induction tokens generalizing inline inline' with
  | nil => exact (List.append_nil written).symm
  | cons token rest ih =>
      have below : .blockBreak ∉ rest := mt (List.mem_cons_of_mem _) unbroken
      cases token with
      | blockBreak => exact absurd List.mem_cons_self unbroken
      | inlineBreak => exact ih below _ _
      | text t =>
          by_cases nothing : t = []
          · rw [nothing]
            exact ih below _ _
          · have tight : ∀ inline, space ⟨written, false, inline⟩ t = [] := by
              intro inline
              simp [space, fresh t]
            have tight' : ∀ inline, space ⟨[], false, inline⟩ t = [] := by
              intro inline
              simp [space, needsSpace_start]
            rw [List.foldl_cons, List.foldl_cons, write_unblocked rfl nothing,
              write_unblocked rfl nothing, tight, tight', List.append_nil, List.nil_append,
              List.nil_append]
            exact foldl_write_after nothing below written

private theorem needsSpace_lineBreak (s t : Text) : Text.needsSpace (s ++ ['\n']) t = false := by
  rw [Text.needsSpace_behind (List.cons_ne_nil _ _)]
  exact Text.needsSpace_behind_blank rfl t

/-- A line break is written as it is. -/
theorem write_lineBreak (unblocked : layout.pendingBlock = false) :
    layout.write (.text ['\n']) = ⟨layout.written ++ ['\n'], false, false⟩ := by
  rw [write_unblocked unblocked (List.cons_ne_nil _ _), space, Text.needsSpace_of_blank rfl,
    Bool.and_false, if_neg Bool.false_ne_true, List.append_nil]

/-- No block separator waits where none is given. -/
theorem pendingBlock_foldl_write (unblocked : layout.pendingBlock = false)
    (unbroken : .blockBreak ∉ tokens) : (tokens.foldl write layout).pendingBlock = false := by
  induction tokens generalizing layout with
  | nil => exact unblocked
  | cons token rest ih =>
      have inline : token ≠ .blockBreak := by
        rintro rfl
        exact unbroken List.mem_cons_self
      exact ih (pendingBlock_write unblocked inline) (mt (List.mem_cons_of_mem _) unbroken)

/-- Without a block separator, what is written stays. -/
theorem prefix_foldl_write (unblocked : layout.pendingBlock = false)
    (unbroken : .blockBreak ∉ tokens) : layout.written <+: (tokens.foldl write layout).written := by
  induction tokens generalizing layout with
  | nil => exact List.prefix_rfl
  | cons token rest ih =>
      have below : .blockBreak ∉ rest := mt (List.mem_cons_of_mem _) unbroken
      cases token with
      | blockBreak => exact absurd List.mem_cons_self unbroken
      | inlineBreak =>
          have onward : (layout.write .inlineBreak).pendingBlock = false := unblocked
          exact ih onward below
      | text t =>
          have onward := ih (pendingBlock_write_text unblocked t) below
          by_cases nothing : t = []
          · rw [nothing] at onward ⊢
            exact onward
          · rw [write_unblocked unblocked nothing, List.append_assoc] at onward
            rw [List.foldl_cons, write_unblocked unblocked nothing, List.append_assoc]
            exact (List.prefix_append _ _).trans onward

/-- Within a line, the layout writes no line break. -/
theorem lineBreak_notMem (unblocked : layout.pendingBlock = false) (single : '\n' ∉ layout.written)
    (inLine : ∀ token ∈ tokens, token.InLine) : '\n' ∉ (tokens.foldl write layout).written := by
  induction tokens generalizing layout with
  | nil => exact single
  | cons token rest ih =>
      have here := inLine token List.mem_cons_self
      have below := fun other member => inLine other (List.mem_cons_of_mem _ member)
      cases token with
      | blockBreak => exact here.elim
      | inlineBreak => exact ih unblocked single below
      | text t =>
          refine ih (pendingBlock_write_text unblocked t) ?_ below
          rw [write_unblocked unblocked here.1]
          have gap : '\n' ∉ layout.space t := by
            unfold space
            split <;> decide
          simp only [List.mem_append, single, gap, here.2, or_self, not_false_eq_true]

end Layout

namespace Token

variable {tokens : List Token}

/-- The text that the layout writes for tokens, with its edges. -/
def laid (tokens : List Token) : Text :=
  (tokens.foldl Layout.write Layout.start).written

private theorem laid_ofText? (t : Text) : laid (ofText? t) = t := by
  cases t with
  | nil => rfl
  | cons c rest => rfl

private theorem blockBreak_notMem_ofText? (t : Text) : .blockBreak ∉ ofText? t := by
  cases t <;> simp [ofText?]

private theorem foldl_write_ofText? (t : Text) (layout : Layout) :
    (ofText? t).foldl Layout.write layout = layout.write (.text t) := by
  cases t with
  | nil => rfl
  | cons c rest => rfl

private theorem inLine_ofText? {t : Text} (single : '\n' ∉ t) :
    ∀ token ∈ ofText? t, token.InLine := by
  cases t with
  | nil => exact nofun
  | cons c rest =>
      intro token member
      cases List.mem_singleton.mp member
      exact ⟨List.cons_ne_nil _ _, single⟩

/-- Lines hold no line breaks and no empty texts. -/
theorem inLine_of_mem_lines (unbroken : .blockBreak ∉ tokens) :
    ∀ line ∈ (lines tokens).1 :: (lines tokens).2, ∀ token ∈ line, token.InLine := by
  fun_induction lines tokens with
  | case1 =>
      intro line member token inside
      cases List.mem_singleton.mp member
      cases inside
  | case2 t rest first others below nothing ih => exact absurd nothing (Text.splitBy_ne_nil _ _)
  | case3 t rest first others below piece pieces split single ih =>
      have belowLines := ih (mt (List.mem_cons_of_mem _) unbroken)
      rw [below, List.forall_mem_cons] at belowLines
      refine List.forall_mem_cons.mpr ⟨List.forall_mem_append.mpr ⟨?_, belowLines.1⟩, belowLines.2⟩
      exact inLine_ofText? (Text.mark_notMem_of_mem_splitOn (split ▸ List.mem_cons_self))
  | case4 t rest first others below piece pieces split last middle ending ih =>
      have belowLines := ih (mt (List.mem_cons_of_mem _) unbroken)
      rw [below, List.forall_mem_cons] at belowLines
      have pieceLine : ∀ part ∈ piece :: pieces, ∀ token ∈ ofText? part, token.InLine :=
        fun part member => inLine_ofText? (Text.mark_notMem_of_mem_splitOn (split ▸ member))
      rw [List.reverse_eq_iff.mp ending, List.reverse_cons] at pieceLine
      refine List.forall_mem_cons.mpr ⟨pieceLine piece (by simp), ?_⟩
      refine List.forall_mem_append.mpr ⟨?_, ?_⟩
      · intro line member
        obtain ⟨part, found, rfl⟩ := List.mem_map.mp member
        exact pieceLine part (by simp [found])
      · refine List.forall_mem_cons.mpr ⟨?_, belowLines.2⟩
        exact List.forall_mem_append.mpr ⟨pieceLine last (by simp), belowLines.1⟩
  | case5 separator rest isSeparator first others below ih =>
      have belowLines := ih (mt (List.mem_cons_of_mem _) unbroken)
      rw [below, List.forall_mem_cons] at belowLines
      refine List.forall_mem_cons.mpr ⟨List.forall_mem_cons.mpr ⟨?_, belowLines.1⟩, belowLines.2⟩
      cases separator with
      | text t => exact absurd rfl (isSeparator t)
      | inlineBreak => trivial
      | blockBreak => exact absurd List.mem_cons_self unbroken

private theorem blockBreak_notMem_of_inLine (inLine : ∀ token ∈ tokens, token.InLine) :
    .blockBreak ∉ tokens :=
  fun member => inLine _ member

/-- After a line break within a text, the line that starts there is laid out on its own. -/
theorem written_lineBreak {layout : Layout} (unblocked : layout.pendingBlock = false) (s u : Text)
    {line : List Token} (unbroken : .blockBreak ∉ line) :
    (line.foldl Layout.write (layout.write (.text (s ++ '\n' :: u)))).written =
      (layout.write (.text s)).written ++ '\n' :: laid (ofText? u ++ line) := by
  have parts : s ++ '\n' :: u = (s ++ ['\n']) ++ u := by simp
  have whole : .blockBreak ∉ ofText? u ++ line := by
    rw [List.mem_append, not_or]
    exact ⟨blockBreak_notMem_ofText? u, unbroken⟩
  have fresh := Layout.needsSpace_lineBreak (layout.write (.text s)).written
  rw [parts, Layout.write_text_append, Layout.write_text_append,
    Layout.write_lineBreak (Layout.pendingBlock_write_text unblocked s), ← foldl_write_ofText? u,
    ← List.foldl_append, Layout.written_fresh fresh whole false false, List.append_assoc]
  rfl

/-- A text of several lines changes the place where the layout writes for its first line only. -/
theorem written_join {layout : Layout} (unblocked : layout.pendingBlock = false) (piece : Text)
    (pieces : List Text) :
    (layout.write (.text (Text.join ['\n'] (piece :: pieces)))).written =
      Text.join ['\n'] ((layout.write (.text piece)).written :: pieces) := by
  by_cases alone : pieces = []
  · rw [alone]
    rfl
  · have lineBreak := written_lineBreak unblocked piece (Text.join ['\n'] pieces) List.not_mem_nil
    rw [List.append_nil, laid_ofText?] at lineBreak
    rw [Text.join_cons_of_ne_nil _ _ alone, Text.join_cons_of_ne_nil _ _ alone, List.append_assoc,
      List.append_assoc]
    exact lineBreak

/-- The layout writes the lines of tokens one after another. -/
theorem written_lines {layout : Layout} (unblocked : layout.pendingBlock = false)
    (unbroken : .blockBreak ∉ tokens) :
    (tokens.foldl Layout.write layout).written =
      Text.join ['\n'] (((lines tokens).1.foldl Layout.write layout).written ::
        (lines tokens).2.map laid) := by
  fun_induction lines tokens generalizing layout with
  | case1 => rfl
  | case2 t rest first others below nothing ih => exact absurd nothing (Text.splitBy_ne_nil _ _)
  | case3 t rest first others below piece pieces split single ih =>
      have whole := Text.join_splitOn '\n' t
      rw [split, List.reverse_eq_nil_iff.mp single] at whole
      have onward := ih (Layout.pendingBlock_write_text unblocked t)
        (mt (List.mem_cons_of_mem _) unbroken)
      rw [below] at onward
      rw [List.foldl_cons, onward, List.foldl_append, foldl_write_ofText?, ← whole]
      rfl
  | case4 t rest first others below piece pieces split last middle ending ih =>
      have whole := Text.join_splitOn '\n' t
      rw [split, List.reverse_eq_iff.mp ending, List.reverse_cons] at whole
      have onward := ih (Layout.pendingBlock_write_text unblocked t)
        (mt (List.mem_cons_of_mem _) unbroken)
      have unbroken' : .blockBreak ∉ first := by
        have belowLines := inLine_of_mem_lines (mt (List.mem_cons_of_mem _) unbroken)
        rw [below] at belowLines
        exact blockBreak_notMem_of_inLine (belowLines first List.mem_cons_self)
      have across := written_lineBreak unblocked (Text.join ['\n'] (piece :: middle.reverse)) last
        unbroken'
      have parts : t = Text.join ['\n'] (piece :: middle.reverse) ++ '\n' :: last := by
        rw [← whole, ← List.cons_append, Text.join_concat _ (List.cons_ne_nil _ _)]
      have plain : laid ∘ ofText? = id := funext laid_ofText?
      rw [written_join unblocked, ← parts, ← Text.join_concat _ (List.cons_ne_nil _ _)] at across
      rw [below] at onward
      rw [List.foldl_cons, onward, across, Text.join_join_cons _ (by simp), foldl_write_ofText?,
        List.map_append, List.map_cons, List.map_map, plain, List.map_id]
      simp only [List.cons_append, List.append_assoc, List.nil_append]
  | case5 separator rest isSeparator first others below ih =>
      have inline : separator ≠ .blockBreak := by
        rintro rfl
        exact unbroken List.mem_cons_self
      have onward := ih (Layout.pendingBlock_write unblocked inline)
        (mt (List.mem_cons_of_mem _) unbroken)
      rw [below] at onward
      exact onward

/-- Joining makes no block separator. -/
theorem blockBreak_notMem_join {left right : List Token} (unbroken : .blockBreak ∉ left)
    (unbroken' : .blockBreak ∉ right) : .blockBreak ∉ join left right := by
  fun_induction join left right with
  | case1 right => exact unbroken'
  | case2 s t right => exact fun member => unbroken' (by simpa using member)
  | case3 token left right _ ih =>
      rw [List.mem_cons, not_or] at unbroken ⊢
      exact ⟨unbroken.1, ih unbroken.2 unbroken'⟩

/-- Inline separators at the start of a line show nothing. -/
theorem laid_dropInline (unbroken : .blockBreak ∉ tokens) :
    laid (tokens.dropWhile (· == .inlineBreak)) = laid tokens := by
  induction tokens with
  | nil => rfl
  | cons token rest ih =>
      have below := ih (mt (List.mem_cons_of_mem _) unbroken)
      rw [List.dropWhile_cons]
      split
      · next inline =>
        rw [below, beq_iff_eq.mp inline]
        exact (Layout.written_fresh Layout.needsSpace_start
          (mt (List.mem_cons_of_mem _) unbroken) true false).symm
      · rfl

/-- A line that starts with a text is laid out on its own behind any text. -/
theorem written_opened (inLine : ∀ token ∈ tokens, token.InLine) (before : Text)
    (opened : tokens.head? ≠ some .inlineBreak) :
    (tokens.foldl Layout.write ⟨before, false, false⟩).written = before ++ laid tokens := by
  cases tokens with
  | nil => exact (List.append_nil before).symm
  | cons token rest =>
      have here := inLine token List.mem_cons_self
      cases token with
      | blockBreak => exact here.elim
      | inlineBreak => exact absurd rfl opened
      | text t =>
          have unbroken := blockBreak_notMem_of_inLine fun other member =>
            inLine other (List.mem_cons_of_mem _ member)
          have tight : Layout.space ⟨before, false, false⟩ t = [] := rfl
          rw [laid, List.foldl_cons, List.foldl_cons, Layout.write_unblocked rfl here.1,
            Layout.write_unblocked rfl here.1, tight, List.append_nil]
          exact Layout.foldl_write_after here.1 unbroken before

/-- The last token is a text that does not end in whitespace. -/
def Closes (tokens : List Token) : Prop :=
  ∀ token ∈ tokens.getLast?, ∃ before c, token = .text (before ++ [c]) ∧ Text.isSpace c = false

/-- A fragment that is trimmed at its end closes with a text. -/
theorem closes_trimTrailing (unbroken : .blockBreak ∉ tokens) : Closes (trimTrailing tokens) := by
  fun_induction trimTrailing tokens with
  | case1 =>
      intro token last
      cases last
  | case2 =>
      intro token last
      cases last
  | case3 => exact absurd List.mem_cons_self unbroken
  | case4 =>
      intro token last
      cases last
  | case5 rest trimmed t something ih =>
      intro token last
      cases last
      rcases List.eq_nil_or_concat (Text.trimEnd t) with nothing | ⟨before, c, whole⟩
      · exact absurd nothing something
      · rw [List.concat_eq_append] at whole
        refine ⟨before, c, congrArg Token.text whole, ?_⟩
        have last : c ∈ (Text.trimEnd t).getLast? := by
          rw [whole]
          exact List.getLast?_concat
        exact Text.getLast?_dropEndWhile last
  | case6 token rest something ih =>
      have below := ih (mt (List.mem_cons_of_mem _) unbroken)
      unfold Closes
      rw [List.getLast?_cons_of_ne_nil something]
      exact below

/-- What opens a line stands first in its layout. -/
theorem head?_laid (unbroken : .blockBreak ∉ tokens) (opens : Opens tokens) {c : Char}
    (first : c ∈ (laid tokens).head?) : Text.isSpace c = false := by
  cases tokens with
  | nil => cases first
  | cons token rest =>
      cases token with
      | blockBreak => exact absurd List.mem_cons_self unbroken
      | inlineBreak => exact opens.elim
      | text t =>
          cases t with
          | nil => exact opens.elim
          | cons d more =>
              have filled : d :: more ≠ [] := List.cons_ne_nil _ _
              have idle : Layout.start.pendingBlock = false := rfl
              obtain ⟨after, whole⟩ := Layout.prefix_foldl_write
                (Layout.pendingBlock_write_text idle (d :: more))
                (mt (List.mem_cons_of_mem _) unbroken)
              rw [Layout.write_unblocked rfl filled] at whole
              rw [laid, List.foldl_cons, Layout.write_unblocked rfl filled, ← whole] at first
              cases first
              exact opens

/-- What closes a line stands last in its layout. -/
theorem getLast?_laid (unbroken : .blockBreak ∉ tokens) (closes : Closes tokens) {c : Char}
    (last : c ∈ (laid tokens).getLast?) : Text.isSpace c = false := by
  rcases List.eq_nil_or_concat tokens with nothing | ⟨before, token, whole⟩
  · rw [nothing] at last
    cases last
  · rw [List.concat_eq_append] at whole
    obtain ⟨start, d, rfl, solid⟩ := closes token (whole ▸ List.getLast?_concat)
    rw [whole, List.mem_append, not_or] at unbroken
    have idle : Layout.start.pendingBlock = false := rfl
    have unblocked := Layout.pendingBlock_foldl_write idle unbroken.1
    have filled : start ++ [d] ≠ [] := List.append_ne_nil_of_right_ne_nil _ (List.cons_ne_nil _ _)
    rw [laid, whole, List.foldl_append, List.foldl_cons, List.foldl_nil,
      Layout.write_unblocked unblocked filled, ← List.append_assoc, List.getLast?_concat] at last
    cases last
    exact solid

end Token

namespace Fragment

open Token

/-- The tokens of joined fragments are joined. -/
theorem tokens_append (f g : Fragment) : (f ++ g).tokens = Token.join f.tokens g.tokens := rfl

variable {f : Fragment}

/-- The text that the layout writes for a fragment, with its edges. -/
def laid (f : Fragment) : Text :=
  Token.laid f.tokens

/-- The final text is the laid out text, trimmed. -/
theorem finalText_eq_trim_laid (f : Fragment) : f.finalText = Text.trim f.laid := rfl

/-- Laying out keeps the ink. -/
theorem ink_laid (f : Fragment) : Text.ink f.laid = f.ink :=
  Layout.ink_foldl_write .start f.tokens

private theorem lines_ne_nil (f : Fragment) : f.lines ≠ [] :=
  List.cons_ne_nil _ _

section Unbroken

variable (unbroken : .blockBreak ∉ f.tokens)
include unbroken

private theorem inLine_of_mem_lines {line : Fragment} (member : line ∈ f.lines) :
    ∀ token ∈ line.tokens, token.InLine := by
  obtain ⟨tokens, found, rfl⟩ := List.mem_map.mp member
  exact Token.inLine_of_mem_lines unbroken tokens found

/-- The layout of a fragment without block separators is that of its lines. -/
theorem laid_eq_join : f.laid = Text.join ['\n'] (f.lines.map laid) := by
  rw [laid, Token.laid, written_lines rfl unbroken, lines, List.map_map, List.map_cons]
  rfl

/-- The lines of the final layout are the layouts of the lines. -/
theorem splitOn_laid : Text.splitOn '\n' f.laid = f.lines.map laid := by
  rw [laid_eq_join unbroken]
  apply Text.splitOn_join
  · exact mt List.map_eq_nil_iff.mp f.lines_ne_nil
  · intro piece member
    obtain ⟨line, found, rfl⟩ := List.mem_map.mp member
    exact Layout.lineBreak_notMem rfl List.not_mem_nil (inLine_of_mem_lines unbroken found)

/-- The lines of the literal text are the literal texts of the lines. -/
theorem splitOn_plainText : Text.splitOn '\n' f.plainText = f.lines.map plainText := by
  have joined : f.plainText = Text.join ['\n'] (f.lines.map plainText) := by
    rw [lines, List.map_map]
    exact (Token.join_lines_read (fun _ => rfl) f.tokens).symm
  rw [joined]
  apply Text.splitOn_join
  · exact mt List.map_eq_nil_iff.mp f.lines_ne_nil
  · intro piece member
    obtain ⟨line, found, rfl⟩ := List.mem_map.mp member
    intro inside
    obtain ⟨token, inLine, spelled⟩ := List.mem_flatMap.mp inside
    have single := inLine_of_mem_lines unbroken found token inLine
    cases token with
    | text t => exact single.2 spelled
    | blockBreak => exact single
    | inlineBreak => cases spelled

end Unbroken

section Marks

variable {line : Fragment}

/-- A text holds no block separator. -/
theorem blockBreak_notMem_ofText (t : Text) : .blockBreak ∉ (ofText t).tokens := by
  cases t with
  | nil => exact List.not_mem_nil
  | cons c rest => simp [ofText]

private theorem blockBreak_notMem_marked (unbroken : .blockBreak ∉ line.tokens) (mark : Text) :
    .blockBreak ∉ (marked mark line).tokens := by
  unfold marked
  split
  · exact unbroken
  · apply Token.blockBreak_notMem_join (blockBreak_notMem_ofText mark)
    exact fun member => unbroken ((List.dropWhile_sublist _).subset member)

/-- A mark stands right in front of what its line is laid out as. -/
theorem laid_marked (inLine : ∀ token ∈ line.tokens, token.InLine) (mark : Text) :
    (marked mark line).laid = mark ++ line.laid := by
  have unbroken := Token.blockBreak_notMem_of_inLine inLine
  by_cases nothing : mark = []
  · rw [nothing]
    rfl
  · have unmarked : ¬ mark.isEmpty = true := mt List.isEmpty_iff.mp nothing
    have kept : ∀ token ∈ line.tokens.dropWhile (· == .inlineBreak), token.InLine :=
      fun token member => inLine token ((List.dropWhile_sublist _).subset member)
    rw [marked, if_neg unmarked, laid, Token.laid, tokens_append, Layout.foldl_write_join, ofText,
      if_neg unmarked, List.foldl_cons, Layout.write_unblocked rfl nothing]
    have opened : (line.tokens.dropWhile (· == .inlineBreak)).head? ≠ some .inlineBreak := by
      intro first
      have stays := List.head?_dropWhile_not (· == Token.inlineBreak) line.tokens
      rw [first] at stays
      exact Bool.noConfusion stays
    have behind := Token.written_opened kept mark opened
    rw [Token.laid_dropInline unbroken] at behind
    exact behind

/-- Marked lines are laid out one after another, behind what is written. -/
theorem written_markFollowing {lines : List Fragment}
    (inLine : ∀ line ∈ lines, ∀ token ∈ line.tokens, token.InLine) (mark : Nat → Text → Text)
    (index : Nat) {layout : Layout} (unblocked : layout.pendingBlock = false) :
    ((markFollowing mark index lines).tokens.foldl Layout.write layout).written =
      Text.join ['\n'] (layout.written ::
        lines.mapIdx fun i line => mark (index + i) line.plainText ++ line.laid) := by
  induction lines generalizing index layout with
  | nil => rfl
  | cons line rest ih =>
      have here := inLine line List.mem_cons_self
      have below := fun other member => inLine other (List.mem_cons_of_mem _ member)
      have unbroken := blockBreak_notMem_marked (Token.blockBreak_notMem_of_inLine here)
        (mark index line.plainText)
      have broken : (ofText ['\n']).tokens.foldl Layout.write layout =
          ⟨layout.written ++ ['\n'], false, false⟩ := Layout.write_lineBreak unblocked
      have idle : (⟨layout.written ++ ['\n'], false, false⟩ : Layout).pendingBlock = false := rfl
      have onward := ih below (index + 1) (Layout.pendingBlock_foldl_write idle unbroken)
      have written : ((marked (mark index line.plainText) line).tokens.foldl Layout.write
          ⟨layout.written ++ ['\n'], false, false⟩).written =
            Text.join ['\n'] [layout.written, mark index line.plainText ++ line.laid] := by
        rw [Layout.written_fresh (Layout.needsSpace_lineBreak _) unbroken false false,
          ← laid_marked here]
        rfl
      rw [markFollowing, tokens_append, Layout.foldl_write_join, tokens_append,
        Layout.foldl_write_join, broken, onward, written,
        Text.join_join_cons _ (List.cons_ne_nil _ _), List.mapIdx_cons]
      have shifted : ∀ i, index + 1 + i = index + (i + 1) := by
        intro i
        omega
      simp only [shifted, List.cons_append, List.nil_append, Nat.add_zero]

private theorem blockBreak_notMem_markFollowing {lines : List Fragment}
    (unbroken : ∀ line ∈ lines, .blockBreak ∉ line.tokens) (mark : Nat → Text → Text)
    (index : Nat) : .blockBreak ∉ (markFollowing mark index lines).tokens := by
  induction lines generalizing index with
  | nil => exact List.not_mem_nil
  | cons line rest ih =>
      have below := ih (fun other member => unbroken other (List.mem_cons_of_mem _ member))
        (index + 1)
      have here := blockBreak_notMem_marked (unbroken line List.mem_cons_self)
        (mark index line.plainText)
      exact Token.blockBreak_notMem_join
        (Token.blockBreak_notMem_join (blockBreak_notMem_ofText _) here) below

end Marks

section Unbroken

variable (unbroken : .blockBreak ∉ f.tokens) (mark : Nat → Text → Text)
include unbroken

/-- Marked lines hold no block separator. -/
theorem blockBreak_notMem_markLines : .blockBreak ∉ (f.markLines mark).tokens := by
  have lineUnbroken : ∀ line ∈ f.lines, .blockBreak ∉ line.tokens := fun line member =>
    Token.blockBreak_notMem_of_inLine (inLine_of_mem_lines unbroken member)
  unfold markLines
  split
  · exact List.not_mem_nil
  · next first rest found =>
    rw [found, List.forall_mem_cons] at lineUnbroken
    exact Token.blockBreak_notMem_join (blockBreak_notMem_marked lineUnbroken.1 _)
      (blockBreak_notMem_markFollowing lineUnbroken.2 mark 1)

/-- Marking lines and laying out is laying out the lines and marking them. -/
theorem laid_markLines :
    (f.markLines mark).laid =
      Text.join ['\n'] (f.lines.mapIdx fun i line => mark i line.plainText ++ line.laid) := by
  have inLine : ∀ line ∈ f.lines, ∀ token ∈ line.tokens, token.InLine :=
    fun _ => inLine_of_mem_lines unbroken
  unfold markLines
  split
  · next nothing => exact absurd nothing f.lines_ne_nil
  · next first rest found =>
    rw [found, List.forall_mem_cons] at inLine
    have unbroken' := blockBreak_notMem_marked (Token.blockBreak_notMem_of_inLine inLine.1)
      (mark 0 first.plainText)
    have started : ((marked (mark 0 first.plainText) first).tokens.foldl Layout.write
        .start).written = mark 0 first.plainText ++ first.laid := laid_marked inLine.1 _
    rw [laid, Token.laid, tokens_append, Layout.foldl_write_join,
      written_markFollowing inLine.2 mark 1 (Layout.pendingBlock_foldl_write rfl unbroken'),
      started, found, List.mapIdx_cons]
    simp only [Nat.add_comm 1]

end Unbroken

/-- What is laid out of a resolved fragment has no edges to trim. -/
theorem trim_laid_resolve (f : Fragment) : Text.trim f.resolve.laid = f.resolve.laid := by
  have unbroken := f.settled_resolve.unbroken
  have opens : Opens f.resolve.tokens := opens_trimTrailing (opens_trimLeading _)
  have closes : Closes f.resolve.tokens :=
    closes_trimTrailing (settled_trimLeading (resolveFrom_settled false .nil)).unbroken
  exact Text.trim_of_edges (fun c => head?_laid unbroken opens)
    (fun c => getLast?_laid unbroken closes)

/-- Marking the lines of a resolved fragment commutes with the final layout: its literal text and
its final text have the same number of lines, and each mark, made from the literal text of a line,
stands in front of that line of the final text. -/
theorem finalText_markLines (f : Fragment) (mark : Nat → Text → Text) :
    let literal := Text.splitOn '\n' f.resolve.plainText
    let final := Text.splitOn '\n' f.resolve.finalText
    literal.length = final.length ∧
      (f.resolve.markLines mark).finalText =
        Text.trim (Text.join ['\n']
          ((literal.zip final).mapIdx fun i line => mark i line.1 ++ line.2)) := by
  intro literal final
  have unbroken := f.settled_resolve.unbroken
  have final_eq : final = f.resolve.lines.map laid := by
    simp only [final]
    rw [finalText_eq_trim_laid, trim_laid_resolve, splitOn_laid unbroken]
  have literal_eq : literal = f.resolve.lines.map plainText := splitOn_plainText unbroken
  constructor
  · rw [literal_eq, final_eq, List.length_map, List.length_map]
  · rw [finalText_eq_trim_laid, laid_markLines unbroken, literal_eq, final_eq]
    rw [List.zip_map', Text.mapIdx_map]

end Fragment
end ArticleMarkdown
