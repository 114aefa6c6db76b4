import ArticleMarkdown.Proofs.Document.Prose
import ArticleMarkdown.Proofs.Fragment.Spread
import ArticleMarkdown.Proofs.Text.Split

/-!
# What rules do to ink

Text nodes keep their ink, and so do the rules that wrap content, code and tables: the marks that
they write come in between, and what they drop has no ink.
-/

namespace ArticleMarkdown

namespace Plain

/-- The whitespace of markup is whitespace. -/
theorem isSpace_of_isMarkupSpace {c : Char} (space : isMarkupSpace c = true) :
    Text.isSpace c = true := by
  simp only [isMarkupSpace, Bool.or_eq_true, beq_iff_eq] at space
  rcases space with (((rfl | rfl) | rfl) | rfl) | rfl <;> rfl

@[simp] private theorem ink_squeezeFrom (inRun : Bool) (t : Text) :
    Text.ink (squeezeFrom inRun t) = Text.ink t := by
  fun_induction squeezeFrom inRun t with
  | case1 => rfl
  | case2 inRun c rest space ih =>
      have single : Text.ink (if inRun then [] else [' ']) = [] := by cases inRun <;> rfl
      rw [Text.ink_append, ih, single, Text.ink_cons, isSpace_of_isMarkupSpace space]
      rfl
  | case3 inRun c rest _ ih => rw [Text.ink_cons, Text.ink_cons, ih]

@[simp] private theorem ink_edgeBreak (edge : Option Char) : (edgeBreak edge).ink = [] := by
  rw [edgeBreak]
  split <;> rfl

/-- A plain text keeps its ink. -/
theorem ink_fragment (t : Text) : (fragment t).ink = Text.ink t := by
  rw [fragment]
  split
  · next nothing => rw [ink_edgeBreak, ← Text.ink_trim, nothing, Text.ink_nil]
  · simp [squeeze]

end Plain

/-- Content without ink may be left out. -/
theorem Fragment.ink_unlessBlank {f content shown : Fragment} (same : content.ink = f.ink)
    (kept : f.ink.Sublist shown.ink) :
    f.ink.Sublist (if content.isBlank then ∅ else shown).ink := by
  split
  · next nothing =>
    rw [← same, (isBlank_iff content).mp nothing]
    exact List.nil_sublist _
  · exact kept

namespace Emphasis

/-- What stands between the marks of emphasis. -/
def core (f : Fragment) : Fragment :=
  (Fragment.flattened
    ⟨((f.tokens.dropWhile Token.isBlank).reverse.dropWhile Token.isBlank).reverse⟩).trim

/-- Emphasis surrounds the core of its content with marks, and these with the separators. -/
theorem wrap_eq (kind : Emphasis) (f : Fragment) :
    kind.wrap f = if (core f).isBlank then ∅ else
      outside (f.tokens.takeWhile Token.isBlank) ++
        (Fragment.ofText kind.opening ++ core f ++ Fragment.ofText kind.closing) ++
        outside ((f.tokens.dropWhile Token.isBlank).reverse.takeWhile Token.isBlank) := rfl

/-- What stands outside of the marks spreads to one space. -/
@[simp] theorem spread_outside (edge : List Token) : (outside edge).spread = [' '] := by
  rw [outside]
  split <;> rfl

/-- Flattening only takes whitespace off the edges. -/
theorem frames_core (f : Fragment) : Text.Frames f.spread (core f).spread := by
  have kept := Token.frames_dropBlank (fun _ blank => blank) f.tokens
  refine kept.trans ?_
  rw [core, ← Fragment.spread, ← Fragment.spread_flattened]
  exact Fragment.frames_trim _

/-- Emphasis drops blank tokens only. -/
theorem ink_wrap (kind : Emphasis) (f : Fragment) : f.ink.Sublist (kind.wrap f).ink := by
  have same : (core f).ink = f.ink := (frames_core f).ink_eq.symm
  rw [wrap_eq]
  refine Fragment.ink_unlessBlank same ?_
  simp only [Fragment.ink_append, same]
  refine List.Sublist.trans ?_ (List.sublist_append_left _ _)
  refine List.Sublist.trans ?_ (List.sublist_append_right _ _)
  exact (List.sublist_append_right _ _).trans (List.sublist_append_left _ _)

end Emphasis

/-- A script keeps the ink of its content. -/
theorem Script.ink_wrap (tag : String) (f : Fragment) : f.ink.Sublist (wrap tag f).ink := by
  refine Fragment.ink_unlessBlank f.ink_trim ?_
  simp only [Fragment.ink_append, Fragment.ink_trim]
  exact (List.sublist_append_right _ _).trans (List.sublist_append_left _ _)

/-- An anchor without an address keeps the ink of its content. -/
theorem Link.ink_unlinked (f : Fragment) : f.ink.Sublist (unlinked f).ink := by
  have same : (label f).ink = f.ink := by rw [label, Fragment.ink_trim, Fragment.ink_flattened]
  refine Fragment.ink_unlessBlank same ?_
  rw [Fragment.ink_inlined, same]

/-- A quotation keeps the ink of its content. -/
theorem Quotation.ink_fragment (f : Fragment) : f.ink.Sublist (fragment f).ink := by
  refine Fragment.ink_unlessBlank f.ink_resolve ?_
  rw [Fragment.ink_blocked, ← f.ink_resolve]
  exact f.resolve.ink_markLines _

/-- A heading keeps the ink of its content. -/
theorem Heading.ink_fragment (level : Nat) (f : Fragment) :
    f.ink.Sublist (fragment level f).ink := by
  refine Fragment.ink_unlessBlank f.ink_resolve ?_
  rw [Fragment.ink_blocked, ← f.ink_resolve]
  exact f.resolve.ink_markLines _

/-- An item keeps the ink of its content. -/
theorem ListKind.ink_item (kind : ListKind) (number : Nat) (f : Fragment) :
    f.ink.Sublist (kind.item number f).ink := by
  rw [item]
  exact f.ink_resolve ▸ f.resolve.ink_markLines _

/-- A list in a list keeps the ink of its content. -/
theorem ListKind.ink_nested (kind : ListKind) (f : Fragment) :
    f.ink.Sublist (kind.nested f).ink := by
  rw [nested]
  exact f.ink_resolve ▸ f.resolve.ink_markLines _

/-- A separator at the end of a block has no ink. -/
@[simp] theorem Fragment.ink_closed (f : Fragment) : f.closed.ink = f.ink := by
  simp [closed]

/-- Wrapping the content of an element takes no ink away. -/
theorem Rule.ink_wrapBare {rule : Rule} {wrap : Fragment → Fragment}
    (wraps : rule.wrapBare? = some wrap) (f : Fragment) : f.ink.Sublist (wrap f).ink := by
  cases rule with
  | paragraph =>
      cases wraps
      rw [Fragment.ink_blocked]
  | emphasis kind =>
      cases wraps
      exact f.ink_trim ▸ kind.ink_wrap f.trim
  | link =>
      cases wraps
      exact Link.ink_unlinked f
  | quotation =>
      cases wraps
      exact Quotation.ink_fragment f
  | span | font =>
      cases wraps
      exact List.Sublist.refl _
  | superscript | subscript =>
      cases wraps
      exact Script.ink_wrap _ f
  | container | transparent =>
      cases wraps
      rw [Fragment.ink_closed]
  | _ => cases wraps

namespace Text

/-- Line breaks may become spaces. -/
theorem ink_spaced (t : Text) : ink (t.map fun c => if isLineBreak c then ' ' else c) = ink t := by
  induction t with
  | nil => rfl
  | cons c rest ih =>
      rw [List.map_cons, ink_cons, ink_cons, ih]
      by_cases breaks : isLineBreak c
      · rw [if_pos breaks, isSpace_of_isLineBreak breaks]
        rfl
      · rw [if_neg breaks]

/-- Escaping puts characters in front of others. -/
theorem sublist_replaceChar (c : Char) (before t : Text) :
    t.Sublist (replaceChar c (before ++ [c]) t) := by
  induction t with
  | nil => exact List.nil_sublist _
  | cons first rest ih =>
      have single : [first].Sublist (if first == c then before ++ [c] else [first]) := by
        split
        · next same =>
          rw [beq_iff_eq.mp same]
          exact List.sublist_append_right _ _
        · exact List.Sublist.refl _
      exact single.append ih

end Text

namespace Code

/-- Code between fences holds the code. -/
theorem sublist_span (t : Text) : t.Sublist (span t) := by
  rw [span]
  split
  · exact (List.sublist_cons_self '`' t).trans (List.sublist_append_left _ _)
  · have kept : t.Sublist (' ' :: t) := List.sublist_cons_self ' ' t
    exact (kept.trans (List.sublist_append_right _ _)).trans (List.sublist_append_left _ _)

/-- Code stands between its fences as it is. -/
theorem sublist_fenced (source language : Text) : source.Sublist (fenced source language) := by
  have kept : source.Sublist ('\n' :: source) := List.sublist_cons_self '\n' source
  exact (kept.trans (List.sublist_append_right _ _)).trans (List.sublist_append_left _ _)

/-- A line feed at the end of code has no ink. -/
theorem ink_dropFinalBreak (t : Text) : Text.ink (dropFinalBreak t) = Text.ink t := by
  rw [dropFinalBreak, Text.dropLast?]
  split
  · next ends =>
    obtain ⟨before, rfl⟩ := List.getLast?_eq_some_iff.mp ends
    have lineFeed : Text.ink ['\n'] = [] := rfl
    rw [Option.getD_some, List.dropLast_concat, Text.ink_append, lineFeed, List.append_nil]
  · rfl

/-- Code in a line keeps the ink of its text. -/
theorem ink_inline (children : List Node) :
    (Text.ink (Node.textContents children)).Sublist (inline children).ink := by
  simp only [inline]
  rw [← Text.ink_spaced (Node.textContents children)]
  split
  · next nothing =>
    rw [Text.ink_eq_nil.mpr nothing]
    exact List.nil_sublist _
  · rw [Fragment.inlineText, Fragment.ink_inlined, Fragment.ink_ofText]
    exact (sublist_span _).filter _

end Code

namespace Table

private theorem CellLayout.ink_write (cell : CellLayout) (token : Token) :
    (Text.ink cell.written ++ Text.ink token.spread).Sublist
      (Text.ink (cell.write token).written) := by
  cases token with
  | blockBreak => simp [write]
  | inlineBreak => simp [write]
  | text t =>
      simp only [write, Token.spread]
      rw [← Text.ink_spaced t]
      split
      · next skipped =>
        rw [Bool.and_eq_true] at skipped
        rw [Text.ink_eq_nil.mpr skipped.1, List.append_nil]
      · split
        · simp only [Text.ink_append, Text.ink_trimEnd, Text.ink_trimStart]
          exact (List.sublist_append_left _ _).append (List.Sublist.refl _)
        · simp only [Text.ink_append]
          exact (List.sublist_append_left _ _).append (List.Sublist.refl _)

private theorem CellLayout.ink_foldl_write (cell : CellLayout) (tokens : List Token) :
    (Text.ink cell.written ++ Text.ink (Token.allSpread tokens)).Sublist
      (Text.ink (tokens.foldl write cell).written) := by
  induction tokens generalizing cell with
  | nil => simp
  | cons token rest ih =>
      rw [Token.allSpread_cons, Text.ink_append, ← List.append_assoc]
      exact ((cell.ink_write token).append (List.Sublist.refl _)).trans (ih (cell.write token))

/-- A cell keeps the ink of its content. -/
theorem ink_cellText (f : Fragment) : f.ink.Sublist (Text.ink (cellText f)) := by
  have written := CellLayout.start.ink_foldl_write f.trim.tokens
  have whole : Text.ink (Token.allSpread f.trim.tokens) = f.ink := f.ink_trim
  have shown : f.ink.Sublist (Text.ink (cellLine f)) := by
    rw [cellLine, Text.ink_trim, ← whole]
    exact written
  exact shown.trans ((Text.sublist_replaceChar '|' ['\\'] _).filter _)

/-- The texts of the cells of rows, one after another. -/
def rowsText (rows : List Row) : Text :=
  rows.flatMap fun row => row.flatMap Cell.text

private theorem sublist_line (columns : Nat) (row : Row) :
    (row.flatMap Cell.text).Sublist (line columns row) := by
  have padded : (row.map Cell.text).flatten.Sublist (pad columns (row.map Cell.text)).flatten := by
    rw [pad, List.flatten_append]
    exact List.sublist_append_left _ _
  rw [List.flatMap_def]
  refine (padded.trans (Text.flatten_sublist_join " | ".toList _)).trans ?_
  exact (List.sublist_append_right _ _).trans (List.sublist_append_left _ _)

private theorem sublist_lines (header : Row) (rows : List Row) :
    (rowsText (header :: rows)).Sublist (lines header rows).flatten := by
  rw [lines, rowsText, List.flatMap_cons, List.flatten_cons, List.flatten_cons]
  refine (sublist_line _ header).append ?_
  refine List.Sublist.trans ?_ (List.sublist_append_right _ _)
  generalize columns (header :: rows) = count
  induction rows with
  | nil => exact List.Sublist.refl _
  | cons row rest ih => exact (sublist_line count row).append ih

/-- A table keeps the ink of its cells. -/
theorem ink_fragment? (rows : List Row) :
    (Text.ink (rowsText rows)).Sublist ((fragment? rows).getD ∅).ink := by
  cases rows with
  | nil => exact List.nil_sublist _
  | cons header rows =>
      have held := (sublist_lines header rows).trans (Text.flatten_sublist_join ['\n'] _)
      rw [fragment?, Option.getD_some, Fragment.blockText, Fragment.ink_blocked,
        Fragment.ink_ofText]
      exact held.filter _

end Table

/-- A document ends its final text with whitespace. -/
theorem Fragment.documentText_split (f : Fragment) :
    ∃ ending, Text.isBlank ending = true ∧ f.documentText = f.finalText ++ ending := by
  simp only [documentText]
  split
  · next empty => exact ⟨[], rfl, by rw [List.isEmpty_iff.mp empty, List.append_nil]⟩
  · exact ⟨['\n', '\n'], rfl, rfl⟩

/-- A document keeps the ink of its content. -/
theorem Fragment.ink_documentText (f : Fragment) : Text.ink f.documentText = f.ink := by
  obtain ⟨ending, blank, split⟩ := f.documentText_split
  rw [split, Text.ink_append, Text.ink_eq_nil.mpr blank, List.append_nil, ink_finalText]

end ArticleMarkdown
