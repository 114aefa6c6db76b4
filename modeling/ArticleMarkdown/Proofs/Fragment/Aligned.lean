import ArticleMarkdown.Markdown.Convert
import ArticleMarkdown.Proofs.Fragment.Stacked
import ArticleMarkdown.Proofs.Text.Rows

/-!
# Fragments with rows that line up

A fragment holds rows if a block of it, between two block separators, is laid out as lines that
show them. Whatever is joined to such a fragment or trimmed off it, the rows stay in that block
(`Fragment.Holds`), and the final text shows them (`Fragment.Holds.finalText`). Resolving the
fragment and marking its lines makes a block of its own (`Fragment.holds_marked`).
-/

namespace ArticleMarkdown

namespace Token

private theorem join_nil (tokens : List Token) : join tokens [] = tokens := by
  induction tokens with
  | nil => rfl
  | cons token rest ih => cases token <;> simp [join, ih]

/-- A block separator in the first list stays when tokens are joined behind it. -/
theorem join_block (left right more : List Token) :
    join (left ++ .blockBreak :: right) more = left ++ .blockBreak :: join right more := by
  induction left with
  | nil => simp [join]
  | cons token rest ih =>
      have filled : rest ++ .blockBreak :: right ≠ [] := by simp
      rw [List.cons_append, List.cons_append, ← ih]
      cases whole : rest ++ .blockBreak :: right with
      | nil => exact absurd whole filled
      | cons next others => cases token <;> simp [join]

/-- A block separator in the second list stays when tokens are joined in front of it. -/
theorem join_onto_block (more left right : List Token) :
    join more (left ++ .blockBreak :: right) = join more left ++ .blockBreak :: right := by
  fun_induction join more left with
  | case1 left => rfl
  | case2 s t others => rfl
  | case3 token rest left apart ih =>
      rw [List.cons_append, ← ih]
      cases token <;> cases rest <;> cases left <;> simp_all [join]

/-- Trimming stops at a block separator. -/
theorem trimLeading_block (left right : List Token) :
    ∃ kept, trimLeading (left ++ .blockBreak :: right) = kept ++ .blockBreak :: right ∧
      Text.ink (allSpread kept) = Text.ink (allSpread left) := by
  induction left with
  | nil => exact ⟨[], rfl, rfl⟩
  | cons token rest ih =>
      obtain ⟨kept, below, same⟩ := ih
      cases token with
      | blockBreak => exact ⟨_, rfl, rfl⟩
      | inlineBreak => exact ⟨kept, below, same⟩
      | text t =>
          have inked := Text.ink_trimStart t
          rw [List.cons_append, trimLeading, allSpread_cons, Text.ink_append, spread, ← inked]
          split
          · next nothing =>
            rw [nothing]
            exact ⟨kept, below, same⟩
          · refine ⟨.text (Text.trimStart t) :: rest, rfl, ?_⟩
            rw [allSpread_cons, Text.ink_append, spread]

private theorem trimTrailing_block (left right : List Token) :
    trimTrailing (left ++ .blockBreak :: right) = left ++ .blockBreak :: trimTrailing right := by
  have here : trimTrailing (.blockBreak :: right) = .blockBreak :: trimTrailing right := by
    rw [trimTrailing]
    split
    · next nothing => rw [nothing]
    · rfl
  induction left with
  | nil => exact here
  | cons token rest ih =>
      rw [List.cons_append, trimTrailing_cons, ih, List.cons_append]
      rw [ih]
      simp

end Token

/-- Nothing is joined to the end of a fragment. -/
theorem Fragment.append_empty (f : Fragment) : f ++ ∅ = f :=
  congrArg Fragment.mk (Token.join_nil f.tokens)

namespace Text

variable {rows : List (Option Text)} {columns : Columns} {place : Place} {t : Text}

/-- Two blocks with a blank line between them, as a text. -/
theorem Block.join_append {others : List (Option Text)} {columns' : Columns}
    {lines lower : List Text} (block : Block columns rows lines)
    (block' : Block columns' others lower) :
    join ['\n'] (lines ++ [] :: lower) = stack (join ['\n'] lines) (join ['\n'] lower) := by
  rw [Text.join_append _ block.filled (List.cons_ne_nil _ _), join_cons_of_ne_nil _ _ block'.filled,
    stack_of_ne_nil block.join_ne_nil block'.join_ne_nil, List.append_assoc]
  rfl

namespace ShowsBelow

variable {k : Text}

private theorem ink_ne_nil (shows : ShowsBelow rows k place t) : ink t ≠ [] := by
  cases place with
  | behind columns =>
      rcases shows with within | ⟨-, leads⟩
      · have shows : Shows rows (.behind columns) t := within
        exact shows.ink_ne_nil
      · exact leads.ink_ne_nil
  | first lead columns => exact shows.2.ink_ne_nil

private theorem ne_nil (shows : ShowsBelow rows k place t) : t ≠ [] :=
  mt (congrArg ink) shows.ink_ne_nil

private theorem append (shows : ShowsBelow rows k place t) (u : Text) :
    ShowsBelow rows k place (t ++ '\n' :: u) := by
  cases place with
  | behind columns =>
      exact shows.imp (fun within => within.append u) (And.imp_right fun leads => leads.append u)
  | first lead columns => exact ⟨shows.1, shows.2.append u⟩

/-- Only what the text above shows matters. -/
theorem of_ink (shows : ShowsBelow rows k place t) {k' : Text} (same : ink k' = ink k) :
    ShowsBelow rows k' place t := by
  cases place with
  | behind columns =>
      rw [ShowsBelow, same]
      exact shows
  | first lead columns =>
      rw [ShowsBelow, same]
      exact shows

/-- More may be shown above rows that something is shown above. -/
theorem behind {shown : Text} (inked : ink shown ≠ []) (shows : ShowsBelow rows k place t) :
    ShowsBelow rows shown place.below t := by
  cases place with
  | behind columns => exact shows.imp_right fun below => ⟨inked, below.2⟩
  | first lead columns => exact .inr ⟨inked, shows.2.1⟩

/-- Rows that are shown below a text are trimmed together with it. -/
theorem trim_stack (shows : ShowsBelow rows k place t) :
    Shows rows place.trimmed (Text.trim (stack k t)) := by
  have filled := shows.ne_nil
  by_cases nothing : k = []
  · rw [nothing] at shows ⊢
    have own : Shows rows place t := by
      cases place with
      | behind columns => exact shows.resolve_right fun below => below.1 rfl
      | first lead columns => exact shows.2
    exact own.trim
  · have whole : k ++ '\n' :: '\n' :: t = (k ++ ['\n', '\n']) ++ t := by simp
    rw [stack_of_ne_nil nothing filled, whole]
    cases place with
    | behind columns =>
        have within : Shows rows (.behind columns) ((k ++ ['\n', '\n']) ++ t) := by
          rcases shows with within | ⟨shown, leads⟩
          · exact within.below _
          · refine ⟨k ++ ['\n'], t, by simp, ?_, leads⟩
            rw [ink_append]
            exact List.append_ne_nil_of_left_ne_nil shown _
        exact within.trim
    | first lead columns =>
        -- The text above shows nothing, so it is trimmed off together with the blank line.
        have blankLines : isBlank (k ++ ['\n', '\n']) = true := by
          rw [isBlank_append, ink_eq_nil.mp shows.1]
          rfl
        rw [trim_blank_append blankLines]
        exact shows.2.trim

end ShowsBelow
end Text

namespace Fragment

open Token
open Text (Columns Place Shows ShowsBelow Marks Opens)

/-- A block of the fragment is laid out as lines that show the rows, at a place that takes into
account what the fragment shows above the block. -/
def Holds (rows : List (Option Text)) (place : Place) (f : Fragment) : Prop :=
  ∃ before block after laid,
    f.tokens = before ++ .blockBreak :: (block ++ .blockBreak :: after) ∧
      Adds (block ++ [.blockBreak]) laid ∧ ShowsBelow rows (allSpread before) place laid

namespace Holds

variable {rows : List (Option Text)} {place : Place} {f : Fragment}

/-- Anything may follow the rows. -/
theorem append_right (held : Holds rows place f) (g : Fragment) : Holds rows place (f ++ g) := by
  obtain ⟨before, block, after, laid, whole, adds, shows⟩ := held
  refine ⟨before, block, Token.join after g.tokens, laid, ?_, adds, shows⟩
  rw [tokens_append, whole, join_block, join_block]

/-- A fragment that shows nothing may be put in front, and any other one in front of rows that are
not the first thing shown. -/
theorem append_left (held : Holds rows place f) {g : Fragment}
    (unseen : place.isFirst = true → g.ink = []) : Holds rows place (g ++ f) := by
  obtain ⟨before, block, after, laid, whole, adds, shows⟩ := held
  refine ⟨Token.join g.tokens before, block, after, laid, ?_, adds, ?_⟩
  · rw [tokens_append, whole, join_onto_block]
  · cases place with
    | behind columns =>
        refine shows.imp_right (And.imp_left fun shown => ?_)
        rw [allSpread_join, Text.ink_append]
        exact List.append_ne_nil_of_right_ne_nil _ shown
    | first lead columns =>
        refine ⟨?_, shows.2⟩
        rw [allSpread_join, Text.ink_append, shows.1, List.append_nil]
        exact unseen rfl

/-- Behind something that shows, the rows are not the first thing shown any more. -/
theorem behind (held : Holds rows place f) {g : Fragment} (shown : g.ink ≠ []) :
    Holds rows place.below (g ++ f) := by
  obtain ⟨before, block, after, laid, whole, adds, shows⟩ := held
  refine ⟨Token.join g.tokens before, block, after, laid, ?_, adds, shows.behind ?_⟩
  · rw [tokens_append, whole, join_onto_block]
  · rw [allSpread_join, Text.ink_append]
    exact List.append_ne_nil_of_left_ne_nil shown _

/-- Trimming a fragment stops at the separator in front of the block. -/
theorem trim (held : Holds rows place f) : Holds rows place f.trim := by
  obtain ⟨before, block, after, laid, whole, adds, shows⟩ := held
  obtain ⟨kept, started, same⟩ := trimLeading_block before (block ++ .blockBreak :: after)
  refine ⟨kept, block, trimTrailing after, laid, ?_, adds, shows.of_ink same⟩
  rw [Fragment.trim, whole, started, trimTrailing_block, trimTrailing_block]

/-- A block holds what its content holds. -/
theorem blocked (held : Holds rows place f) : Holds rows place f.blocked :=
  (held.append_left fun _ => rfl).append_right _

/-- Closed content holds what the content holds. -/
theorem closed (held : Holds rows place f) : Holds rows place f.closed :=
  held.append_right _

end Holds

/-- What is laid out after a block is put below a blank line, and what is laid out before it is put
above it. -/
theorem finalText_around {f : Fragment} {before block after : List Token} {laid : Text}
    (whole : f.tokens = before ++ .blockBreak :: (block ++ .blockBreak :: after))
    (adds : Adds (block ++ [.blockBreak]) laid) (filled : laid ≠ []) :
    ∃ upper, Text.ink upper = Text.ink (allSpread before) ∧
      (f.finalText = Text.trim (Text.stack upper laid) ∨
        ∃ u, f.finalText = Text.trim (Text.stack upper laid ++ '\n' :: '\n' :: u)) := by
  have inked := Layout.ink_foldl_write .start before
  have parts : f.tokens = before ++ .blockBreak :: ((block ++ [.blockBreak]) ++ after) := by
    rw [whole, List.append_assoc]
    rfl
  rw [finalText, parts, List.foldl_append, List.foldl_cons, List.foldl_append]
  -- What is laid out up to the block is fixed there; what follows cuts back to it at most.
  generalize before.foldl Layout.write .start = start at inked ⊢
  obtain ⟨blocked, cut⟩ := adds (start.write .blockBreak) rfl
  have written : (start.write .blockBreak).written = start.written := rfl
  rw [written] at cut
  generalize (block ++ [Token.blockBreak]).foldl Layout.write (start.write .blockBreak) = layout
    at blocked cut ⊢
  refine ⟨Text.dropEndWhile Text.isSpacing start.written, ?_, ?_⟩
  · rw [Text.ink_dropSpacing]
    exact inked
  · have ended := Text.dropEndWhile_idem Text.isSpacing layout.written
    have waits : layout.Beyond (Text.dropEndWhile Text.isSpacing layout.written) :=
      .waiting blocked rfl
    rw [cut] at ended waits
    have beyond := waits.foldl_write (Text.stack_ne_nil _ filled) ended after
    obtain ⟨-, last⟩ | ⟨c, rest, -, split⟩ := beyond
    · left
      rw [← Text.trim_dropSpacing, last]
    · right
      exact ⟨c :: rest, by rw [split]⟩

namespace Holds

variable {rows : List (Option Text)} {place : Place} {f : Fragment}

/-- The final text shows the rows at their trimmed place. -/
theorem finalText (held : Holds rows place f) : Shows rows place.trimmed f.finalText := by
  obtain ⟨before, block, after, laid, whole, adds, shows⟩ := held
  obtain ⟨upper, inked, last | ⟨u, last⟩⟩ := finalText_around whole adds shows.ne_nil
  · rw [last]
    exact (shows.of_ink inked).trim_stack
  · rw [last, Text.stack_append upper shows.ne_nil]
    exact ((shows.append ('\n' :: u)).of_ink inked).trim_stack

/-- A fragment with rows shows something. -/
theorem ink_ne_nil (held : Holds rows place f) : f.ink ≠ [] := by
  obtain ⟨before, block, after, laid, whole, adds, shows⟩ := held
  have filled := shows.ink_ne_nil
  obtain ⟨upper, -, last⟩ := finalText_around whole adds (mt (congrArg Text.ink) filled)
  have shown : Text.ink (Text.stack upper laid) ≠ [] := by
    rw [Text.ink_stack]
    exact List.append_ne_nil_of_right_ne_nil _ filled
  rw [← ink_finalText]
  rcases last with last | ⟨u, last⟩
  · rw [last, Text.ink_trim]
    exact shown
  · rw [last, Text.ink_trim, Text.ink_append]
    exact List.append_ne_nil_of_left_ne_nil shown _

/-- A fragment with rows is not blank. -/
theorem not_blank (held : Holds rows place f) : f.isBlank = false := by
  rw [← Bool.not_eq_true, isBlank_iff]
  exact held.ink_ne_nil

/-- Nor is it once it is resolved. -/
theorem not_blank_resolve (held : Holds rows place f) : f.resolve.isBlank = false := by
  rw [← Bool.not_eq_true, isBlank_iff, ink_resolve]
  exact held.ink_ne_nil

end Holds

section Blocks

variable {rows : List (Option Text)} {place : Place} {f block : Fragment} {after : List Token}

/-- The tokens of closed content. -/
theorem tokens_closed (f : Fragment) : f.closed.tokens = f.tokens ++ [.blockBreak] :=
  (join_onto_block f.tokens [] []).trans (by rw [join_nil])

/-- The tokens of a block. -/
theorem tokens_blocked (f : Fragment) :
    f.blocked.tokens = .blockBreak :: (f.tokens ++ [.blockBreak]) :=
  tokens_closed (blockBreak ++ f)

private theorem tokens_blocked_cons (f : Fragment) :
    f.blocked.tokens = .blockBreak :: (f ++ blockBreak).tokens :=
  (tokens_blocked f).trans (congrArg _ (tokens_closed f).symm)

/-- A fragment without block separators is laid out alone between two of them. -/
theorem finalText_blocked (unbroken : .blockBreak ∉ f.tokens)
    (opens : ∀ c ∈ f.laid.head?, Text.isLineBreak c = false) :
    f.blocked.finalText = Text.trim f.laid := by
  have below := (adds_blockBreak unbroken opens).below
  rw [← tokens_blocked_cons] at below
  rw [finalText_of_addsBelow below, Text.trim_dropSpacing]

/-- The tokens of closed content between a block separator and more. -/
theorem tokens_closed_append (f g : Fragment) :
    (blockBreak ++ (f.closed ++ g)).tokens = .blockBreak :: (f.tokens ++ .blockBreak :: g.tokens) :=
  congrArg (Token.blockBreak :: ·) (join_blockBreak f.tokens g.tokens)

/-- The separator that closes content may be taken for one that opens the next. -/
theorem closed_append (f g : Fragment) : f.closed ++ g = f ++ (blockBreak ++ g) := by
  have ends := join_onto_block f.tokens [] g.tokens
  rw [join_nil] at ends
  exact congrArg Fragment.mk ((join_blockBreak f.tokens g.tokens).trans ends.symm)

/-- A block that shows nothing may be put in front, and any other one in front of rows that are not
the first thing shown. -/
theorem Holds.append_block (held : Holds rows place (blockBreak ++ f)) {g : Fragment}
    (unseen : place.isFirst = true → g.ink = []) :
    Holds rows place (blockBreak ++ (g.closed ++ f)) := by
  rw [closed_append]
  exact (held.append_left unseen).append_left fun _ => rfl

/-- A block that shows something may be put in front of rows, which then are not the first thing
shown. -/
theorem Holds.behind_block (held : Holds rows place (blockBreak ++ f)) {g : Fragment}
    (shown : g.ink ≠ []) : Holds rows place.below (blockBreak ++ (g.closed ++ f)) := by
  rw [closed_append]
  exact (held.behind shown).append_left fun _ => rfl

/-- A block without separators inside holds the rows that it is laid out with. -/
theorem holds_of_laid (whole : f.tokens = .blockBreak :: (block.tokens ++ .blockBreak :: after))
    (unbroken : .blockBreak ∉ block.tokens)
    (opens : ∀ c ∈ block.laid.head?, Text.isLineBreak c = false)
    (shows : Shows rows place block.laid) : Holds rows place f := by
  have adds := adds_blockBreak unbroken opens
  have ended : (block ++ blockBreak).tokens = block.tokens ++ [.blockBreak] := tokens_closed block
  rw [ended] at adds
  have cut := shows.dropEnd fun _ => Text.isSpace_of_isSpacing
  refine ⟨[], block.tokens, after, _, whole, adds, ?_⟩
  cases place with
  | behind columns => exact .inl cut
  | first lead columns => exact ⟨rfl, cut⟩

/-- The final text starts with no whitespace. -/
theorem head?_finalText {c : Char} (first : c ∈ f.finalText.head?) : Text.isSpace c = false :=
  Text.head?_trimStart (Text.head?_trimEnd first)

/-- Marks are made from the literal text of a line, whose ink is that of the laid out line. -/
theorem laid_resolve_markLines (mark : Nat → Text → Text) (f : Fragment) :
    ∃ mark', (f.resolve.markLines mark).laid = Text.withMarks mark' f.finalText ∧
      ∀ index line, ∃ s, Text.ink s = Text.ink line ∧ mark' index line = mark index s := by
  have unbroken := f.settled_resolve.unbroken
  -- Lines of different literal texts can be laid out alike, so the source is found by its number.
  let source (index : Nat) (t : Text) : Text :=
    f.resolve.lines[index]?.elim t fun line => if line.ink = Text.ink t then line.plainText else t
  refine ⟨fun index t => mark index (source index t), ?_, fun index t => ⟨source index t, ?_, rfl⟩⟩
  · rw [← f.finalText_resolve, finalText_eq_trim_laid, trim_laid_resolve, Text.withMarks,
      splitOn_laid unbroken, Text.mapIdx_map, laid_markLines unbroken]
    congr 1
    apply List.ext_getElem?
    intro index
    rw [List.getElem?_mapIdx, List.getElem?_mapIdx]
    cases found : f.resolve.lines[index]? with
    | none => rfl
    | some line => simp only [source, found, ink_laid, if_true, Option.map_some, Option.elim_some]
  · simp only [source]
    cases f.resolve.lines[index]? with
    | none => rfl
    | some line =>
        rw [Option.elim_some]
        split
        · next same => rw [ink_plainText, same]
        · rfl

variable {content : Fragment} {width : Columns} {lead : Nat} {mark : Nat → Text → Text}

/-- A fragment with rows, resolved and marked, is a block with these rows. -/
theorem holds_marked (whole : f.tokens =
      .blockBreak :: ((content.resolve.markLines mark).tokens ++ .blockBreak :: after))
    (held : Holds rows place content) (marks : Marks width mark) (opens : Opens lead mark) :
    Holds rows (place.trimmed.marked width lead) f := by
  have shows := held.finalText
  obtain ⟨mark', laid, same⟩ := laid_resolve_markLines mark content
  have marks' := marks.of_ink same
  apply holds_of_laid whole (blockBreak_notMem_markLines content.settled_resolve.unbroken mark)
  · rw [laid]
    exact fun c => marks'.head?_withMarks shows.ne_nil (fun d => head?_finalText)
  · rw [laid]
    exact shows.marked marks' (opens.of_ink same)

end Blocks
end Fragment
end ArticleMarkdown
