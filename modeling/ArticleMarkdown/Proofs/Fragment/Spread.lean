import ArticleMarkdown.Fragment.Layout
import ArticleMarkdown.Fragment.Lines
import ArticleMarkdown.Proofs.Text.Ink
import ArticleMarkdown.Proofs.Text.Split

/-!
# Fragments read as texts

A fragment is read as a text by taking each separator for a space. Joining fragments joins these
texts, trimming takes whitespace off their ends, and every other pass over a fragment keeps their
ink: resolving separators, and the final layout. Marking lines adds to the ink and takes nothing
away.
-/

namespace ArticleMarkdown

/-- Spacing is whitespace. -/
theorem Text.isSpace_of_isSpacing {c : Char} (spacing : Text.isSpacing c = true) :
    Text.isSpace c = true := by
  simp only [Text.isSpacing, Bool.or_eq_true, beq_iff_eq] at spacing
  rcases spacing with ((rfl | rfl) | rfl) | rfl <;> rfl

/-- Dropping spacing at the end keeps the ink. -/
@[simp] theorem Text.ink_dropSpacing (t : Text) :
    Text.ink (Text.dropEndWhile Text.isSpacing t) = Text.ink t :=
  Text.ink_dropEndWhile (fun _ => Text.isSpace_of_isSpacing) t

namespace Token

/-- The text of a token, separators being spaces. -/
def spread : Token → Text
  | .text t => t
  | .blockBreak | .inlineBreak => [' ']

/-- The text of tokens one after another. -/
def allSpread (tokens : List Token) : Text :=
  tokens.flatMap spread

/-- No tokens spread to nothing. -/
@[simp] theorem allSpread_nil : allSpread [] = [] := rfl

/-- Tokens spread one after another. -/
@[simp] theorem allSpread_cons (token : Token) (rest : List Token) :
    allSpread (token :: rest) = token.spread ++ allSpread rest := rfl

/-- Both parts of a list of tokens spread. -/
@[simp] theorem allSpread_append (first second : List Token) :
    allSpread (first ++ second) = allSpread first ++ allSpread second :=
  List.flatMap_append

/-- A block separator has no ink. -/
@[simp] theorem ink_spread_blockBreak : Text.ink (spread .blockBreak) = [] := rfl

@[simp] private theorem ink_spread_inlineBreak : Text.ink (spread .inlineBreak) = [] := rfl

/-- Joining keeps what tokens spread to. -/
theorem allSpread_join (left right : List Token) :
    allSpread (join left right) = allSpread left ++ allSpread right := by
  fun_induction join left right with
  | case1 right => rfl
  | case2 s t right => simp [spread]
  | case3 token left right _ ih => simp [ih]

private theorem isBlank_spread (token : Token) : Text.isBlank token.spread = token.isBlank := by
  cases token <;> rfl

/-- Tokens show ink unless all of them are blank. -/
theorem isBlank_allSpread (tokens : List Token) :
    Text.isBlank (allSpread tokens) = tokens.all isBlank := by
  induction tokens with
  | nil => rfl
  | cons token rest ih => simp [isBlank_spread, ih]

private theorem trimLeading_split (tokens : List Token) :
    ∃ before, Text.isBlank before = true ∧
      allSpread tokens = before ++ allSpread (trimLeading tokens) := by
  fun_induction trimLeading tokens with
  | case1 rest ih =>
      obtain ⟨before, blank, split⟩ := ih
      exact ⟨' ' :: before, blank, congrArg (' ' :: ·) split⟩
  | case2 t rest trimmed ih =>
      obtain ⟨before, blank, split⟩ := ih
      have nothing : Text.isBlank t = true := by
        rw [← Text.ink_eq_nil, ← Text.ink_trimStart, trimmed, Text.ink_nil]
      exact ⟨t ++ before, by simp [nothing, blank], by simp [spread, split]⟩
  | case3 t rest _ =>
      obtain ⟨before, blank, split⟩ := Text.trimStart_split t
      exact ⟨before, blank, by simp [spread, ← List.append_assoc, ← split]⟩
  | case4 tokens _ _ => exact ⟨[], rfl, rfl⟩

private theorem trimTrailing_split (tokens : List Token) :
    ∃ after, Text.isBlank after = true ∧
      allSpread tokens = allSpread (trimTrailing tokens) ++ after := by
  fun_induction trimTrailing tokens with
  | case1 => exact ⟨[], rfl, rfl⟩
  | case2 rest trimmed ih =>
      obtain ⟨after, blank, split⟩ := ih
      refine ⟨' ' :: after, blank, ?_⟩
      rw [allSpread_cons, split, trimmed]
      rfl
  | case3 rest trimmed ih =>
      obtain ⟨after, blank, split⟩ := ih
      refine ⟨after, blank, ?_⟩
      rw [allSpread_cons, split, trimmed]
      rfl
  | case4 rest trimmed t trimmedText ih =>
      obtain ⟨after, blank, split⟩ := ih
      have nothing : Text.isBlank t = true := by
        rw [← Text.ink_eq_nil, ← Text.ink_trimEnd, trimmedText, Text.ink_nil]
      refine ⟨t ++ after, by simp [nothing, blank], ?_⟩
      rw [allSpread_cons, split, trimmed]
      rfl
  | case5 rest trimmed t _ ih =>
      obtain ⟨after, blank, split⟩ := ih
      obtain ⟨cut, blank', ending⟩ := Text.trimEnd_split t
      refine ⟨cut ++ after, by simp [blank, blank'], ?_⟩
      rw [allSpread_cons, split, trimmed]
      simp only [spread, allSpread_nil, allSpread_cons, List.nil_append, List.append_nil]
      rw [← List.append_assoc, ← ending]
  | case6 token rest _ ih =>
      obtain ⟨after, blank, split⟩ := ih
      exact ⟨after, blank, by rw [allSpread_cons, split, allSpread_cons, List.append_assoc]⟩

/-- The ink of tokens that are held last first. -/
def heldInk (held : List Token) : Text :=
  Text.ink (allSpread held.reverse)

@[simp] private theorem heldInk_cons (token : Token) (before : List Token) :
    heldInk (token :: before) = heldInk before ++ Text.ink token.spread := by
  simp [heldInk]

@[simp] private theorem heldInk_cutSpacing (held : List Token) :
    heldInk (cutSpacing held) = heldInk held := by
  fun_induction cutSpacing held with
  | case1 t before nothing ih =>
      have bare := Text.ink_dropSpacing t
      rw [nothing, Text.ink_nil] at bare
      rw [ih, heldInk_cons, spread, ← bare, List.append_nil]
  | case2 t before _ => rw [heldInk_cons, heldInk_cons, spread, spread, Text.ink_dropSpacing]
  | case3 before ih => rw [ih, heldInk_cons, ink_spread_inlineBreak, List.append_nil]
  | case4 before _ _ => rfl

@[simp] private theorem heldInk_writeText (t : Text) (held : List Token) :
    heldInk (writeText t held) = heldInk held ++ Text.ink t := by
  cases held with
  | nil => simp [writeText, heldInk, spread]
  | cons token before => cases token <;> simp [writeText, spread]

section Dropping

variable {p : Token → Bool} (blank : ∀ token, p token = true → token.isBlank = true)

include blank

/-- Blank tokens at the start are blank. -/
theorem takeWhile_blank (tokens : List Token) : (tokens.takeWhile p).all isBlank = true :=
  List.all_eq_true.mpr fun token member => blank token (List.mem_takeWhile_imp member)

private theorem ink_dropWhile (tokens : List Token) :
    Text.ink (allSpread (tokens.dropWhile p)) = Text.ink (allSpread tokens) := by
  have nothing := takeWhile_blank blank tokens
  rw [← isBlank_allSpread, ← Text.ink_eq_nil] at nothing
  conv_rhs => rw [← List.takeWhile_append_dropWhile (p := p) (l := tokens)]
  rw [allSpread_append, Text.ink_append, nothing, List.nil_append]

private theorem heldInk_dropWhile (held : List Token) :
    heldInk (held.dropWhile p) = heldInk held := by
  have nothing := takeWhile_blank blank held
  rw [← List.all_reverse, ← isBlank_allSpread, ← Text.ink_eq_nil] at nothing
  conv_rhs => rw [← List.takeWhile_append_dropWhile (p := p) (l := held)]
  rw [heldInk, heldInk, List.reverse_append, allSpread_append, Text.ink_append, nothing,
    List.append_nil]

/-- Tokens without blank ones at their ends, read in any way that takes blank tokens for
whitespace. -/
theorem frames_read_dropBlank {read : Token → Text}
    (silent : ∀ token, token.isBlank = true → Text.isBlank (read token) = true)
    (tokens : List Token) :
    Text.Frames (tokens.flatMap read)
      (((tokens.dropWhile p).reverse.dropWhile p).reverse.flatMap read) := by
  have start : tokens = tokens.takeWhile p ++ tokens.dropWhile p :=
    List.takeWhile_append_dropWhile.symm
  have ending : ∀ body : List Token,
      body = (body.reverse.dropWhile p).reverse ++ (body.reverse.takeWhile p).reverse := by
    intro body
    rw [← List.reverse_append, List.takeWhile_append_dropWhile, List.reverse_reverse]
  have blankRead : ∀ edge : List Token, edge.all isBlank = true →
      Text.isBlank (edge.flatMap read) = true := by
    intro edge edgeBlank
    refine Text.isBlank_iff.mpr fun c member => ?_
    obtain ⟨token, listed, inside⟩ := List.mem_flatMap.mp member
    exact Text.isBlank_iff.mp (silent token (List.all_eq_true.mp edgeBlank token listed)) c inside
  refine .of_splits (blankRead _ (takeWhile_blank blank tokens)) ?_
    ((congrArg (List.flatMap read) start).trans List.flatMap_append)
    ((congrArg (List.flatMap read) (ending _)).trans List.flatMap_append)
  refine blankRead _ ?_
  rw [List.all_reverse]
  exact takeWhile_blank blank _

/-- Tokens without blank ones at their ends. -/
theorem frames_dropBlank (tokens : List Token) :
    Text.Frames (allSpread tokens)
      (allSpread ((tokens.dropWhile p).reverse.dropWhile p).reverse) :=
  frames_read_dropBlank blank (fun token silent => (isBlank_spread token).trans silent) tokens

end Dropping

/-- An inline separator is blank. -/
theorem isBlank_of_inline (token : Token) (inline : (token == .inlineBreak) = true) :
    token.isBlank = true := by
  rw [beq_iff_eq.mp inline]
  rfl

/-- Resolving separators moves no ink. -/
theorem ink_resolveFrom (pending : Bool) (held tokens : List Token) :
    Text.ink (allSpread (resolveFrom pending held tokens)) =
      heldInk held ++ Text.ink (allSpread tokens) := by
  fun_induction resolveFrom pending held tokens with
  | case1 pending held => simp [heldInk]
  | case2 pending held rest ih => simp [ih, heldInk_dropWhile isBlank_of_inline]
  | case3 pending held rest ih =>
      rw [ih]
      split <;> simp
  | case4 pending held t rest nothing ih =>
      rw [List.isEmpty_iff] at nothing
      simp [ih, nothing, spread]
  | case5 held t rest _ kept nothing ih =>
      have bare := Text.ink_dropLineBreaks t
      rw [nothing, Text.ink_nil] at bare
      simp [ih, kept, spread, ← bare]
  | case6 held t rest _ kept opened _ ih =>
      have same : heldInk opened = heldInk held := by
        simp only [opened, kept]
        split <;> simp [Text.ink, Text.isSpace]
      simp [ih, same, spread]
  | case7 pending held t rest _ _ ih => simp [ih, spread]

end Token

namespace Text

/-- Lines hold the ink of a text. -/
theorem ink_lines (t : Text) : ink (splitOn '\n' t).flatten = ink t := by
  rw [splitOn, flatten_splitBy, ink, List.filter_filter, ink]
  refine List.filter_congr fun c _ => ?_
  by_cases lineFeed : c = '\n'
  · subst lineFeed
    rfl
  · simp [lineFeed]

end Text

namespace Token

@[simp] private theorem ink_ofText? (t : Text) : Text.ink (allSpread (ofText? t)) = Text.ink t := by
  cases t with
  | nil => rfl
  | cons c rest => simp [ofText?, spread]

/-- The ink of lines one after another. -/
def linesInk (lines : List (List Token)) : Text :=
  lines.flatMap fun line => Text.ink (allSpread line)

/-- The ink of lines, one line after another. -/
@[simp] theorem linesInk_cons (line : List Token) (rest : List (List Token)) :
    linesInk (line :: rest) = Text.ink (allSpread line) ++ linesInk rest := rfl

@[simp] private theorem linesInk_append (first second : List (List Token)) :
    linesInk (first ++ second) = linesInk first ++ linesInk second :=
  List.flatMap_append

private theorem linesInk_ofText? (pieces : List Text) :
    linesInk (pieces.map ofText?) = Text.ink pieces.flatten := by
  induction pieces with
  | nil => rfl
  | cons piece rest ih => simp [ih]

private theorem ink_lines (tokens : List Token) :
    linesInk ((lines tokens).1 :: (lines tokens).2) = Text.ink (allSpread tokens) := by
  fun_induction lines tokens with
  | case1 => rfl
  | case2 t rest first others below nothing ih =>
      have bare := Text.ink_lines t
      rw [nothing] at bare
      rw [below] at ih
      simp [spread, ← bare, ← ih]
  | case3 t rest first others below piece pieces split single ih =>
      have alone := Text.ink_lines t
      rw [split, List.reverse_eq_nil_iff.mp single] at alone
      rw [below] at ih
      simpa [spread, ← alone] using ih
  | case4 t rest first others below piece pieces split last middle ending ih =>
      have all := Text.ink_lines t
      rw [split, List.reverse_eq_iff.mp ending] at all
      rw [below] at ih
      have between := linesInk_ofText? middle.reverse
      simp only [linesInk_cons] at ih
      rw [List.map_reverse] at between
      simp [between, spread, ← all, ← ih]
  | case5 separator rest isSeparator first others below ih =>
      rw [below] at ih
      simpa using ih

end Token

namespace Fragment

open Token

/-- The text of a fragment, separators being spaces. -/
def spread (f : Fragment) : Text :=
  allSpread f.tokens

/-- What a fragment shows, without whitespace. -/
def ink (f : Fragment) : Text :=
  Text.ink f.spread

/-- Joined fragments spread one after another. -/
@[simp] theorem spread_append (f g : Fragment) : (f ++ g).spread = f.spread ++ g.spread :=
  allSpread_join f.tokens g.tokens

/-- An empty fragment spreads to nothing. -/
@[simp] theorem spread_empty : (∅ : Fragment).spread = [] := rfl

/-- A block separator spreads to a space. -/
@[simp] theorem spread_blockBreak : blockBreak.spread = [' '] := rfl

/-- An inline separator spreads to a space. -/
@[simp] theorem spread_inlineBreak : inlineBreak.spread = [' '] := rfl

/-- A text spreads to itself. -/
@[simp] theorem spread_ofText (t : Text) : (ofText t).spread = t := by
  cases t with
  | nil => rfl
  | cons c rest => simp [ofText, spread, Token.spread]

/-- Flattening keeps what a fragment spreads to. -/
@[simp] theorem spread_flattened (f : Fragment) : f.flattened.spread = f.spread := by
  simp only [spread, flattened, allSpread, List.flatMap_map]
  congr 1
  funext token
  cases token <;> rfl

/-- Trimming cuts whitespace off what a fragment spreads to. -/
theorem frames_trim (f : Fragment) : Text.Frames f.spread f.trim.spread := by
  obtain ⟨before, blank, start⟩ := trimLeading_split f.tokens
  obtain ⟨after, blank', ending⟩ := trimTrailing_split (trimLeading f.tokens)
  exact .of_splits blank blank' start ending

/-- Ink of joined fragments. -/
@[simp] theorem ink_append (f g : Fragment) : (f ++ g).ink = f.ink ++ g.ink := by
  simp [ink]

/-- An empty fragment has no ink. -/
@[simp] theorem ink_empty : (∅ : Fragment).ink = [] := rfl

/-- A block separator has no ink. -/
@[simp] theorem ink_blockBreak : blockBreak.ink = [] := rfl

/-- An inline separator has no ink. -/
@[simp] theorem ink_inlineBreak : inlineBreak.ink = [] := rfl

/-- A text has its ink. -/
@[simp] theorem ink_ofText (t : Text) : (ofText t).ink = Text.ink t := by
  rw [ink, spread_ofText]

/-- Block separators add no ink. -/
@[simp] theorem ink_blocked (f : Fragment) : f.blocked.ink = f.ink := by
  simp [blocked]

/-- Inline separators add no ink. -/
@[simp] theorem ink_inlined (f : Fragment) : f.inlined.ink = f.ink := by
  simp [inlined]

/-- Flattening keeps the ink. -/
@[simp] theorem ink_flattened (f : Fragment) : f.flattened.ink = f.ink := by
  rw [ink, spread_flattened, ink]

/-- Trimming keeps the ink. -/
@[simp] theorem ink_trim (f : Fragment) : f.trim.ink = f.ink :=
  f.frames_trim.ink_eq.symm

/-- Resolving keeps the ink. -/
@[simp] theorem ink_resolve (f : Fragment) : f.resolve.ink = f.ink := by
  rw [resolve, ink_trim, ink, spread, ink_resolveFrom]
  rfl

/-- A fragment is blank if and only if it has no ink. -/
theorem isBlank_iff (f : Fragment) : f.isBlank = true ↔ f.ink = [] := by
  rw [isBlank, ← isBlank_allSpread, ink, Text.ink_eq_nil, spread]

private theorem ink_marked (mark : Text) (line : Fragment) :
    line.ink.Sublist (marked mark line).ink := by
  rw [marked]
  split
  · exact List.Sublist.refl _
  · rw [ink_append]
    have kept : ink ⟨line.tokens.dropWhile (· == .inlineBreak)⟩ = line.ink :=
      Token.ink_dropWhile isBlank_of_inline line.tokens
    rw [kept]
    exact List.sublist_append_right _ _

private theorem ink_markFollowing (mark : Nat → Text → Text) (index : Nat) (lines : List Fragment) :
    (lines.flatMap ink).Sublist (markFollowing mark index lines).ink := by
  induction lines generalizing index with
  | nil => exact List.nil_sublist _
  | cons line rest ih =>
      rw [markFollowing, ink_append, ink_append, List.flatMap_cons]
      have first := (ink_marked (mark index line.plainText) line).trans
        (List.sublist_append_right (ofText ['\n']).ink _)
      exact first.append (ih (index + 1))

/-- Marking lines takes no ink away. -/
theorem ink_markLines (mark : Nat → Text → Text) (f : Fragment) :
    f.ink.Sublist (f.markLines mark).ink := by
  have whole : f.ink = f.lines.flatMap ink := by
    rw [ink, spread, ← Token.ink_lines, linesInk, lines, List.flatMap_map]
    rfl
  rw [whole, markLines]
  split
  · next none => exact absurd none (List.cons_ne_nil _ _)
  · next first rest found =>
    rw [found, ink_append, List.flatMap_cons]
    exact (ink_marked _ first).append (ink_markFollowing mark 1 rest)

end Fragment

namespace Layout

/-- A token adds its ink to what is written. -/
theorem ink_write (layout : Layout) (token : Token) :
    Text.ink (layout.write token).written = Text.ink layout.written ++ Text.ink token.spread := by
  cases token with
  | blockBreak => simp [write]
  | inlineBreak => simp [write]
  | text t =>
      simp only [write, Token.spread]
      split
      · next nothing => simp [List.isEmpty_iff.mp nothing]
      · split
        · have body := Text.ink_dropLineBreaks t
          have kept := Text.ink_dropSpacing layout.written
          split
          · next nothing =>
            rw [nothing] at body
            simp [← body]
          · rw [← body, ← kept]
            split
            · next nothing => simp [List.isEmpty_iff.mp nothing]
            · simp [Text.ink, Text.isSpace]
        · have gap : ∀ wanted : Prop, [Decidable wanted] →
              Text.ink (if wanted then [' '] else []) = [] := by
            intro wanted _
            split <;> rfl
          simp [gap]

/-- Tokens add their ink to what is written. -/
theorem ink_foldl_write (layout : Layout) (tokens : List Token) :
    Text.ink (tokens.foldl write layout).written =
      Text.ink layout.written ++ Text.ink (Token.allSpread tokens) := by
  induction tokens generalizing layout with
  | nil => simp
  | cons token rest ih => simp [ih, ink_write]

end Layout

/-- The final layout moves no ink. -/
theorem Fragment.ink_finalText (f : Fragment) : Text.ink f.finalText = f.ink := by
  rw [finalText, Text.ink_trim, Layout.ink_foldl_write]
  rfl

end ArticleMarkdown
