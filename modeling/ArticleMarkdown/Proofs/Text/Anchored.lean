import ArticleMarkdown.Fragment.Resolve
import ArticleMarkdown.Proofs.Fragment.Spread
import ArticleMarkdown.Proofs.Text.Lines

/-!
# Line breaks between characters that show

A text is anchored if all its line breaks lie between characters that are no whitespace. Anchored
texts one after another have no line breaks and no blank lines but their own, and none at the edges
that trimming could take off. Both are properties of lines (`Text.OfLines`): they do not depend on
spaces, nor on what stands on the first and the last line.
-/

namespace ArticleMarkdown.Text

variable {s t w : Text} {c : Char}

/-- Whether there is a line break. -/
def hasLineBreak (t : Text) : Bool :=
  t.any isLineBreak

/-- Whether a blank line ends in the text, if `waits` tells that a line without anything but spacing
stands open before it. -/
def blankLineFrom (waits : Bool) : Text → Bool
  | [] => false
  | c :: rest =>
    if c == '\n' then waits || blankLineFrom true rest
    else blankLineFrom (waits && isSpacing c) rest

/-- Whether there are two line feeds with nothing but spacing between them. -/
def hasBlankLine (t : Text) : Bool :=
  blankLineFrom false t

/-- The text without its spaces. -/
def unspaced (t : Text) : Text :=
  t.filter (· != ' ')

/-- A line break is in one of two texts that are joined. -/
@[simp] theorem hasLineBreak_append (s t : Text) :
    hasLineBreak (s ++ t) = (hasLineBreak s || hasLineBreak t) :=
  List.any_append

/-- Spacing is taken out of each part. -/
@[simp] theorem unspaced_append (s t : Text) : unspaced (s ++ t) = unspaced s ++ unspaced t :=
  List.filter_append s t

private theorem hasLineBreak_of_subset (inside : s ⊆ t) (single : hasLineBreak t = false) :
    hasLineBreak s = false := by
  rw [hasLineBreak, List.any_eq_false] at single ⊢
  exact fun c member => single c (inside member)

/-- Whitespace at the start of a text ends before the first character that shows. -/
theorem blank_prefix_split {w before after : Text} (blank : isBlank w = true)
    (solid : isSpace c = false) (same : w ++ t = before ++ c :: after) :
    ∃ rest, before = w ++ rest ∧ t = rest ++ c :: after := by
  rcases List.append_eq_append_iff.mp same with ⟨rest, whole, ends⟩ | ⟨rest, whole, ends⟩
  · exact ⟨rest, whole, ends⟩
  · cases rest with
    | nil => exact ⟨[], by simpa using whole.symm, ends.symm⟩
    | cons d rest =>
        cases ends
        rw [whole, isBlank_iff] at blank
        rw [blank c (by simp)] at solid
        cases solid

/-- Whitespace at the end of a text starts behind the last character that shows. -/
theorem blank_suffix_split {w before after : Text} (blank : isBlank w = true)
    (solid : isSpace c = false) (same : t ++ w = before ++ c :: after) :
    ∃ rest, after = rest ++ w ∧ t = before ++ c :: rest := by
  rcases List.append_eq_append_iff.mp same with ⟨rest, whole, ends⟩ | ⟨rest, whole, ends⟩
  · rw [ends, isBlank_iff] at blank
    rw [blank c (by simp)] at solid
    cases solid
  · cases rest with
    | nil =>
        rw [List.nil_append] at ends
        rw [← ends, isBlank_iff] at blank
        rw [blank c List.mem_cons_self] at solid
        cases solid
    | cons d rest =>
        cases ends
        exact ⟨rest, rfl, whole⟩

/-- The first character shows. -/
def StartsFirm (t : Text) : Prop :=
  ∃ c rest, t = c :: rest ∧ isSpace c = false

/-- The last character shows. -/
def EndsFirm (t : Text) : Prop :=
  ∃ before c, t = before ++ [c] ∧ isSpace c = false

/-- What follows does not change how a text starts. -/
theorem StartsFirm.append (starts : StartsFirm s) (t : Text) : StartsFirm (s ++ t) := by
  obtain ⟨c, rest, rfl, solid⟩ := starts
  exact ⟨c, rest ++ t, rfl, solid⟩

private theorem StartsFirm.of_blank_append {w : Text} (starts : StartsFirm (w ++ t))
    (blank : isBlank w = true) : StartsFirm t := by
  obtain ⟨c, rest, whole, solid⟩ := starts
  cases w with
  | nil => exact ⟨c, rest, whole, solid⟩
  | cons d w =>
      cases whole
      rw [isBlank_iff.mp blank c List.mem_cons_self] at solid
      cases solid

private theorem StartsFirm.of_append_space (starts : StartsFirm (s ++ c :: t))
    (space : isSpace c = true) :
    StartsFirm s := by
  obtain ⟨d, rest, whole, solid⟩ := starts
  cases s with
  | nil =>
      cases whole
      rw [space] at solid
      cases solid
  | cons e s =>
      cases whole
      exact ⟨d, s, rfl, solid⟩

/-- What stands in front does not change how a text ends. -/
theorem EndsFirm.prepend (ends : EndsFirm t) (s : Text) : EndsFirm (s ++ t) := by
  obtain ⟨before, c, rfl, solid⟩ := ends
  exact ⟨s ++ before, c, (List.append_assoc _ _ _).symm, solid⟩

/-- How a text ends is told by its tail, unless it is one character. -/
theorem endsFirm_cons : EndsFirm (c :: t) ↔ EndsFirm t ∨ t = [] ∧ isSpace c = false := by
  constructor
  · rintro ⟨before, d, whole, solid⟩
    cases before with
    | nil =>
        cases whole
        exact .inr ⟨rfl, solid⟩
    | cons e before =>
        cases whole
        exact .inl ⟨before, d, rfl, solid⟩
  · rintro (ends | ⟨rfl, solid⟩)
    · exact ends.prepend [c]
    · exact ⟨[], c, rfl, solid⟩

/-- A space in front does not help a text to end. -/
theorem EndsFirm.of_cons_space (ends : EndsFirm (c :: t)) (space : isSpace c = true) :
    EndsFirm t := by
  refine (endsFirm_cons.mp ends).resolve_right ?_
  rintro ⟨-, solid⟩
  rw [space] at solid
  cases solid

private theorem EndsFirm.of_append (ends : EndsFirm (s ++ t)) (filled : t ≠ []) : EndsFirm t := by
  obtain ⟨before, c, whole, solid⟩ := ends
  rcases List.eq_nil_or_concat' t with nothing | ⟨front, d, rfl⟩
  · exact absurd nothing filled
  · rw [← List.append_assoc] at whole
    cases (List.append_inj' whole rfl).2
    exact ⟨front, c, rfl, solid⟩

/-- A text whose first and last characters show. -/
structure Firm (t : Text) : Prop where
  starts : StartsFirm t
  ends : EndsFirm t

namespace Firm

private theorem of_edges (filled : t ≠ []) (first : ∀ c ∈ t.head?, isSpace c = false)
    (last : ∀ c ∈ t.getLast?, isSpace c = false) : Firm t where
  starts := by
    obtain ⟨c, rest, rfl⟩ := List.exists_cons_of_ne_nil filled
    exact ⟨c, rest, rfl, first c rfl⟩
  ends := ⟨t.dropLast, t.getLast filled, (List.dropLast_append_getLast filled).symm,
    last _ (List.getLast?_eq_some_getLast filled)⟩

/-- A text with two solid edges is firm. -/
theorem of_any (starts : t.head?.any (fun c => !isSpace c) = true)
    (ends : t.getLast?.any (fun c => !isSpace c) = true) : Firm t where
  starts := by
    obtain ⟨c, first, shown⟩ := Option.any_eq_true _ _ |>.mp starts
    obtain ⟨rest, rfl⟩ := List.head?_eq_some_iff.mp first
    exact ⟨c, rest, rfl, Bool.not_eq_true' _ |>.mp shown⟩
  ends := by
    obtain ⟨c, last, shown⟩ := Option.any_eq_true _ _ |>.mp ends
    obtain ⟨before, rfl⟩ := List.getLast?_eq_some_iff.mp last
    exact ⟨before, c, rfl, Bool.not_eq_true' _ |>.mp shown⟩

/-- Trimming leaves nothing or a firm text. -/
theorem of_trim (t : Text) : trim t = [] ∨ Firm (trim t) := by
  by_cases nothing : trim t = []
  · exact .inl nothing
  · refine .inr (.of_edges nothing (fun c first => ?_) fun c => getLast?_trim)
    exact head?_trimStart (head?_trimEnd first)

/-- A solid character is firm. -/
theorem singleton (solid : isSpace c = false) : Firm [c] :=
  ⟨⟨c, [], rfl, solid⟩, [], c, rfl, solid⟩

/-- A run of one solid character is firm. -/
theorem repeated (solid : isSpace c = false) (n : Nat) : Firm (repeated (n + 1) c) where
  starts := ⟨c, List.replicate n c, List.replicate_succ, solid⟩
  ends := ⟨List.replicate n c, c, List.replicate_succ', solid⟩

/-- A firm start and a text that ends firmly. -/
theorem append (firm : Firm s) (ends : EndsFirm t) : Firm (s ++ t) :=
  ⟨firm.starts.append t, ends.prepend s⟩

/-- Anything may stand between two firm texts. -/
theorem between (firm : Firm s) (firm' : Firm t) (inner : Text) : Firm (s ++ inner ++ t) :=
  ⟨(firm.starts.append inner).append t, firm'.ends.prepend _⟩

/-- A firm text is not empty. -/
theorem ne_nil (firm : Firm t) : t ≠ [] := by
  obtain ⟨c, rest, rfl, -⟩ := firm.starts
  exact List.cons_ne_nil c rest

/-- A firm text shows something. -/
theorem ink_ne_nil (firm : Firm t) : ink t ≠ [] := by
  obtain ⟨c, rest, rfl, solid⟩ := firm.starts
  rw [ink_cons, solid]
  exact List.cons_ne_nil _ _

/-- A firm text starts with no line break. -/
theorem dropLineBreaks (firm : Firm t) : t.dropWhile isLineBreak = t := by
  obtain ⟨c, rest, rfl, solid⟩ := firm.starts
  exact List.dropWhile_cons_of_neg (Bool.eq_false_iff.mp (isLineBreak_of_solid solid))

/-- Only what follows a firm text loses spacing at its end. -/
theorem dropEnd_append (firm : Firm s) (t : Text) :
    dropEndWhile isSpacing (s ++ t) = s ++ dropEndWhile isSpacing t := by
  obtain ⟨before, c, rfl, solid⟩ := firm.ends
  rw [dropEndWhile_append]
  split
  · next nothing =>
    rw [List.isEmpty_iff.mp nothing, List.append_nil]
    exact dropEndWhile_solid (fun _ => isSpace_of_isSpacing) solid before
  · rfl

/-- A firm text is trimmed. -/
theorem trim_eq (firm : Firm t) : trim t = t := by
  refine trim_of_edges (fun d first => ?_) fun d last => ?_
  · obtain ⟨c, rest, rfl, solid⟩ := firm.starts
    cases first
    exact solid
  · obtain ⟨before, c, rfl, solid⟩ := firm.ends
    rw [List.getLast?_concat] at last
    cases last
    exact solid

/-- A firm text is not reached by trimming what stands around it. -/
theorem trim_around (firm : Firm t) (before after : Text) :
    trim (before ++ t ++ after) = trimStart before ++ t ++ trimEnd after := by
  have started : trimStart (before ++ t ++ after) = trimStart before ++ t ++ after := by
    obtain ⟨c, rest, rfl, solid⟩ := firm.starts
    simp only [List.append_assoc, List.cons_append]
    exact trimStart_append_cons solid before _
  rw [trim, started]
  obtain ⟨front, c, rfl, solid⟩ := firm.ends
  have ended := trimEnd_append_cons solid (trimStart before ++ front) after
  simpa using ended

end Firm

/-- A text whose edges show, between texts without line breaks. -/
def Grounded (t : Text) : Prop :=
  ∃ before core after, t = before ++ core ++ after ∧ hasLineBreak before = false ∧
    hasLineBreak after = false ∧ Firm core

/-- All line breaks lie between characters that show. -/
def Anchored (t : Text) : Prop :=
  hasLineBreak t = false ∨ Grounded t

namespace Grounded

/-- A firm text is grounded, whatever line breaks it holds. -/
theorem of_firm (firm : Firm t) : Grounded t :=
  ⟨[], t, [], by simp, rfl, rfl, firm⟩

/-- Parts of one line may stand around a grounded text. -/
theorem framed (grounded : Grounded t) {before after : Text} (single : hasLineBreak before = false)
    (single' : hasLineBreak after = false) : Grounded (before ++ t ++ after) := by
  obtain ⟨front, core, back, rfl, single₁, single₂, firm⟩ := grounded
  refine ⟨before ++ front, core, back ++ after, by simp only [List.append_assoc], ?_, ?_, firm⟩
  · rw [hasLineBreak_append, single, single₁, Bool.or_self]
  · rw [hasLineBreak_append, single', single₂, Bool.or_self]

/-- Whatever stands between two such texts lies between characters that show. -/
theorem between (grounded : Grounded s) (grounded' : Grounded t) (inner : Text) :
    Grounded (s ++ inner ++ t) := by
  obtain ⟨before, core, after, rfl, single, -, firm⟩ := grounded
  obtain ⟨before', core', after', rfl, -, single', firm'⟩ := grounded'
  refine ⟨before, core ++ (after ++ inner ++ before') ++ core', after', ?_, single, single',
    firm.between firm' _⟩
  simp only [List.append_assoc]

/-- Grounded pieces may be joined by anything. -/
theorem join (separator : Text) {pieces : List Text} (filled : pieces ≠ [])
    (grounded : ∀ piece ∈ pieces, Grounded piece) : Grounded (join separator pieces) := by
  induction pieces with
  | nil => exact absurd rfl filled
  | cons piece rest ih =>
      have here := grounded piece List.mem_cons_self
      by_cases last : rest = []
      · rw [last]
        exact here
      · rw [join_cons_of_ne_nil _ _ last]
        have below := ih last fun other member => grounded other (List.mem_cons_of_mem _ member)
        exact here.between below separator

/-- Whitespace at the edges lies outside the characters that show. -/
theorem of_frames (grounded : Grounded s) (framed : Frames s t) :
    Grounded t ∧ ∃ before after, hasLineBreak before = false ∧ hasLineBreak after = false ∧
      s = before ++ t ++ after := by
  obtain ⟨u, v, blank, blank', whole⟩ := framed
  obtain ⟨before, core, after, parts, single, single', firm⟩ := grounded
  obtain ⟨c, body, starting, solid⟩ := firm.starts
  obtain ⟨inner, d, ending, solid'⟩ := firm.ends
  have start : u ++ (t ++ v) = before ++ c :: (body ++ after) := by
    rw [← List.append_assoc, ← whole, parts, starting, List.append_assoc, List.cons_append]
  obtain ⟨before, rfl, rest⟩ := blank_prefix_split blank solid start
  have stop : t ++ v = (before ++ inner) ++ d :: after := by
    rw [rest, ← List.cons_append, ← starting, ending]
    simp
  obtain ⟨after, rfl, inside⟩ := blank_suffix_split blank' solid' stop
  rw [hasLineBreak_append, Bool.or_eq_false_iff] at single single'
  refine ⟨⟨before, core, after, ?_, single.2, single'.1, firm⟩, u, v, single.1, single'.2, whole⟩
  rw [inside, ending]
  simp

end Grounded

namespace Anchored

/-- A text of one line is anchored. -/
theorem of_single (single : hasLineBreak t = false) : Anchored t :=
  .inl single

/-- A firm text is anchored. -/
theorem of_firm (firm : Firm t) : Anchored t :=
  .inr (.of_firm firm)

/-- Parts of one line may stand around an anchored text. -/
theorem framed (anchored : Anchored t) {before after : Text} (single : hasLineBreak before = false)
    (single' : hasLineBreak after = false) : Anchored (before ++ t ++ after) := by
  rcases anchored with none | grounded
  · refine .inl ?_
    rw [hasLineBreak_append, hasLineBreak_append, single, none, single']
    rfl
  · exact .inr (grounded.framed single single')

/-- Anchored texts may be joined. -/
theorem append (anchored : Anchored s) (anchored' : Anchored t) : Anchored (s ++ t) := by
  rcases anchored with single | grounded
  · have framed := anchored'.framed single (rfl : hasLineBreak [] = false)
    rwa [List.append_nil] at framed
  · rcases anchored' with single' | grounded'
    · exact .inr (grounded.framed (rfl : hasLineBreak [] = false) single')
    · refine .inr ?_
      simpa using grounded.between grounded' []

/-- Whitespace taken off the edges of an anchored text holds no line breaks, unless all of the text
is whitespace; then there are none either. -/
theorem of_frames (anchored : Anchored s) (framed : Frames s t) :
    Anchored t ∧ ∃ before after, hasLineBreak before = false ∧ hasLineBreak after = false ∧
      s = before ++ t ++ after := by
  rcases anchored with single | grounded
  · obtain ⟨before, after, -, -, rfl⟩ := framed
    simp only [hasLineBreak_append, Bool.or_eq_false_iff] at single
    exact ⟨.inl single.1.2, before, after, single.1.1, single.2, rfl⟩
  · obtain ⟨inner, split⟩ := grounded.of_frames framed
    exact ⟨.inr inner, split⟩

end Anchored

/-- A property of the lines of a text. -/
structure OfLines (property : Text → Bool) : Prop where
  single : ∀ {t}, hasLineBreak t = false → property t = false
  framed : ∀ {before after}, hasLineBreak before = false → hasLineBreak after = false →
    ∀ t, property (before ++ t ++ after) = property t
  append : ∀ {s t}, Anchored s → Anchored t → property (s ++ t) = (property s || property t)
  unspaced : ∀ t, property (unspaced t) = property t

/-- Whether a text has a line break is a matter of its lines. -/
theorem ofLines_hasLineBreak : OfLines hasLineBreak where
  single none := none
  framed none none' t := by simp [none, none']
  append _ _ := hasLineBreak_append _ _
  unspaced t := by
    rw [hasLineBreak, unspaced, List.any_filter, hasLineBreak]
    congr 1
    funext c
    by_cases space : c = ' '
    · rw [space]
      rfl
    · simp [space]

section BlankLine

/-- Whether a line without anything but spacing stands open behind the text, if `waits` tells that
one does before it. -/
def waitsAfter (waits : Bool) : Text → Bool
  | [] => waits
  | c :: rest => waitsAfter (c == '\n' || waits && isSpacing c) rest

private theorem blankLineFrom_append (waits : Bool) (s t : Text) :
    blankLineFrom waits (s ++ t) =
      (blankLineFrom waits s || blankLineFrom (waitsAfter waits s) t) := by
  induction s generalizing waits with
  | nil => rfl
  | cons c s ih =>
      rw [List.cons_append, blankLineFrom, blankLineFrom, waitsAfter]
      split
      · next lineFeed => rw [ih, lineFeed, Bool.true_or, Bool.or_assoc]
      · next other => rw [ih, Bool.eq_false_iff.mpr other, Bool.false_or]

/-- A blank line stays one, whatever follows. -/
theorem hasBlankLine_append_of_left (parted : hasBlankLine s = true) (t : Text) :
    hasBlankLine (s ++ t) = true := by
  rw [hasBlankLine, blankLineFrom_append, ← hasBlankLine, parted, Bool.true_or]

/-- Two line feeds make a blank line. -/
theorem hasBlankLine_lineFeeds (s t : Text) : hasBlankLine (s ++ '\n' :: '\n' :: t) = true := by
  rw [hasBlankLine, blankLineFrom_append]
  simp [blankLineFrom]

private theorem ne_lineFeed_of_single (single : hasLineBreak t = false) :
    ∀ c ∈ t, (c == '\n') = false := by
  rw [hasLineBreak, List.any_eq_false] at single
  intro c member
  refine Bool.eq_false_iff.mpr fun same => single c member ?_
  rw [isLineBreak, same, Bool.true_or]

private theorem waitsAfter_of_single (single : hasLineBreak t = false) :
    waitsAfter false t = false := by
  induction t with
  | nil => rfl
  | cons c t ih =>
      have other := ne_lineFeed_of_single single c List.mem_cons_self
      rw [waitsAfter, other, Bool.false_and, Bool.or_self]
      exact ih (hasLineBreak_of_subset (List.subset_cons_self c t) single)

private theorem blankLineFrom_of_single (waits : Bool) (single : hasLineBreak t = false) :
    blankLineFrom waits t = false := by
  induction t generalizing waits with
  | nil => rfl
  | cons c t ih =>
      have other := ne_lineFeed_of_single single c List.mem_cons_self
      rw [blankLineFrom, other, if_neg Bool.false_ne_true]
      exact ih _ (hasLineBreak_of_subset (List.subset_cons_self c t) single)

/-- A solid character is no spacing. -/
theorem isSpacing_of_solid (solid : isSpace c = false) : isSpacing c = false :=
  stays_of_solid (fun _ => isSpace_of_isSpacing) solid

/-- No line stands open behind a character that shows. -/
theorem waitsAfter_concat (solid : isSpace c = false) (waits : Bool) (s : Text) :
    waitsAfter waits (s ++ [c]) = false := by
  have other : (c == '\n') = false := by
    refine beq_false_of_ne ?_
    rintro rfl
    cases solid
  induction s generalizing waits with
  | nil => rw [List.nil_append, waitsAfter, other, isSpacing_of_solid solid, Bool.and_false]; rfl
  | cons d s ih => exact ih _

private theorem waitsAfter_append (waits : Bool) (s t : Text) :
    waitsAfter waits (s ++ t) = waitsAfter (waitsAfter waits s) t := by
  induction s generalizing waits with
  | nil => rfl
  | cons c s ih => exact ih _

private theorem Anchored.waitsAfter_eq (anchored : Anchored t) : waitsAfter false t = false := by
  rcases anchored with single | ⟨before, core, after, rfl, single, single', firm⟩
  · exact waitsAfter_of_single single
  · obtain ⟨inner, c, rfl, solid⟩ := firm.ends
    rw [waitsAfter_append, waitsAfter_append, waitsAfter_concat solid]
    exact waitsAfter_of_single single'

private theorem blankLineFrom_unspaced (waits : Bool) (t : Text) :
    blankLineFrom waits (unspaced t) = blankLineFrom waits t := by
  induction t generalizing waits with
  | nil => rfl
  | cons c t ih =>
      by_cases space : c = ' '
      · subst space
        have skipped : blankLineFrom waits (' ' :: t) = blankLineFrom waits t := by
          rw [blankLineFrom, if_neg (by decide)]
          exact congrArg (blankLineFrom · t) (Bool.and_true waits)
        rw [skipped, ← ih]
        rfl
      · have kept : unspaced (c :: t) = c :: unspaced t := by
          rw [unspaced, List.filter_cons_of_pos (by simpa using space), unspaced]
        rw [kept, blankLineFrom, blankLineFrom, ih, ih]

/-- Whether a text has a blank line is a matter of its lines. -/
theorem ofLines_hasBlankLine : OfLines hasBlankLine where
  single none := blankLineFrom_of_single false none
  framed none none' t := by
    rw [hasBlankLine, List.append_assoc, blankLineFrom_append, blankLineFrom_append,
      waitsAfter_of_single none, blankLineFrom_of_single _ none, blankLineFrom_of_single _ none',
      Bool.false_or, Bool.or_false, hasBlankLine]
  append anchored _ := by
    rw [hasBlankLine, blankLineFrom_append, anchored.waitsAfter_eq, hasBlankLine, hasBlankLine]
  unspaced := blankLineFrom_unspaced false

end BlankLine

/-- A text put between texts without line breaks, up to whitespace at its edges. Anything without
line breaks may stand in place of a text that shows nothing. -/
inductive Rewrapped (s t : Text) : Prop
  | nothing (blank : isBlank s = true) (single : hasLineBreak t = false)
  | around (before inner after : Text) (framed : Frames s inner)
    (single : hasLineBreak before = false) (single' : hasLineBreak after = false)
    (whole : t = before ++ inner ++ after)

section Rewrapped

variable {property : Text → Bool}

private theorem Anchored.single_of_blank (anchored : Anchored t) (blank : isBlank t = true) :
    hasLineBreak t = false := by
  have framed : Frames t [] := ⟨t, [], blank, rfl, by simp⟩
  obtain ⟨-, before, after, single, single', whole⟩ := anchored.of_frames framed
  rw [whole, List.append_nil, hasLineBreak_append, single, single', Bool.or_self]

/-- Trimming an anchored text changes nothing of what its lines tell. -/
theorem OfLines.frames (lines : OfLines property) (anchored : Anchored s) (framed : Frames s t) :
    property t = property s := by
  obtain ⟨-, before, after, single, single', whole⟩ := anchored.of_frames framed
  rw [whole, lines.framed single single']

/-- An anchored text stays anchored when its lines are wrapped anew. -/
theorem Rewrapped.anchored (rewrapped : Rewrapped s t) (anchored : Anchored s) : Anchored t := by
  cases rewrapped with
  | nothing _ single => exact .of_single single
  | around before inner after framed single single' whole =>
      rw [whole]
      exact (anchored.of_frames framed).1.framed single single'

/-- Wrapping an anchored text anew changes nothing of what its lines tell. -/
theorem OfLines.rewrapped (lines : OfLines property) (anchored : Anchored s)
    (rewrapped : Rewrapped s t) : property t = property s := by
  cases rewrapped with
  | nothing blank single => rw [lines.single single, lines.single (anchored.single_of_blank blank)]
  | around before inner after framed single single' whole =>
      rw [whole, lines.framed single single', lines.frames anchored framed]

end Rewrapped

/-- A line and the same line with a mark in front, which may stand in place of whitespace. -/
def Remarked (line marked : Text) : Prop :=
  ∃ mark blank kept, hasLineBreak mark = false ∧ isBlank blank = true ∧ line = blank ++ kept ∧
    marked = mark ++ kept

section Remarked

variable {lines marked : List Text}

/-- Lines with new marks end as firmly as they did. -/
theorem join_remarked_ends (remarked : List.Forall₂ Remarked lines marked)
    (ends : EndsFirm (join ['\n'] lines)) : EndsFirm (join ['\n'] marked) := by
  obtain ⟨before, c, ends, solid⟩ := ends
  induction remarked generalizing before with
  | nil => exact absurd ends.symm (List.append_ne_nil_of_right_ne_nil _ (List.cons_ne_nil _ _))
  | @cons line shown lines marked here below ih =>
      cases below with
      | nil =>
          obtain ⟨mark, blank, kept, -, space, rfl, rfl⟩ := here
          obtain ⟨rest, -, rfl⟩ := blank_prefix_split space solid ends
          exact ⟨mark ++ rest, c, (List.append_assoc _ _ _).symm, solid⟩
      | @cons next shown' others marked' here' below =>
          rw [join_cons_of_ne_nil _ _ (List.cons_ne_nil _ _)] at ends
          rw [join_cons_of_ne_nil _ _ (List.cons_ne_nil _ _)]
          rcases List.eq_nil_or_concat' (join ['\n'] (next :: others)) with
            nothing | ⟨start, d, whole⟩
          · rw [nothing, List.append_nil] at ends
            cases (List.append_inj' ends rfl).2
            cases solid
          · rw [whole, ← List.append_assoc] at ends
            cases (List.append_inj' ends rfl).2
            obtain ⟨before, c, ending, solid⟩ := ih start whole
            exact ⟨_, c, by rw [ending, ← List.append_assoc], solid⟩

/-- Where trimmed lines get marks, no line break moves to an edge. -/
theorem anchored_join_remarked (remarked : List.Forall₂ Remarked lines marked)
    (trimmed : join ['\n'] lines = [] ∨ Firm (join ['\n'] lines)) :
    Anchored (join ['\n'] marked) := by
  have ends := join_remarked_ends remarked
  cases remarked with
  | nil => exact .of_single rfl
  | @cons line shown lines marked here below =>
      obtain ⟨mark, blank, kept, single, space, rfl, rfl⟩ := here
      cases below with
      | nil =>
          rcases trimmed with nothing | firm
          · obtain ⟨rfl, rfl⟩ := List.append_eq_nil_iff.mp nothing
            exact .of_single (by rw [join, List.append_nil, single])
          · have framed : Frames (blank ++ kept) kept := ⟨blank, [], space, rfl, by simp⟩
            have inner := ((Anchored.of_firm firm).of_frames framed).1
            exact (Anchored.of_single single).append inner
      | @cons next shown' others marked' here' below =>
          have firm := trimmed.resolve_left (by simp [join])
          have starts : StartsFirm kept := by
            have line := firm.starts
            rw [join_cons_of_ne_nil _ _ (List.cons_ne_nil _ _), List.append_assoc _ ['\n']] at line
            exact (line.of_append_space rfl).of_blank_append space
          have parts : join ['\n'] ((mark ++ kept) :: shown' :: marked') =
              mark ++ (kept ++ '\n' :: join ['\n'] (shown' :: marked')) := by simp [join]
          have closes := ends firm.ends
          rw [parts] at closes ⊢
          have shown := Anchored.of_firm ⟨starts.append _, closes.of_append (by simp)⟩
          exact (Anchored.of_single single).append shown

end Remarked
end ArticleMarkdown.Text
