import ArticleMarkdown.Proofs.Fragment.Blocks
import ArticleMarkdown.Proofs.Markdown.Enclosure

/-!
# The shape of emphasis

Emphasis stands between two separators, and block separators stay outside its marks: each of the two
is a block separator if the content has one beyond the text that shows on that side. Between them
the marks touch what shows, on one line, and no text is lost (`Emphasis.wrap_shape`).
-/

namespace ArticleMarkdown

namespace Token

/-- A text joins with the text in front of it. -/
theorem join_text (before after : List Token) (s t : Text) :
    join (before ++ [.text s]) (.text t :: after) = before ++ .text (s ++ t) :: after := by
  induction before with
  | nil => rfl
  | cons token rest ih =>
      rw [List.cons_append, List.cons_append, ← ih]
      cases rest <;> simp [join]

/-- A separator joins with nothing. -/
theorem join_separator {separator : Token} (silent : separator.isText = false)
    (left right : List Token) : join left (separator :: right) = left ++ separator :: right := by
  induction left with
  | nil => rfl
  | cons token rest ih =>
      rw [List.cons_append, ← ih]
      cases separator with
      | text => cases silent
      | blockBreak | inlineBreak => cases rest <;> simp [join]

private theorem separator_join {separator : Token} (silent : separator.isText = false)
    (right : List Token) : join [separator] right = separator :: right := by
  cases separator with
  | text => cases silent
  | blockBreak | inlineBreak => simp [join]

/-- Two texts around tokens that start and end with a text. -/
theorem join_around {tokens : List Token} {first last : Text} (opening closing : Text)
    (starts : tokens.head? = some (.text first)) (ends : tokens.getLast? = some (.text last)) :
    let whole := join (join [.text opening] tokens) [.text closing]
    (∃ after, whole.head? = some (.text (opening ++ first ++ after))) ∧
      ∃ before, whole.getLast? = some (.text (before ++ last ++ closing)) := by
  obtain ⟨rest, rfl⟩ := List.head?_eq_some_iff.mp starts
  have opened : join [.text opening] (.text first :: rest) = .text (opening ++ first) :: rest := rfl
  rw [opened]
  rcases List.eq_nil_or_concat' rest with rfl | ⟨middle, token, rfl⟩
  · cases ends
    exact ⟨⟨closing, rfl⟩, ⟨opening, rfl⟩⟩
  · rw [← List.cons_append, List.getLast?_concat] at ends
    cases ends
    have closed := join_text (.text (opening ++ first) :: middle) [] last closing
    rw [← List.cons_append, closed]
    exact ⟨⟨[], by rw [List.append_nil]; rfl⟩, ⟨[], List.getLast?_concat⟩⟩

/-- Tokens that are not all blank, up to the first text that shows something. -/
theorem split_of_not_blank {tokens : List Token} (shown : tokens.all isBlank = false) :
    ∃ t rest, tokens = tokens.takeWhile isBlank ++ .text t :: rest ∧ Text.isBlank t = false := by
  have filled : tokens.dropWhile isBlank ≠ [] := by
    rw [Ne, List.dropWhile_eq_nil_iff, ← List.all_eq_true, shown]
    exact Bool.false_ne_true
  obtain ⟨token, rest, body⟩ := List.exists_cons_of_ne_nil filled
  have solid := List.head?_dropWhile_not isBlank tokens
  rw [body] at solid
  have whole : tokens = tokens.takeWhile isBlank ++ token :: rest := by
    rw [← body, List.takeWhile_append_dropWhile]
  cases token with
  | text t => exact ⟨t, rest, whole, by simpa [isBlank, literal] using solid⟩
  | blockBreak | inlineBreak => cases solid

end Token

namespace Fragment

/-- The tokens stand in front of the first text that shows something. -/
def Leads (f : Fragment) (edge : List Token) : Prop :=
  ∃ t rest, f.tokens = edge ++ .text t :: rest ∧ edge.all Token.isBlank = true ∧
    Text.isBlank t = false

/-- The tokens stand behind the last text that shows something. -/
def Trails (f : Fragment) (edge : List Token) : Prop :=
  ∃ before t, f.tokens = before ++ .text t :: edge ∧ edge.all Token.isBlank = true ∧
    Text.isBlank t = false

variable {f : Fragment}

private theorem leads_of_not_blank (shown : f.isBlank = false) :
    f.Leads (f.tokens.takeWhile Token.isBlank) := by
  obtain ⟨t, rest, whole, solid⟩ := Token.split_of_not_blank shown
  exact ⟨t, rest, whole, Token.takeWhile_blank (fun _ blank => blank) _, solid⟩

private theorem trails_of_not_blank (shown : f.isBlank = false) :
    f.Trails ((f.tokens.dropWhile Token.isBlank).reverse.takeWhile Token.isBlank).reverse := by
  obtain ⟨t, rest, whole, solid⟩ := Token.split_of_not_blank shown
  have parts := List.takeWhile_append_dropWhile (p := Token.isBlank) (l := f.tokens)
  have body : f.tokens.dropWhile Token.isBlank = .text t :: rest :=
    List.append_cancel_left (parts.trans whole)
  have shown' : (f.tokens.dropWhile Token.isBlank).reverse.all Token.isBlank = false := by
    rw [List.all_reverse, body, List.all_cons, Token.isBlank, Token.literal, solid, Bool.false_and]
  obtain ⟨u, before, ending, solid'⟩ := Token.split_of_not_blank shown'
  refine ⟨f.tokens.takeWhile Token.isBlank ++ before.reverse, u, ?_, ?_, solid'⟩
  · have turned := congrArg List.reverse ending
    rw [List.reverse_reverse, List.reverse_append, List.reverse_cons] at turned
    conv_lhs => rw [← parts, turned]
    simp only [List.append_assoc, List.singleton_append]
  · rw [List.all_reverse]
    exact Token.takeWhile_blank (fun _ blank => blank) _

end Fragment

namespace Emphasis

/-- The separator that emphasis shows for the tokens that it leaves outside on one side. -/
def separator (edge : List Token) : Token :=
  if .blockBreak ∈ edge then .blockBreak else .inlineBreak

private theorem isText_separator (edge : List Token) : (separator edge).isText = false := by
  rw [separator]
  split <;> rfl

private theorem tokens_outside (edge : List Token) : (outside edge).tokens = [separator edge] := by
  rw [outside, separator]
  by_cases member : .blockBreak ∈ edge
  · rw [if_pos (List.contains_iff_mem.mpr member), if_pos member]
    rfl
  · rw [if_neg (mt List.contains_iff_mem.mp member), if_neg member]
    rfl

private theorem separator_reverse (edge : List Token) :
    separator edge.reverse = separator edge := by
  simp only [separator, List.mem_reverse]

private theorem isBlank_core (f : Fragment) : (core f).isBlank = f.isBlank := by
  rw [Bool.eq_iff_iff, Fragment.isBlank_iff, Fragment.isBlank_iff, Fragment.ink, Fragment.ink,
    (frames_core f).ink_eq]

/-- What stands between the marks starts with something that shows. -/
theorem core_starts {f : Fragment} (shown : f.isBlank = false) :
    ∃ c rest, (core f).tokens.head? = some (.text (c :: rest)) ∧ Text.isSpace c = false := by
  have opens : Token.Opens (core f).tokens := Token.opens_trimTrailing (Token.opens_trimLeading _)
  have flat := flat_core f
  rw [← isBlank_core, Fragment.isBlank] at shown
  generalize (core f).tokens = tokens at *
  cases tokens with
  | nil => cases shown
  | cons token rest =>
      cases token with
      | blockBreak => exact absurd List.mem_cons_self flat
      | inlineBreak => exact opens.elim
      | text t =>
          cases t with
          | nil => exact opens.elim
          | cons c rest => exact ⟨c, rest, rfl, opens⟩

/-- What stands between the marks ends with something that shows. -/
theorem core_ends {f : Fragment} (shown : f.isBlank = false) :
    ∃ before c, (core f).tokens.getLast? = some (.text (before ++ [c])) ∧
      Text.isSpace c = false := by
  have closes : Token.Closes (core f).tokens := by
    apply Token.closes_trimTrailing
    exact mt (Token.blockBreak_mem_trimLeading _).mp (Fragment.flat_flattened _)
  rw [← isBlank_core, Fragment.isBlank] at shown
  generalize (core f).tokens = tokens at *
  rcases List.eq_nil_or_concat' tokens with rfl | ⟨init, token, rfl⟩
  · cases shown
  · obtain ⟨before, c, rfl, solid⟩ := closes token List.getLast?_concat
    exact ⟨before, c, List.getLast?_concat, solid⟩

private theorem ink_outside (edge : List Token) : (outside edge).ink = [] := by
  rw [Fragment.ink, spread_outside]
  rfl

private theorem ink_marks (kind : Emphasis) :
    Text.ink kind.opening = kind.opening ∧ Text.ink kind.closing = kind.closing := by
  cases kind <;> exact ⟨rfl, rfl⟩

private theorem wrap_of_blank (kind : Emphasis) {f : Fragment} (blank : f.isBlank = true) :
    kind.wrap f = ∅ := by
  rw [wrap_eq, isBlank_core, if_pos blank]

private theorem ink_wrap_of_not_blank (kind : Emphasis) {f : Fragment} (shown : f.isBlank = false) :
    Text.ink (kind.wrap f).plainText = kind.opening ++ Text.ink f.plainText ++ kind.closing := by
  have inner := isBlank_core f
  rw [shown] at inner
  rw [wrap_eq, inner, if_neg Bool.false_ne_true]
  simp only [Fragment.ink_plainText, Fragment.ink_append, Fragment.ink_ofText, kind.ink_marks,
    ink_outside, List.nil_append, List.append_nil]
  rw [Fragment.ink, Fragment.ink, (frames_core f).ink_eq]

private theorem tokens_wrap (kind : Emphasis) {f : Fragment} (shown : f.isBlank = false) :
    (kind.wrap f).tokens =
      separator (f.tokens.takeWhile Token.isBlank) ::
        (Fragment.ofText kind.opening ++ core f ++ Fragment.ofText kind.closing).tokens ++
        [separator
          ((f.tokens.dropWhile Token.isBlank).reverse.takeWhile Token.isBlank).reverse] := by
  have inner := isBlank_core f
  rw [shown] at inner
  rw [wrap_eq, inner, if_neg Bool.false_ne_true]
  simp only [Fragment.tokens_append, tokens_outside]
  rw [Token.join_separator (isText_separator _), Token.separator_join (isText_separator _),
    separator_reverse]

/-- Emphasis of content that shows nothing is empty. Other content is put between two separators,
each of them a block separator if the content has one on that side of the text that shows. Between
the separators there is no block separator, the marks touch what shows, and the ink is that of the
content between the marks. -/
theorem wrap_shape (kind : Emphasis) (content : Fragment) :
    (kind.wrap content = ∅ ↔ content.isBlank = true) ∧
      (content.isBlank = false → ∃ leading trailing between,
        content.Leads leading ∧ content.Trails trailing ∧
        (kind.wrap content).tokens = separator leading :: between ++ [separator trailing] ∧
        .blockBreak ∉ between ∧
        (∃ c rest, between.head? = some (.text (kind.opening ++ c :: rest)) ∧
          Text.isSpace c = false) ∧
        (∃ before c, between.getLast? = some (.text (before ++ c :: kind.closing)) ∧
          Text.isSpace c = false) ∧
        Text.ink (kind.wrap content).plainText =
          kind.opening ++ Text.ink content.plainText ++ kind.closing) := by
  refine ⟨⟨fun nothing => ?_, kind.wrap_of_blank⟩, fun shown => ?_⟩
  · by_contra shown
    rw [Bool.not_eq_true] at shown
    have tokens := kind.tokens_wrap shown
    rw [nothing] at tokens
    cases tokens
  · obtain ⟨c, rest, starts, solid⟩ := core_starts shown
    obtain ⟨before, d, ends, solid'⟩ := core_ends shown
    obtain ⟨⟨after, opened⟩, ⟨front, closed⟩⟩ :=
      Token.join_around kind.opening kind.closing starts ends
    have between : (Fragment.ofText kind.opening ++ core content ++
        Fragment.ofText kind.closing).tokens =
          Token.join (Token.join [.text kind.opening] (core content).tokens)
            [.text kind.closing] := by
      rw [Fragment.tokens_append, Fragment.tokens_append,
        Fragment.tokens_ofText kind.firm_opening.ne_nil,
        Fragment.tokens_ofText kind.firm_closing.ne_nil]
    refine ⟨_, _, _, Fragment.leads_of_not_blank shown, Fragment.trails_of_not_blank shown,
      kind.tokens_wrap shown, ?_, ?_, ?_, kind.ink_wrap_of_not_blank shown⟩
    · refine Token.blockBreak_notMem_join (Token.blockBreak_notMem_join ?_ (flat_core content)) ?_
      · exact Fragment.blockBreak_notMem_ofText _
      · exact Fragment.blockBreak_notMem_ofText _
    · rw [between]
      exact ⟨c, rest ++ after, by rw [opened]; simp, solid⟩
    · rw [between]
      exact ⟨front ++ before, d, by rw [closed]; simp, solid'⟩

/-- A note with block separators around it and within it, among other separators and whitespace. -/
def scatteredNote : Fragment :=
  ⟨[.text " \n".toList, .blockBreak, .inlineBreak, .text " Note:".toList, .blockBreak,
    .text "read ".toList, .inlineBreak, .text "\t".toList]⟩

/-- A note between scattered breaks keeps a separator on each side of its marks. -/
theorem wrap_shape_scatteredNote :
    scatteredNote.isBlank = false ∧ ∃ leading trailing between,
      scatteredNote.Leads leading ∧ scatteredNote.Trails trailing ∧
        (italic.wrap scatteredNote).tokens =
          separator leading :: between ++ [separator trailing] ∧
        .blockBreak ∉ between ∧
        Text.ink (italic.wrap scatteredNote).plainText = "*Note:read*".toList := by
  have shown : scatteredNote.isBlank = false := by decide
  obtain ⟨leading, trailing, between, leads, trails, tokens, flat, -, -, ink⟩ :=
    (wrap_shape italic scatteredNote).2 shown
  exact ⟨shown, leading, trailing, between, leads, trails, tokens, flat, ink⟩

example : (italic.wrap scatteredNote).tokens =
    [.blockBreak, .text "*Note:".toList, .inlineBreak, .text "read*".toList, .inlineBreak] := by
  decide +kernel

end Emphasis
end ArticleMarkdown
