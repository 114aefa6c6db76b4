import ArticleMarkdown.Proofs.Fragment.Merged

/-!
# Settled fragments

A merged fragment is settled when it holds no block separator either. Resolving settles every
fragment and leaves a settled one as it is, apart from its edges (`Token.resolveFrom_settled`,
`Token.resolveFrom_of_settled`). Trimming settled tokens keeps them settled, and trimming twice is
trimming once.

Fragments are made by operations on a shelf of numbered fragments, all of them empty at first. After
any sequence of operations every fragment is merged, and one that was just trimmed or resolved has
neither an inline separator nor whitespace at its edges (`Fragment.Shelf.run_merged_and_trimmed`).
-/

namespace ArticleMarkdown

namespace Token

/-- Texts are merged, and there is no block separator. -/
structure Settled (tokens : List Token) : Prop where
  apart : tokens.IsChain Apart
  filled : .text [] ∉ tokens
  unbroken : .blockBreak ∉ tokens

variable {token : Token} {tokens rest : List Token} {s t : Text}

private theorem Settled.merged (settled : Settled tokens) : Merged tokens :=
  ⟨settled.apart, settled.filled⟩

private theorem Merged.settled (merged : Merged tokens) (unbroken : .blockBreak ∉ tokens) :
    Settled tokens :=
  ⟨merged.apart, merged.filled, unbroken⟩

namespace Settled

/-- No tokens. -/
theorem nil : Settled [] :=
  Merged.nil.settled List.not_mem_nil

/-- A part of settled tokens is settled. -/
theorem of_infix (settled : Settled tokens) (part : rest <:+: tokens) : Settled rest :=
  (settled.merged.of_infix part).settled fun member => settled.unbroken (part.subset member)

/-- The tail of settled tokens is settled. -/
theorem tail (settled : Settled (token :: rest)) : Settled rest :=
  settled.of_infix (List.suffix_cons token rest).isInfix

private theorem reverse (settled : Settled tokens) : Settled tokens.reverse :=
  settled.merged.reverse.settled fun member => settled.unbroken (List.mem_reverse.mp member)

/-- An inline separator may stand in front. -/
theorem inlineBreak_cons (settled : Settled tokens) : Settled (.inlineBreak :: tokens) :=
  (settled.merged.separator_cons rfl).settled fun member =>
    (List.mem_cons.mp member).elim nofun settled.unbroken

/-- A text among settled tokens is not empty. -/
theorem text_filled (settled : Settled (.text t :: rest)) : t ≠ [] :=
  settled.merged.text_filled

/-- What stands next to a text is no text. -/
theorem text_cons (settled : Settled rest) (filled : t ≠ [])
    (next : ∀ token ∈ rest.head?, token.isText = false) : Settled (.text t :: rest) :=
  (settled.merged.text_cons filled next).settled fun member =>
    (List.mem_cons.mp member).elim nofun settled.unbroken

private theorem text_single (filled : t ≠ []) : Settled [.text t] := by
  refine nil.text_cons filled ?_
  intro token member
  cases member

/-- A text may be replaced by another one. -/
theorem replace (settled : Settled (.text s :: rest)) (filled : t ≠ []) :
    Settled (.text t :: rest) :=
  settled.tail.text_cons filled settled.merged.next_of_text

end Settled

variable {held tokens : List Token} {t : Text}

/-- Writing a text keeps tokens settled. -/
theorem settled_writeText (settled : Settled held) (filled : t ≠ []) :
    Settled (writeText t held) := by
  cases held with
  | nil => exact .text_single filled
  | cons token before =>
      cases token with
      | text s => exact settled.replace (List.append_ne_nil_of_right_ne_nil s filled)
      | blockBreak => exact absurd List.mem_cons_self settled.unbroken
      | inlineBreak =>
          refine settled.text_cons filled ?_
          rintro token ⟨⟩
          rfl

/-- Cutting spacing keeps tokens settled. -/
theorem settled_cutSpacing (settled : Settled held) : Settled (cutSpacing held) := by
  fun_induction cutSpacing held with
  | case1 t before nothing ih => exact ih settled.tail
  | case2 t before something => exact settled.replace something
  | case3 before ih => exact ih settled.tail
  | case4 held _ _ => exact settled

/-- Whatever is resolved after settled tokens, the result is settled. -/
theorem resolveFrom_settled (pending : Bool) (settled : Settled held) :
    Settled (resolveFrom pending held tokens) := by
  fun_induction resolveFrom pending held tokens with
  | case1 pending held => exact settled.reverse
  | case2 pending held rest ih =>
      exact ih (settled.of_infix (List.dropWhile_suffix _).isInfix)
  | case3 pending held rest ih =>
      refine ih ?_
      split
      · exact settled
      · exact settled.inlineBreak_cons
  | case4 pending held t rest nothing ih => exact ih settled
  | case5 held t rest _ kept nothing ih => exact ih (settled_cutSpacing settled)
  | case6 held t rest _ kept opened something ih =>
      have cut := settled_cutSpacing settled
      refine ih (settled_writeText ?_ something)
      simp only [opened]
      split
      · exact cut
      · exact settled_writeText cut (List.cons_ne_nil _ _)
  | case7 pending held t rest filled _ ih =>
      exact ih (settled_writeText settled (mt List.isEmpty_iff.mpr filled))

/-- In settled tokens nothing is left to resolve. -/
theorem resolveFrom_of_settled (settled : Settled (held.reverse ++ tokens)) :
    resolveFrom false held tokens = held.reverse ++ tokens := by
  induction tokens generalizing held with
  | nil => rw [resolveFrom, List.append_nil]
  | cons token rest ih =>
      have below : Settled ((token :: held).reverse ++ rest) := by
        rwa [List.reverse_cons, List.append_assoc]
      have shift : (token :: held).reverse ++ rest = held.reverse ++ token :: rest := by
        rw [List.reverse_cons, List.append_assoc]
        rfl
      have member : token ∈ held.reverse ++ token :: rest := by simp
      cases token with
      | blockBreak => exact absurd member settled.unbroken
      | inlineBreak =>
          rw [resolveFrom, if_neg Bool.false_ne_true, ih below, shift]
      | text t =>
          have filled : ¬ t.isEmpty = true := by
            intro nothing
            apply settled.filled
            rw [List.isEmpty_iff.mp nothing] at member ⊢
            exact member
          have written : writeText t held = .text t :: held := by
            cases held with
            | nil => rfl
            | cons last before =>
                have apart : Apart last (.text t) := by
                  have seam := (List.isChain_append.mp settled.apart).2.2
                  exact seam last (by simp) (.text t) rfl
                cases last with
                | text s => exact absurd apart (by simp [Apart, isText])
                | blockBreak => rfl
                | inlineBreak => rfl
          rw [resolveFrom, if_neg filled, if_neg Bool.false_ne_true, written, ih below, shift]

/-- The first token is neither an inline separator nor a text that starts with whitespace. -/
def Opens (tokens : List Token) : Prop :=
  match tokens with
  | .inlineBreak :: _ | .text [] :: _ => False
  | .text (c :: _) :: _ => Text.isSpace c = false
  | .blockBreak :: _ | [] => True

/-- Tokens that are trimmed at their start open with something. -/
theorem opens_trimLeading (tokens : List Token) : Opens (trimLeading tokens) := by
  fun_induction trimLeading tokens with
  | case1 rest ih => exact ih
  | case2 t rest nothing ih => exact ih
  | case3 t rest something =>
      rcases Text.trimStart_cases t with blank | ⟨c, after, starts, solid⟩
      · exact absurd blank something
      · rw [starts]
        exact solid
  | case4 tokens noInline noText =>
      cases tokens with
      | nil => trivial
      | cons token rest =>
          cases token with
          | blockBreak => trivial
          | inlineBreak => exact absurd rfl (noInline rest)
          | text t => exact absurd rfl (noText t rest)

private theorem trimLeading_of_opens (opens : Opens tokens) : trimLeading tokens = tokens := by
  cases tokens with
  | nil => rfl
  | cons token rest =>
      cases token with
      | blockBreak => rfl
      | inlineBreak => exact opens.elim
      | text t =>
          cases t with
          | nil => exact opens.elim
          | cons c after =>
              have kept : Text.trimStart (c :: after) = c :: after :=
                Text.trimStart_append_cons opens [] after
              rw [trimLeading, kept]

private theorem trimTrailing_singleton {t : Text} (something : Text.trimEnd t ≠ []) :
    trimTrailing [.text t] = [.text (Text.trimEnd t)] := by
  simp only [trimTrailing]

/-- Trimming the end stops at the last token that stays. -/
theorem trimTrailing_cons {token : Token} {rest : List Token} (something : trimTrailing rest ≠ []) :
    trimTrailing (token :: rest) = token :: trimTrailing rest := by
  simp only [trimTrailing]

/-- Trimming the end of tokens leaves their first token, if it has something to show. -/
theorem opens_trimTrailing (opens : Opens tokens) : Opens (trimTrailing tokens) := by
  fun_cases trimTrailing tokens with
  | case1 => trivial
  | case2 => trivial
  | case3 => trivial
  | case4 => trivial
  | case5 rest trimmed t something =>
      cases t with
      | nil => exact opens.elim
      | cons c after =>
          have kept : Text.trimEnd (c :: after) = c :: Text.trimEnd after :=
            Text.trimEnd_append_cons opens [] after
          rw [kept]
          exact opens
  | case6 token rest something =>
      cases token with
      | inlineBreak => exact opens.elim
      | blockBreak => trivial
      | text t =>
          cases t with
          | nil => exact opens.elim
          | cons c after => exact opens

private theorem trimTrailing_trimTrailing (tokens : List Token) :
    trimTrailing (trimTrailing tokens) = trimTrailing tokens := by
  fun_induction trimTrailing tokens with
  | case1 => rfl
  | case2 => rfl
  | case3 => rfl
  | case4 => rfl
  | case5 rest trimmed t something ih =>
      have again := Text.trimEnd_trimEnd t
      rw [← again] at something
      rw [trimTrailing_singleton something, again]
  | case6 token rest something ih =>
      rw [← ih] at something
      rw [trimTrailing_cons something, ih]

/-- Trimming the start keeps block separators, if there are any. -/
theorem blockBreak_mem_trimLeading (tokens : List Token) :
    .blockBreak ∈ trimLeading tokens ↔ .blockBreak ∈ tokens := by
  fun_induction trimLeading tokens with
  | case1 rest ih => simp [ih]
  | case2 t rest nothing ih => simp [ih]
  | case3 t rest something => simp
  | case4 tokens _ _ => rfl

/-- Trimming the end keeps block separators, if there are any. -/
theorem blockBreak_mem_trimTrailing (tokens : List Token) :
    .blockBreak ∈ trimTrailing tokens ↔ .blockBreak ∈ tokens := by
  fun_induction trimTrailing tokens with
  | case1 => rfl
  | case2 rest trimmed ih =>
      rw [trimmed] at ih
      simp [← ih]
  | case3 => simp
  | case4 rest trimmed t nothing ih =>
      rw [trimmed] at ih
      simp [← ih]
  | case5 rest trimmed t something ih =>
      rw [trimmed] at ih
      simp [← ih]
  | case6 token rest something ih => rw [List.mem_cons, List.mem_cons, ih]

/-- Trimming the start keeps tokens settled. -/
theorem settled_trimLeading (settled : Settled tokens) : Settled (trimLeading tokens) :=
  (merged_trimLeading settled.merged).settled
    (mt (blockBreak_mem_trimLeading tokens).mp settled.unbroken)

private theorem settled_trimTrailing (settled : Settled tokens) : Settled (trimTrailing tokens) :=
  (merged_trimTrailing settled.merged).settled
    (mt (blockBreak_mem_trimTrailing tokens).mp settled.unbroken)

end Token

namespace Fragment

private theorem trim_trim (f : Fragment) : f.trim.trim = f.trim := by
  have opens := Token.opens_trimTrailing (Token.opens_trimLeading f.tokens)
  simp only [trim, Token.trimLeading_of_opens opens, Token.trimTrailing_trimTrailing]

/-- A resolved fragment is settled. -/
theorem settled_resolve (f : Fragment) : Token.Settled f.resolve.tokens :=
  Token.settled_trimTrailing (Token.settled_trimLeading (Token.resolveFrom_settled false .nil))

/-- Resolving again changes nothing. -/
theorem resolve_resolve (f : Fragment) : f.resolve.resolve = f.resolve := by
  have settled : Token.Settled ([].reverse ++ f.resolve.tokens) := f.settled_resolve
  have again : Token.resolveFrom false [] f.resolve.tokens = f.resolve.tokens :=
    Token.resolveFrom_of_settled settled
  have trimmed : f.resolve.trim = f.resolve := trim_trim _
  rw [resolve, again]
  exact trimmed

end Fragment

namespace Token

/-- The last token is neither an inline separator nor a text that ends in whitespace. -/
theorem getLast?_trimTrailing (tokens : List Token) :
    ∀ token ∈ (trimTrailing tokens).getLast?,
      token ≠ .inlineBreak ∧ ∀ c ∈ token.literal.getLast?, Text.isSpace c = false := by
  fun_induction trimTrailing tokens with
  | case1 => exact fun token none => absurd none (Option.not_mem_none token)
  | case2 => exact fun token none => absurd none (Option.not_mem_none token)
  | case3 =>
      rintro token ⟨⟩
      exact ⟨Token.noConfusion, fun c none => absurd none (Option.not_mem_none c)⟩
  | case4 => exact fun token none => absurd none (Option.not_mem_none token)
  | case5 rest trimmed t something ih =>
      rintro token ⟨⟩
      exact ⟨Token.noConfusion, fun c last => Text.getLast?_dropEndWhile last⟩
  | case6 token rest something ih =>
      rw [List.getLast?_cons_of_ne_nil something]
      exact ih

end Token

namespace Fragment

/-- Neither an inline separator nor a text with whitespace at that edge stands first or last. -/
structure Trimmed (f : Fragment) : Prop where
  first : ∀ token ∈ f.tokens.head?,
    token ≠ .inlineBreak ∧ ∀ c ∈ token.literal.head?, Text.isSpace c = false
  last : ∀ token ∈ f.tokens.getLast?,
    token ≠ .inlineBreak ∧ ∀ c ∈ token.literal.getLast?, Text.isSpace c = false

private theorem trimmed_trim (f : Fragment) : f.trim.Trimmed where
  first := by
    have opens : Token.Opens f.trim.tokens :=
      Token.opens_trimTrailing (Token.opens_trimLeading f.tokens)
    intro token member
    obtain ⟨rest, starts⟩ := List.head?_eq_some_iff.mp member
    rw [starts] at opens
    cases token with
    | blockBreak => exact ⟨nofun, nofun⟩
    | inlineBreak => exact opens.elim
    | text t =>
        cases t with
        | nil => exact opens.elim
        | cons c more =>
            refine ⟨nofun, ?_⟩
            rintro d ⟨⟩
            exact opens
  last := Token.getLast?_trimTrailing _

private theorem trimmed_resolve (f : Fragment) : f.resolve.Trimmed :=
  trimmed_trim _

/-- What can be done with a fragment. -/
inductive Operation where
  /-- Starts again without tokens. -/
  | clear
  /-- Starts again with literal text, alone or between separators. -/
  | ofText (t : Text)
  | inlineText (t : Text)
  | blockText (t : Text)
  | addText (t : Text)
  | addBlockBreak
  | addInlineBreak
  /-- Adds a fragment of the shelf, as it is by then. -/
  | append (number : Nat)
  | trim
  | resolve
  | markLines (mark : Nat → Text → Text)

/-- Numbered fragments. -/
abbrev Shelf := Nat → Fragment

namespace Shelf

/-- A shelf of empty fragments. -/
def empty : Shelf := fun _ => ∅

/-- What an operation makes of a fragment. -/
def apply (shelf : Shelf) (f : Fragment) : Operation → Fragment
  | .clear => ∅
  | .ofText t => Fragment.ofText t
  | .inlineText t => Fragment.inlineText t
  | .blockText t => Fragment.blockText t
  | .addText t => f ++ Fragment.ofText t
  | .addBlockBreak => f ++ blockBreak
  | .addInlineBreak => f ++ inlineBreak
  | .append number => f ++ shelf number
  | .trim => f.trim
  | .resolve => f.resolve
  | .markLines mark => f.markLines mark

/-- The shelf after an operation on the fragment with a number. -/
def step (shelf : Shelf) (target : Nat × Operation) : Shelf :=
  Function.update shelf target.1 (shelf.apply (shelf target.1) target.2)

/-- The shelf after operations one after another. -/
def run (shelf : Shelf) (targets : List (Nat × Operation)) : Shelf :=
  targets.foldl step shelf

variable {shelf : Shelf}

private theorem merged_apply (merged : ∀ number, (shelf number).Merged) {f : Fragment}
    (here : f.Merged)
    (operation : Operation) : (shelf.apply f operation).Merged := by
  cases operation with
  | clear => exact merged_empty
  | ofText t => exact merged_ofText t
  | inlineText t => exact (merged_ofText t).inlined
  | blockText t => exact (merged_ofText t).blocked
  | addText t => exact here.append (merged_ofText t)
  | addBlockBreak => exact here.append merged_blockBreak
  | addInlineBreak => exact here.append merged_inlineBreak
  | append number => exact here.append (merged number)
  | trim => exact here.trim
  | resolve => exact f.settled_resolve.merged
  | markLines mark => exact here.markLines mark

private theorem merged_step (merged : ∀ number, (shelf number).Merged) (target : Nat × Operation) :
    ∀ number, (shelf.step target number).Merged := by
  intro number
  by_cases same : number = target.1
  · rw [step, same, Function.update_self]
    exact merged_apply merged (merged target.1) target.2
  · rw [step, Function.update_of_ne same]
    exact merged number

private theorem merged_run (merged : ∀ number, (shelf number).Merged)
    (targets : List (Nat × Operation)) :
    ∀ number, (shelf.run targets number).Merged := by
  induction targets generalizing shelf with
  | nil => exact merged
  | cons target rest ih => exact ih (merged_step merged target)

private theorem run_concat (shelf : Shelf) (targets : List (Nat × Operation)) (number : Nat)
    (operation : Operation) :
    shelf.run (targets ++ [(number, operation)]) number =
      (shelf.run targets).apply (shelf.run targets number) operation := by
  rw [run, List.foldl_append]
  exact Function.update_self _ _ _

/-- Whatever is done, all fragments are merged, and a fragment is trimmed right after it is trimmed
or resolved. -/
theorem run_merged_and_trimmed (targets : List (Nat × Operation)) (number : Nat) :
    (empty.run targets number).Merged ∧
      (empty.run (targets ++ [(number, .trim)]) number).Trimmed ∧
      (empty.run (targets ++ [(number, .resolve)]) number).Trimmed := by
  refine ⟨merged_run (fun _ => merged_empty) targets number, ?_, ?_⟩
  · rw [run_concat]
    exact trimmed_trim _
  · rw [run_concat]
    exact trimmed_resolve _

end Shelf
end Fragment
end ArticleMarkdown
