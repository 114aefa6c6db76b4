import ArticleMarkdown.Proofs.Fragment.Spread
import ArticleMarkdown.Proofs.Text.Split
import Mathlib.Data.List.Chain

/-!
# Merged fragments

A fragment is merged when no text of it is empty and no two texts stand side by side. Joining,
trimming and marking lines keep fragments merged (`Fragment.Merged.append`, `Fragment.Merged.trim`,
`Fragment.Merged.markLines`).
-/

namespace ArticleMarkdown

namespace Token

/-- Whether a token is a text. -/
def isText : Token → Bool
  | .text _ => true
  | .blockBreak | .inlineBreak => false

/-- Not both tokens are texts. -/
def Apart (a b : Token) : Prop :=
  a.isText = false ∨ b.isText = false

/-- Texts are merged: no two of them are neighbours, and none is empty. -/
structure Merged (tokens : List Token) : Prop where
  apart : tokens.IsChain Apart
  filled : .text [] ∉ tokens

namespace Merged

variable {token : Token} {tokens rest left right : List Token} {s t : Text}

/-- No tokens. -/
theorem nil : Merged [] :=
  ⟨.nil, List.not_mem_nil⟩

/-- A part of merged tokens is merged. -/
theorem of_infix (merged : Merged tokens) (part : rest <:+: tokens) : Merged rest where
  apart := merged.apart.infix part
  filled member := merged.filled (part.subset member)

private theorem tail (merged : Merged (token :: rest)) : Merged rest :=
  merged.of_infix (List.suffix_cons token rest).isInfix

/-- Merged tokens are merged in reverse. -/
theorem reverse (merged : Merged tokens) : Merged tokens.reverse where
  apart := by
    rw [List.isChain_reverse]
    exact merged.apart.imp fun a b apart => apart.symm
  filled member := merged.filled (List.mem_reverse.mp member)

/-- A separator may stand in front. -/
theorem separator_cons (merged : Merged tokens) (separates : token.isText = false) :
    Merged (token :: tokens) where
  apart := List.isChain_cons.mpr ⟨fun _ _ => .inl separates, merged.apart⟩
  filled member := by
    rcases List.mem_cons.mp member with same | later
    · rw [← same] at separates
      cases separates
    · exact merged.filled later

/-- A text among merged tokens is not empty. -/
theorem text_filled (merged : Merged (.text t :: rest)) : t ≠ [] := by
  intro nothing
  apply merged.filled
  rw [nothing]
  exact List.mem_cons_self

/-- What stands next to a text is no text. -/
theorem text_cons (merged : Merged rest) (filled : t ≠ [])
    (next : ∀ token ∈ rest.head?, token.isText = false) : Merged (.text t :: rest) where
  apart := List.isChain_cons.mpr ⟨fun token member => .inr (next token member), merged.apart⟩
  filled member := by
    rcases List.mem_cons.mp member with same | later
    · exact filled (Token.text.inj same).symm
    · exact merged.filled later

private theorem text_single (filled : t ≠ []) : Merged [.text t] := by
  refine nil.text_cons filled ?_
  intro token member
  cases member

/-- A separator follows a text. -/
theorem next_of_text (merged : Merged (.text t :: rest)) :
    ∀ token ∈ rest.head?, token.isText = false := by
  intro token member
  have apart := (List.isChain_cons.mp merged.apart).1 token member
  exact apart.resolve_left nofun

/-- A text may be replaced by another one. -/
theorem replace (merged : Merged (.text s :: rest)) (filled : t ≠ []) :
    Merged (.text t :: rest) :=
  merged.tail.text_cons filled merged.next_of_text

end Merged

variable {tokens left right : List Token} {t : Text}

/-- A token before tokens that are replaced by others of the same start stays merged with them. -/
theorem Merged.cons_of_head {token : Token} {rest others : List Token}
    (merged : Merged (token :: rest)) (below : Merged others)
    (starts : ∀ first ∈ others.head?, ∃ original ∈ rest.head?, first.isText = original.isText) :
    Merged (token :: others) := by
  cases token with
  | blockBreak => exact below.separator_cons rfl
  | inlineBreak => exact below.separator_cons rfl
  | text t =>
      refine below.text_cons merged.text_filled fun first member => ?_
      obtain ⟨original, stood, same⟩ := starts first member
      rw [same]
      exact merged.next_of_text original stood

/-! ## Joining -/

/-- Joined tokens start as the first ones do, if there are any. -/
theorem head?_join {token : Token} (first : token ∈ (join left right).head?) (filled : left ≠ []) :
    ∃ original ∈ left.head?, token.isText = original.isText := by
  fun_induction join left right with
  | case1 => exact absurd rfl filled
  | case2 =>
      cases first
      exact ⟨_, rfl, rfl⟩
  | case3 =>
      cases first
      exact ⟨_, rfl, rfl⟩

private theorem merged_join (merged : Merged left) (merged' : Merged right) :
    Merged (join left right) := by
  fun_induction join left right with
  | case1 right => exact merged'
  | case2 s t right =>
    exact merged'.replace (List.append_ne_nil_of_left_ne_nil merged.text_filled t)
  | case3 token left right noText ih =>
      have below := ih merged.tail merged'
      cases left with
      | cons next more =>
          exact merged.cons_of_head below fun first member =>
            head?_join member (List.cons_ne_nil next more)
      | nil =>
          -- What follows the last token is what was joined to it, and not both are texts.
          cases token with
          | blockBreak => exact below.separator_cons rfl
          | inlineBreak => exact below.separator_cons rfl
          | text s =>
              refine below.text_cons merged.text_filled fun first member => ?_
              cases right with
              | nil => cases member
              | cons other rest =>
                  cases member
                  cases first with
                  | text t => exact absurd rfl (noText s t rest rfl rfl)
                  | blockBreak => rfl
                  | inlineBreak => rfl

/-! ## Trimming -/

/-- Trimming at the start takes tokens away and shortens a text. -/
theorem merged_trimLeading (merged : Merged tokens) : Merged (trimLeading tokens) := by
  fun_induction trimLeading tokens with
  | case1 rest ih => exact ih merged.tail
  | case2 t rest nothing ih => exact ih merged.tail
  | case3 t rest something => exact merged.replace something
  | case4 tokens _ _ => exact merged

/-- What stands first after trimming is a text only where a text stood first. -/
theorem head?_trimTrailing {token : Token} (first : token ∈ (trimTrailing tokens).head?) :
    ∃ original ∈ tokens.head?, token.isText = original.isText := by
  fun_induction trimTrailing tokens with
  | case1 => cases first
  | case2 => cases first
  | case3 =>
      cases first
      exact ⟨_, rfl, rfl⟩
  | case4 => cases first
  | case5 =>
      cases first
      exact ⟨_, rfl, rfl⟩
  | case6 original rest something _ =>
      cases first
      exact ⟨_, rfl, rfl⟩

/-- Trimming the end keeps tokens merged. -/
theorem merged_trimTrailing (merged : Merged tokens) : Merged (trimTrailing tokens) := by
  fun_induction trimTrailing tokens with
  | case1 => exact .nil
  | case2 => exact .nil
  | case3 => exact Merged.nil.separator_cons rfl
  | case4 => exact .nil
  | case5 rest trimmed t something ih => exact .text_single something
  | case6 token rest something ih =>
      exact merged.cons_of_head (ih merged.tail) fun _ first => head?_trimTrailing first

/-! ## Lines -/

private theorem merged_ofText? (t : Text) : Merged (ofText? t) := by
  rw [ofText?]
  split
  · exact .nil
  · next filled => exact .text_single (mt List.isEmpty_iff.mpr filled)

/-- Text in front of tokens that start with no text. -/
theorem merged_ofText?_append (merged : Merged tokens)
    (next : ∀ token ∈ tokens.head?, token.isText = false) (t : Text) :
    Merged (ofText? t ++ tokens) := by
  rw [ofText?]
  split
  · exact merged
  · next filled => exact merged.text_cons (mt List.isEmpty_iff.mpr filled) next

private theorem isText_of_mem_ofText? {token : Token} (member : token ∈ ofText? t) :
    token.isText = true := by
  rw [ofText?] at member
  split at member
  · cases member
  · cases List.mem_singleton.mp member
    rfl

/-- The first line starts with a text only where the tokens do. -/
theorem head?_lines {token : Token} (first : token ∈ (lines tokens).1.head?)
    (filled : .text [] ∉ tokens) : ∃ original ∈ tokens.head?, token.isText = original.isText := by
  fun_induction lines tokens with
  | case1 => cases first
  | case2 t rest _ _ _ nothing _ => exact absurd nothing (Text.splitBy_ne_nil _ t)
  | case3 t rest _ _ _ piece pieces split single _ =>
      -- The only piece of a text is the text, so it is not empty.
      have whole := Text.join_splitOn '\n' t
      rw [split, List.reverse_eq_nil_iff.mp single] at whole
      have kept : piece ≠ [] := by
        rintro rfl
        exact filled (whole ▸ List.mem_cons_self)
      rw [ofText?, if_neg (mt List.isEmpty_iff.mp kept)] at first
      cases first
      exact ⟨.text t, rfl, rfl⟩
  | case4 t rest _ _ _ piece _ _ _ _ _ _ =>
      exact ⟨.text t, rfl, isText_of_mem_ofText? (List.mem_of_mem_head? first)⟩
  | case5 separator rest _ _ _ _ _ =>
      cases first
      exact ⟨token, rfl, rfl⟩

private theorem merged_lines (merged : Merged tokens) :
    Merged (lines tokens).1 ∧ ∀ line ∈ (lines tokens).2, Merged line := by
  -- Behind a text, the line goes on with what follows the text, which is no text.
  have next : ∀ {t : Text} {rest first : List Token} {others : List (List Token)},
      Merged (.text t :: rest) → lines rest = (first, others) →
      ∀ token ∈ first.head?, token.isText = false := by
    intro t rest first others merged below token member
    have starts : token ∈ (lines rest).1.head? := by rwa [below]
    obtain ⟨original, stood, same⟩ := head?_lines starts merged.tail.filled
    rw [same]
    exact merged.next_of_text original stood
  fun_induction lines tokens with
  | case1 => exact ⟨.nil, List.forall_mem_nil _⟩
  | case2 t rest _ _ _ nothing _ => exact absurd nothing (Text.splitBy_ne_nil _ t)
  | case3 t rest first others below piece _ _ _ ih =>
      rw [below] at ih
      exact ⟨merged_ofText?_append (ih merged.tail).1 (next merged below) piece, (ih merged.tail).2⟩
  | case4 t rest first others below piece _ _ last middle _ ih =>
      rw [below] at ih
      refine ⟨merged_ofText? piece, fun line member => ?_⟩
      rcases List.mem_append.mp member with inside | ends
      · obtain ⟨text, -, rfl⟩ := List.mem_map.mp inside
        exact merged_ofText? text
      · rcases List.mem_cons.mp ends with rfl | later
        · exact merged_ofText?_append (ih merged.tail).1 (next merged below) last
        · exact (ih merged.tail).2 line later
  | case5 separator rest isSeparator first others below ih =>
      rw [below] at ih
      refine ⟨?_, (ih merged.tail).2⟩
      refine merged.cons_of_head (ih merged.tail).1 fun token member => ?_
      exact head?_lines (by rwa [below]) merged.tail.filled

end Token

namespace Fragment

variable {f g : Fragment}

/-- No text of the fragment is empty, and no two of its texts stand side by side. -/
def Merged (f : Fragment) : Prop :=
  Token.Merged f.tokens

/-- An empty fragment is merged. -/
theorem merged_empty : (∅ : Fragment).Merged :=
  .nil

/-- A block separator is merged. -/
theorem merged_blockBreak : blockBreak.Merged :=
  Token.Merged.nil.separator_cons rfl

/-- An inline separator is merged. -/
theorem merged_inlineBreak : inlineBreak.Merged :=
  Token.Merged.nil.separator_cons rfl

/-- A text is merged. -/
theorem merged_ofText (t : Text) : (ofText t).Merged := by
  rw [ofText]
  split
  · exact merged_empty
  · next filled => exact .text_single (mt List.isEmpty_iff.mpr filled)

/-- Joining merges the texts that meet. -/
theorem Merged.append (merged : f.Merged) (merged' : g.Merged) : (f ++ g).Merged :=
  Token.merged_join merged merged'

/-- Separators around merged content. -/
theorem Merged.inlined (merged : f.Merged) : f.inlined.Merged :=
  (merged_inlineBreak.append merged).append merged_inlineBreak

/-- Block separators around merged content. -/
theorem Merged.blocked (merged : f.Merged) : f.blocked.Merged :=
  (merged_blockBreak.append merged).append merged_blockBreak

/-- Trimming keeps a fragment merged. -/
theorem Merged.trim (merged : f.Merged) : f.trim.Merged :=
  Token.merged_trimTrailing (Token.merged_trimLeading merged)

private theorem Merged.marked (merged : f.Merged) (mark : Text) : (marked mark f).Merged := by
  rw [Fragment.marked]
  split
  · exact merged
  · exact (merged_ofText mark).append (merged.of_infix (List.dropWhile_suffix _).isInfix)

private theorem merged_markFollowing (mark : Nat → Text → Text) (index : Nat)
    {lines : List Fragment}
    (merged : ∀ line ∈ lines, line.Merged) : (markFollowing mark index lines).Merged := by
  induction lines generalizing index with
  | nil => exact merged_empty
  | cons line rest ih =>
      obtain ⟨here, below⟩ := List.forall_mem_cons.mp merged
      exact ((merged_ofText _).append (here.marked _)).append (ih (index + 1) below)

private theorem Merged.lines (merged : f.Merged) : ∀ line ∈ f.lines, line.Merged := by
  intro line member
  obtain ⟨tokens, within, rfl⟩ := List.mem_map.mp member
  rcases List.mem_cons.mp within with rfl | later
  · exact (Token.merged_lines merged).1
  · exact (Token.merged_lines merged).2 tokens later

/-- Whatever marks lines get, the fragment stays merged. -/
theorem Merged.markLines (merged : f.Merged) (mark : Nat → Text → Text) :
    (f.markLines mark).Merged := by
  have lines := merged.lines
  rw [Fragment.markLines]
  split
  · exact merged_empty
  · next first rest split =>
    rw [split] at lines
    obtain ⟨here, below⟩ := List.forall_mem_cons.mp lines
    exact (here.marked _).append (merged_markFollowing mark 1 below)

end Fragment
end ArticleMarkdown
