import ArticleMarkdown.Proofs.Fragment.Settled
import ArticleMarkdown.Proofs.Fragment.Spread

/-!
# Flat fragments

A fragment without block separators is flat. Trimming a flat fragment is trimming the text that it
is read as (`Fragment.spread_trim`), since nothing at its edges is more than spacing. Resolving a
flat fragment only trims it (`Fragment.plainText_resolve`).
-/

namespace ArticleMarkdown

namespace Text

private theorem trimStart_of_blank {t : Text} (blank : isBlank t = true) : trimStart t = [] :=
  List.dropWhile_eq_nil_iff.mpr (isBlank_iff.mp blank)

private theorem trimStart_blank_append {w : Text} (blank : isBlank w = true) (t : Text) :
    trimStart (w ++ t) = trimStart t :=
  List.dropWhile_append_of_pos (isBlank_iff.mp blank)

/-- Texts that differ in the whitespace around them are trimmed to the same. -/
theorem trim_of_frames {s t : Text} (framed : Frames s t) : trim s = trim t := by
  obtain ⟨before, after, blank, blank', rfl⟩ := framed
  rw [List.append_assoc, trim_blank_append blank, trim_append_blank blank']

end Text

namespace Token

section Reading

variable {read : Token → Text} (reads : ∀ t, read (.text t) = t)
  (blank : Text.isBlank (read .inlineBreak) = true) {tokens : List Token}
include reads blank

/-- However inline separators are read, trimming takes them and other whitespace off. -/
theorem read_trimLeading (unbroken : .blockBreak ∉ tokens) :
    (trimLeading tokens).flatMap read = Text.trimStart (tokens.flatMap read) := by
  fun_induction trimLeading tokens with
  | case1 rest ih =>
      rw [ih (mt (List.mem_cons_of_mem _) unbroken), List.flatMap_cons,
        Text.trimStart_blank_append blank]
  | case2 t rest nothing ih =>
      have nothing' : Text.isBlank t = true := by
        rw [← Text.ink_eq_nil, ← Text.ink_trimStart, nothing, Text.ink_nil]
      rw [ih (mt (List.mem_cons_of_mem _) unbroken), List.flatMap_cons, reads,
        Text.trimStart_blank_append nothing']
  | case3 t rest something =>
      have shown : Text.ink t ≠ [] := by
        rw [Ne, Text.ink_eq_nil]
        exact fun blank => something (Text.trimStart_of_blank blank)
      rw [List.flatMap_cons, List.flatMap_cons, reads, reads, Text.trimStart_append_of_ink shown]
  | case4 tokens noInline noText =>
      cases tokens with
      | nil => rfl
      | cons token rest =>
          cases token with
          | blockBreak => exact absurd List.mem_cons_self unbroken
          | inlineBreak => exact absurd rfl (noInline rest)
          | text t => exact absurd rfl (noText t rest)

omit blank in
/-- Trimming the end leaves no tokens, or some that write something. -/
theorem read_trimTrailing_ne_nil (unbroken : .blockBreak ∉ tokens)
    (kept : trimTrailing tokens ≠ []) : (trimTrailing tokens).flatMap read ≠ [] := by
  fun_induction trimTrailing tokens with
  | case1 => exact absurd rfl kept
  | case2 => exact absurd rfl kept
  | case3 => exact absurd List.mem_cons_self unbroken
  | case4 => exact absurd rfl kept
  | case5 rest trimmed t something ih =>
      rw [List.flatMap_cons, reads]
      exact List.append_ne_nil_of_left_ne_nil something _
  | case6 token rest something ih =>
      rw [List.flatMap_cons]
      exact List.append_ne_nil_of_right_ne_nil _
        (ih (mt (List.mem_cons_of_mem _) unbroken) something)

private theorem read_trimTrailing (unbroken : .blockBreak ∉ tokens) :
    (trimTrailing tokens).flatMap read = Text.trimEnd (tokens.flatMap read) := by
  fun_induction trimTrailing tokens with
  | case1 => rfl
  | case2 rest trimmed ih =>
      have below := ih (mt (List.mem_cons_of_mem _) unbroken)
      rw [trimmed] at below
      have gone : Text.trimEnd (read .inlineBreak) = [] := Text.trimEnd_append_blank blank []
      rw [List.flatMap_cons]
      exact ((Text.dropEndWhile_append_of_nil below.symm _).trans gone).symm
  | case3 => exact absurd List.mem_cons_self unbroken
  | case4 rest trimmed t nothing ih =>
      have below := ih (mt (List.mem_cons_of_mem _) unbroken)
      rw [trimmed] at below
      rw [List.flatMap_cons, reads]
      exact ((Text.dropEndWhile_append_of_nil below.symm t).trans nothing).symm
  | case5 rest trimmed t something ih =>
      have below := ih (mt (List.mem_cons_of_mem _) unbroken)
      rw [trimmed] at below
      rw [List.flatMap_cons, List.flatMap_cons, reads, reads, List.flatMap_nil, List.append_nil]
      exact (Text.dropEndWhile_append_of_nil below.symm t).symm
  | case6 token rest something ih =>
      have unbroken' : .blockBreak ∉ rest := mt (List.mem_cons_of_mem _) unbroken
      have below := ih unbroken'
      have shown : Text.trimEnd (rest.flatMap read) ≠ [] :=
        below ▸ read_trimTrailing_ne_nil reads unbroken' something
      rw [List.flatMap_cons, List.flatMap_cons, below]
      exact (Text.dropEndWhile_append_of_ne_nil shown _).symm

end Reading

private theorem literal_join (left right : List Token) :
    (join left right).flatMap literal = left.flatMap literal ++ right.flatMap literal := by
  fun_induction join left right with
  | case1 right => rfl
  | case2 s t right => simp [literal]
  | case3 token left right _ ih => simp [ih]

private theorem literal_writeText (t : Text) (held : List Token) :
    (writeText t held).reverse.flatMap literal = held.reverse.flatMap literal ++ t := by
  cases held with
  | nil => simp [writeText, literal]
  | cons token before => cases token <;> simp [writeText, literal]

/-- Without block separators, resolving only joins texts. -/
theorem literal_resolveFrom {held tokens : List Token} (unbroken : .blockBreak ∉ tokens) :
    (resolveFrom false held tokens).flatMap literal =
      held.reverse.flatMap literal ++ tokens.flatMap literal := by
  induction tokens generalizing held with
  | nil => rw [resolveFrom, List.flatMap_nil, List.append_nil]
  | cons token rest ih =>
      have below := fun {held'} => @ih held' (mt (List.mem_cons_of_mem _) unbroken)
      cases token with
      | blockBreak => exact absurd List.mem_cons_self unbroken
      | inlineBreak =>
          rw [resolveFrom, if_neg Bool.false_ne_true, below]
          simp [literal]
      | text t =>
          rw [resolveFrom, if_neg Bool.false_ne_true, List.flatMap_cons]
          split
          · next nothing =>
            rw [below, List.isEmpty_iff.mp nothing]
            rfl
          · rw [below, literal_writeText, List.append_assoc]
            rfl

end Token

namespace Fragment

/-- Trimming keeps block separators, if there are any. -/
theorem blockBreak_mem_trim (f : Fragment) : .blockBreak ∈ f.trim.tokens ↔ .blockBreak ∈ f.tokens :=
  (Token.blockBreak_mem_trimTrailing _).trans (Token.blockBreak_mem_trimLeading _)

section Trim

variable {f : Fragment} (flat : .blockBreak ∉ f.tokens)
include flat

private theorem read_trim {read : Token → Text} (reads : ∀ t, read (.text t) = t)
    (blank : Text.isBlank (read .inlineBreak) = true) :
    f.trim.tokens.flatMap read = Text.trim (f.tokens.flatMap read) := by
  have leading := mt (Token.blockBreak_mem_trimLeading f.tokens).mp flat
  rw [trim, Token.read_trimTrailing reads blank leading, Token.read_trimLeading reads blank flat]
  rfl

/-- A flat fragment is trimmed as the text that it is read as. -/
theorem spread_trim : f.trim.spread = Text.trim f.spread :=
  read_trim flat (fun _ => rfl) rfl

/-- A flat fragment is trimmed as its literal text. -/
theorem plainText_trim : f.trim.plainText = Text.trim f.plainText :=
  read_trim flat (fun _ => rfl) rfl

end Trim

/-- Literal texts are joined as fragments are. -/
theorem plainText_append (f g : Fragment) : (f ++ g).plainText = f.plainText ++ g.plainText :=
  Token.literal_join f.tokens g.tokens

/-- The literal text of a text is the text. -/
theorem plainText_ofText (t : Text) : (ofText t).plainText = t := by
  cases t with
  | nil => rfl
  | cons c rest => simp [ofText, plainText, Token.literal]

/-- Flattening keeps the literal text. -/
theorem plainText_flattened (f : Fragment) : f.flattened.plainText = f.plainText := by
  rw [plainText, flattened, List.flatMap_map]
  exact List.flatMap_congr fun token _ => by cases token <;> rfl

/-- A flattened fragment holds no block separator. -/
theorem flat_flattened (f : Fragment) : .blockBreak ∉ f.flattened.tokens := by
  intro member
  obtain ⟨token, -, weakened⟩ := List.mem_map.mp member
  cases token <;> cases weakened

/-- Resolving a flat fragment trims its literal text. -/
theorem plainText_resolve {f : Fragment} (flat : .blockBreak ∉ f.tokens) :
    f.resolve.plainText = Text.trim f.plainText := by
  have resolved : .blockBreak ∉ Token.resolveFrom false [] f.tokens :=
    (Token.resolveFrom_settled false .nil).unbroken
  have literal : (Token.resolveFrom false [] f.tokens).flatMap Token.literal =
      [].flatMap Token.literal ++ f.tokens.flatMap Token.literal :=
    Token.literal_resolveFrom flat
  rw [resolve, plainText_trim resolved, plainText, literal]
  rfl

end Fragment
end ArticleMarkdown
