import ArticleMarkdown.Proofs.Article.Contract
import ArticleMarkdown.Proofs.Fragment.Apart
import ArticleMarkdown.Proofs.Markdown.Anchored
import ArticleMarkdown.Proofs.Markdown.CodeSpans
import ArticleMarkdown.Proofs.Markdown.Leaves

/-!
# Reading code blocks

A reader of Markdown ends a code block behind the first line of at least as many backticks as the
block starts with. The fences of a block are longer than every run in its code, so that no line of
the code closes it, and what is written of a block is read back as its language and its code
(`Code.readBlock?_fenced`). No spacing pass gets at it: the block stands in the Markdown of an
article as it is, with blank lines around (`Article.codeBlock_read_back`).
-/

namespace ArticleMarkdown

namespace Code

open Text

variable {n : Nat} {rest : Text}

/-- The lines of a text, each with the line break that ends it. -/
def lines : Text → List Text
  | [] => []
  | c :: rest =>
    if isLineBreak c then [c] :: lines rest
    else match lines rest with
      | [] => [[c]]
      | line :: others => (c :: line) :: others

/-- Whether a line closes a block that `n` backticks open: at least as many of them, not far from
the margin, and nothing behind them. -/
def closes (n : Nat) (line : Text) : Bool :=
  let fence := line.dropWhile (· == ' ')
  (line.takeWhile (· == ' ')).length ≤ 3 && n ≤ (fence.takeWhile (· == '`')).length &&
    (fence.dropWhile (· == '`')).all isSpacing

/-- The lines up to the one that closes the block, and what stands behind that line. -/
def readLines? (n : Nat) : List Text → Option (Text × Text)
  | [] => none
  | line :: others =>
    if closes n line then some ([], others.flatten)
    else (readLines? n others).map fun (code, behind) => (line ++ code, behind)

/-- A code block as it is read: what is told behind the backticks that open it, its lines without
the line break that ends the last one, and what follows the line that closes it. -/
structure Reading where
  language : Text
  code : Text
  rest : Text
  deriving DecidableEq, Repr

/-- What is told on the line that opens a block. -/
def readLanguage (info : Text) : Text :=
  dropEndWhile isSpacing (info.dropWhile isSpacing)

/-- The code block at the start of a text. -/
def readBlock? (t : Text) : Option Reading :=
  match lines t with
  | [] => none
  | opening :: others =>
    let n := (opening.takeWhile (· == '`')).length
    let info := opening.dropWhile (· == '`')
    if n < 3 || info.contains '`' then none
    else (readLines? n others).map fun (code, behind) =>
      ⟨readLanguage info, code.dropLast, behind⟩

private theorem flatten_lines (t : Text) : (lines t).flatten = t := by
  fun_induction lines t with
  | case1 => rfl
  | case2 c rest breaks ih => rw [List.flatten_cons, ih, List.singleton_append]
  | case3 c rest inside none ih =>
      rw [none] at ih
      rw [← ih]
      rfl
  | case4 c rest inside line others split ih =>
      rw [split] at ih
      rw [← ih]
      rfl

private theorem lines_append_cons {c : Char} (breaks : isLineBreak c = true) (s t : Text) :
    lines (s ++ c :: t) = lines (s ++ [c]) ++ lines t := by
  induction s with
  | nil => simp [lines, breaks]
  | cons d s ih =>
      rw [List.cons_append, List.cons_append, lines, lines, ih]
      split
      · rfl
      · cases split : lines (s ++ [c]) with
        | nil =>
            have whole := flatten_lines (s ++ [c])
            rw [split] at whole
            simp at whole
        | cons line others => rfl

/-- A line is the only line of itself. -/
theorem lines_line {line : Text} (single : ∀ c ∈ line, isLineBreak c = false) (filled : line ≠ []) :
    lines line = [line] := by
  induction line with
  | nil => exact absurd rfl filled
  | cons c later ih =>
      rw [List.forall_mem_cons] at single
      rw [lines, if_neg (Bool.eq_false_iff.mp single.1)]
      by_cases last : later = []
      · rw [last]
        rfl
      · rw [ih single.2 last]

private theorem lines_ended {line : Text} (single : ∀ c ∈ line, isLineBreak c = false) {c : Char}
    (breaks : isLineBreak c = true) (t : Text) :
    lines (line ++ c :: t) = (line ++ [c]) :: lines t := by
  induction line with
  | nil => rw [List.nil_append, lines, if_pos breaks]; rfl
  | cons d later ih =>
      rw [List.forall_mem_cons] at single
      rw [List.cons_append, lines, if_neg (Bool.eq_false_iff.mp single.1), ih single.2]
      rfl

/-- A line that closes a block holds as many backticks as open it. -/
theorem run_of_closes {line : Text} (closing : closes n line = true) :
    List.replicate n '`' <:+: line := by
  rw [closes, Bool.and_eq_true, Bool.and_eq_true, decide_eq_true_eq, decide_eq_true_eq] at closing
  generalize fenceAt : line.dropWhile (· == ' ') = fence at closing
  have backticks : ∀ c ∈ fence.takeWhile (· == '`'), c = '`' := fun c member => by
    simpa using List.mem_takeWhile_imp member
  have held := run_infix_of_forall backticks closing.1.2
  have behind : fence <:+ line := fenceAt ▸ List.dropWhile_suffix _
  exact (held.trans (List.takeWhile_prefix _).isInfix).trans behind.isInfix

/-- Reading goes on through lines that do not close the block. -/
theorem readLines?_append {first : List Text} (open' : ∀ line ∈ first, closes n line = false)
    (others : List Text) :
    readLines? n (first ++ others) =
      (readLines? n others).map fun (code, behind) => (first.flatten ++ code, behind) := by
  induction first with
  | nil => simp
  | cons line first ih =>
      rw [List.forall_mem_cons] at open'
      rw [List.cons_append, readLines?, if_neg (Bool.eq_false_iff.mp open'.1), ih open'.2,
        Option.map_map]
      refine Option.map_congr fun found _ => ?_
      simp

private theorem closes_fence (filled : n ≠ 0) {w : Text} (spacing : w.all isSpacing = true) :
    closes n (List.replicate n '`' ++ w) = true := by
  have ended : w.head? ≠ some '`' := by
    intro starts
    have member : '`' ∈ w := List.mem_of_mem_head? starts
    cases List.all_eq_true.mp spacing _ member
  obtain ⟨run, behind⟩ := takeWhile_run n ended
  obtain ⟨k, rfl⟩ := Nat.exists_eq_succ_of_ne_zero filled
  have margin : (List.replicate (k + 1) '`' ++ w).takeWhile (· == ' ') = [] := rfl
  have fence : (List.replicate (k + 1) '`' ++ w).dropWhile (· == ' ') =
      List.replicate (k + 1) '`' ++ w := rfl
  rw [closes, margin, fence, run, behind, List.length_replicate, spacing]
  simp

private theorem readLanguage_ended {language : Text} (told : ∀ c ∈ language, isSpace c = false) :
    readLanguage (language ++ ['\n']) = language := by
  have kept : ∀ c ∈ language, ¬isSpacing c = true := fun c member =>
    Bool.eq_false_iff.mp (isSpacing_of_solid (told c member))
  have starts : (language ++ ['\n']).dropWhile isSpacing = language ++ ['\n'] ∨ language = [] := by
    cases language with
    | nil => exact .inr rfl
    | cons c later =>
        exact .inl (List.dropWhile_cons_of_neg (kept c List.mem_cons_self))
  have ends : dropEndWhile isSpacing language = language := by
    rcases List.eq_nil_or_concat' language with rfl | ⟨before, c, rfl⟩
    · rfl
    · have last := kept c List.mem_concat_self
      simp [dropEndWhile, last]
  rcases starts with starts | rfl
  · rw [readLanguage, starts, dropEndWhile_append_of_nil rfl, ends]
  · rfl

private theorem single_run (n : Nat) : ∀ c ∈ List.replicate n '`', isLineBreak c = false :=
  List.forall_mem_replicate.mpr (.inr rfl)

/-- The closing fence stands on a line of its own. -/
theorem lines_fence (filled : n ≠ 0) (below : rest = [] ∨ rest.head? = some '\n') :
    ∃ w, w.all isSpacing = true ∧
      lines (List.replicate n '`' ++ rest) = (List.replicate n '`' ++ w) :: lines rest.tail := by
  rcases below with rfl | starts
  · have opened : List.replicate n '`' ≠ [] := mt (List.replicate_eq_nil_iff _).mp filled
    refine ⟨[], rfl, ?_⟩
    rw [List.append_nil, lines_line (single_run n) opened]
    rfl
  · obtain ⟨later, rfl⟩ := List.head?_eq_some_iff.mp starts
    exact ⟨['\n'], rfl, lines_ended (single_run n) rfl later⟩

section Source

variable {source : Text} (longer : longestRun source < n)
include longer

/-- No line of the code closes a block that more backticks open than the code has in a run. -/
theorem not_closes_source : ∀ line ∈ lines (source ++ ['\n']), closes n line = false := by
  refine fun line member => Bool.eq_false_iff.mpr fun closed => ?_
  have held := (run_of_closes closed).trans (List.infix_of_mem_flatten member)
  have filled : List.replicate n '`' ≠ [] :=
    mt (List.replicate_eq_nil_iff _).mp (Nat.ne_zero_of_lt longer)
  have severs := severs_singleton filled (notMem_run (c := '\n') (by decide))
  rw [flatten_lines, severs.infix_before_iff, ← le_longestRun_iff] at held
  omega

private theorem readLines?_source (below : rest = [] ∨ rest.head? = some '\n') :
    readLines? n (lines (source ++ ['\n']) ++ lines (List.replicate n '`' ++ rest)) =
      some (source ++ ['\n'], rest.tail) := by
  have filled : n ≠ 0 := Nat.ne_zero_of_lt longer
  obtain ⟨w, spacing, ends⟩ := lines_fence filled below
  rw [readLines?_append (not_closes_source longer), ends, readLines?,
    if_pos (closes_fence filled spacing), flatten_lines, flatten_lines]
  simp

end Source

/-- A fenced block is read back as it was, also with more lines behind it. -/
theorem readBlock?_fenced (source : Text) {language : Text}
    (told : ∀ c ∈ language, isSpace c = false) (plain : '`' ∉ language)
    (below : rest = [] ∨ rest.head? = some '\n') :
    readBlock? (fenced source language ++ rest) = some ⟨language, source, rest.tail⟩ := by
  generalize size : max (longestRun source) 2 + 1 = n
  have longer : longestRun source < n := by omega
  have written : fenced source language ++ rest = List.replicate n '`' ++ language ++
      '\n' :: (source ++ '\n' :: (List.replicate n '`' ++ rest)) := by
    simp [fenced, repeated, size]
  have opening : ∀ c ∈ List.replicate n '`' ++ language, isLineBreak c = false :=
    List.forall_mem_append.mpr ⟨single_run n, fun c inside => isLineBreak_of_solid (told c inside)⟩
  have apart : '`' ∉ language ++ ['\n'] := by
    rw [List.mem_append, not_or]
    exact ⟨plain, by decide⟩
  have enough : (n < 3 || (language ++ ['\n']).contains '`') = false := by
    rw [Bool.or_eq_false_iff, decide_eq_false_iff_not, List.contains_eq_mem,
      decide_eq_false_iff_not]
    exact ⟨by omega, apart⟩
  obtain ⟨run, info⟩ := takeWhile_run n (mt List.mem_of_mem_head? apart)
  rw [written, readBlock?, lines_ended opening rfl, lines_append_cons rfl, List.append_assoc]
  simp only [run, info, List.length_replicate, enough, readLines?_source longer below,
    readLanguage_ended told, Bool.false_eq_true, if_false, Option.map_some,
    List.dropLast_concat]

/-- The language that is told of a code block with given children. -/
def blockLanguage (children : List Node) : Text :=
  match (Node.subtrees children).find? (Node.isElement "code") with
  | some code => language (Attribute.classes code.attributes)
  | none => []

/-- The code of a code block with given children. -/
def blockSource (children : List Node) : Text :=
  match (Node.subtrees children).find? (Node.isElement "code") with
  | some code => source code.children
  | none => dropFinalBreak (Node.textContents children)

private theorem block_eq (children : List Node) :
    block children =
      Fragment.blockText (fenced (blockSource children) (blockLanguage children)) := by
  rw [block, blockSource, blockLanguage]
  cases (Node.subtrees children).find? (Node.isElement "code") <;> rfl

/-- Classes are words, and so is a language. -/
theorem blockLanguage_told (children : List Node) :
    ∀ c ∈ blockLanguage children, isSpace c = false := by
  intro c member
  rw [blockLanguage] at member
  split at member
  · obtain ⟨told, among, within⟩ := infix_language _
    have inside := within.subset member
    rcases List.mem_cons.mp among with rfl | among
    · cases inside
    · exact eq_false_of_mem_splitBy (List.mem_filter.mp among).1 c inside
  · cases member

end Code

namespace Article

open Text Asset

/-- A code block among the children of the root stands in the Markdown with blank lines around, and
is read back as its language and its code, with what stands below it or without. -/
theorem codeBlock_read_back {fetcher : Option Fetcher} {s : Settings} {store after : Store}
    {nodes : List Node} {markdown : Text} {space : ElementSpace} {attributes : List Attribute}
    {children : List Node} (member : .element space "pre" attributes children ∈ nodes)
    (plain : '`' ∉ Code.blockLanguage children)
    (converts : convertNodes fetcher s store nodes = (after, .ok markdown)) :
    let language := Code.blockLanguage children
    let source := Code.blockSource children
    ∃ above below, markdown = above ++ Code.fenced source language ++ below ∧
      (above = [] ∨ blankLine <:+ above) ∧ blankLine <+: below ∧
      Code.readBlock? (Code.fenced source language) = some ⟨language, source, []⟩ ∧
      Code.readBlock? (Code.fenced source language ++ below) =
        some ⟨language, source, below.tail⟩ := by
  intro language source
  obtain ⟨paths, -, written⟩ := answers_of_convertNodes converts
  have firm : Firm (Code.fenced source language) := Code.firm_fenced _ _
  have drafted : ∀ paths,
      (draftNode s false (.element space "pre" attributes children)).fill paths =
      Fragment.blockText (Code.fenced source language) := by
    intro paths
    have rule : Rule.ofName "pre" = .codeBlock := rfl
    rw [draftNode, rule]
    exact Code.block_eq children
  have apart := Fragment.setsApart_draftNodes s false member
    (fun paths => (drafted paths).symm ▸ Fragment.setsApart_blockText firm) paths
  obtain ⟨above, below, laid, ends, starts⟩ := apart.documentText firm.ne_nil
  have told := Code.blockLanguage_told children
  refine ⟨above, below, written.trans laid, ends, starts, ?_, ?_⟩
  · have alone := Code.readBlock?_fenced source told plain (.inl rfl)
    rwa [List.append_nil] at alone
  · obtain ⟨rest, rfl⟩ := starts
    exact Code.readBlock?_fenced source told plain (.inr rfl)

/-- Code that looks like a fence, with a blank line and spaces at its end, between other nodes. -/
def fenceInCode : Node :=
  .element .html "pre" [] [.element .html "code" [⟨.none, "class", "language-md".toList⟩]
    [.text "```\n\n``` \n\n".toList]]

/-- A block whose code holds a fence, among texts, is read back. -/
theorem codeBlock_read_back_fenceInCode :
    let nodes := [.text "a".toList, fenceInCode, .text " b".toList]
    fenceInCode ∈ nodes ∧ '`' ∉ Code.blockLanguage fenceInCode.children ∧
      (convertNodes none {} {} nodes).2 =
        .ok "a\n\n````md\n```\n\n``` \n\n````\n\nb\n\n".toList ∧
      Code.readBlock? "````md\n```\n\n``` \n\n````".toList =
        some ⟨"md".toList, "```\n\n``` \n".toList, []⟩ := by
  intro nodes
  have member : fenceInCode ∈ nodes := by simp [nodes]
  have plain : '`' ∉ Code.blockLanguage fenceInCode.children := by decide
  have converts : convertNodes none {} {} nodes =
      ({}, .ok "a\n\n````md\n```\n\n``` \n\n````\n\nb\n\n".toList) := by rfl
  obtain ⟨above, below, -, -, -, read, -⟩ := codeBlock_read_back member plain converts
  exact ⟨member, plain, congrArg Prod.snd converts, read⟩

end Article
end ArticleMarkdown
