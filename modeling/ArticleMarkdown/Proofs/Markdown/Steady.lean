import ArticleMarkdown.Proofs.Markdown.Ink
import ArticleMarkdown.Proofs.Markdown.Marks

/-!
# What a draft shows

The answers to the requests of a document decide which paths its images name, and nothing about
which parts of it show something: a rule gives nothing for content that shows nothing, or always
shows something itself, and an image shows something whatever path it names. So the draft of a node
is blank with all answers or with none of them (`draftNode_steady`, `draftItems_steady`).
-/

namespace ArticleMarkdown

namespace Fragment

variable {f g : Fragment}

private theorem isBlank_of_ink (same : f.ink = g.ink) : f.isBlank = g.isBlank := by
  rw [Bool.eq_iff_iff, isBlank_iff, isBlank_iff, same]

private theorem isBlank_eq_false (shown : f.ink ≠ []) : f.isBlank = false := by
  rw [← Bool.not_eq_true, isBlank_iff]
  exact shown

/-- A fragment is not blank that keeps the ink of one that is not. -/
private theorem isBlank_of_kept (kept : f.ink.Sublist g.ink) (shown : f.isBlank = false) :
    g.isBlank = false := by
  rw [← Bool.not_eq_true, isBlank_iff] at shown ⊢
  intro nothing
  rw [nothing] at kept
  exact shown (List.sublist_nil.mp kept)

/-- Fragments one after another are blank if both are. -/
theorem isBlank_append (f g : Fragment) : (f ++ g).isBlank = (f.isBlank && g.isBlank) := by
  rw [Bool.eq_iff_iff, Bool.and_eq_true, isBlank_iff, isBlank_iff, isBlank_iff, ink_append]
  exact List.append_eq_nil_iff

/-- What keeps the ink of its content, and is nothing where the content is blank, is blank where the
content is. -/
theorem isBlank_unlessBlank {content shown wrapped : Fragment}
    (made : wrapped = if content.isBlank then ∅ else shown) (same : content.ink = f.ink)
    (kept : f.ink.Sublist wrapped.ink) : wrapped.isBlank = f.isBlank := by
  have alike := isBlank_of_ink same
  cases blank : f.isBlank with
  | true =>
      rw [made, alike, blank, if_pos rfl]
      rfl
  | false => exact isBlank_of_kept kept blank

end Fragment

section Wraps

variable (f : Fragment)

private theorem Emphasis.isBlank_wrap (kind : Emphasis) : (kind.wrap f).isBlank = f.isBlank :=
  Fragment.isBlank_unlessBlank (wrap_eq kind f) (frames_core f).ink_eq.symm (kind.ink_wrap f)

private theorem Script.isBlank_wrap (tag : String) : (wrap tag f).isBlank = f.isBlank :=
  Fragment.isBlank_unlessBlank rfl f.ink_trim (ink_wrap tag f)

private theorem Quotation.isBlank_fragment : (fragment f).isBlank = f.isBlank :=
  Fragment.isBlank_unlessBlank rfl f.ink_resolve (ink_fragment f)

private theorem Heading.isBlank_fragment (level : Nat) : (fragment level f).isBlank = f.isBlank :=
  Fragment.isBlank_unlessBlank rfl f.ink_resolve (ink_fragment level f)

private theorem Link.ink_label : (label f).ink = f.ink := by
  rw [label, Fragment.ink_trim, Fragment.ink_flattened]

private theorem Link.isBlank_unlinked : (unlinked f).isBlank = f.isBlank :=
  Fragment.isBlank_unlessBlank rfl (ink_label f) (ink_unlinked f)

private theorem Link.isBlank_stripped : (stripped f).isBlank = f.isBlank := by
  apply Fragment.isBlank_of_ink
  rw [stripped, Fragment.ink_inlined, ink_label]

/-- A link to an address shows its brackets at least. -/
theorem Link.isBlank_around (address : Text) : (around address f).isBlank = false := by
  apply Fragment.isBlank_eq_false
  simp only [around]
  split
  · rw [Fragment.inlineText, Fragment.ink_inlined, Fragment.ink_ofText]
    exact List.cons_ne_nil _ _
  · rw [Fragment.ink_inlined, Fragment.ink_append, Fragment.ink_append, Fragment.ink_ofText]
    exact List.cons_ne_nil _ _

/-- An item shows its mark at least. -/
theorem ListKind.ink_item_ne_nil (kind : ListKind) (number : Nat) :
    (kind.item number f).ink ≠ [] := by
  obtain ⟨c, more, written, solid, -⟩ := kind.mark_eq_cons number
  obtain ⟨first, rest, split⟩ := Text.splitOn_eq_cons '\n' f.finalText
  rw [← Fragment.ink_laid, laid_item, Text.withMarks, split, List.mapIdx_cons,
    Text.ink_join ['\n'] rfl, List.flatten_cons, itemMark, if_pos rfl, written, List.cons_append,
    List.cons_append, Text.ink_cons, solid]
  exact List.cons_ne_nil _ _

/-- A list in a list shows what its content shows. -/
theorem ListKind.isBlank_nested (kind : ListKind) : (kind.nested f).isBlank = f.isBlank := by
  cases blank : f.isBlank with
  | true =>
      rw [Fragment.isBlank_iff, ← Fragment.ink_laid, Text.ink_eq_nil, ← Text.trim_eq_nil] at blank
      have final : f.finalText = [] := blank
      rw [Fragment.isBlank_iff, ← Fragment.ink_laid, laid_nested, final]
      rfl
  | false => exact Fragment.isBlank_of_kept (kind.ink_nested f) blank

/-- A table shows something if it has rows. -/
theorem Table.isBlank_fragment? (rows : List Row) :
    ((fragment? rows).getD ∅).isBlank = rows.isEmpty := by
  cases rows with
  | nil => rfl
  | cons header rows =>
      apply Fragment.isBlank_eq_false
      have starts : ∃ more, Text.join ['\n'] (lines header rows) = '|' :: more := by
        obtain ⟨more, whole⟩ := Text.prefix_join ['\n'] (line (columns (header :: rows)) header)
          (delimiterLine (columns (header :: rows)) header ::
            rows.map (line (columns (header :: rows))))
        exact ⟨_, whole.symm⟩
      obtain ⟨more, whole⟩ := starts
      rw [fragment?, Option.getD_some, Fragment.blockText, Fragment.ink_blocked,
        Fragment.ink_ofText, whole]
      exact List.cons_ne_nil _ _

private theorem Image.isBlank_placed (centered : Bool) (address alt : Text)
    (width height : Option Text) :
    (placed centered (markdown address alt width height)).isBlank = false := by
  apply Fragment.isBlank_eq_false
  have image : (placed centered (markdown address alt width height)).ink =
      Text.ink (markdown address alt width height) := by
    cases centered <;> simp [placed]
  rw [image, markdown]
  split <;> exact List.cons_ne_nil _ _

private theorem Drawing.isBlank_fileReference (path : Text) :
    (fileReference path).isBlank = false :=
  rfl

end Wraps

/-- What a look at the result of a draft tells does not depend on the answers. -/
def Draft.Steady {α β : Type} (look : α → β) (draft : Draft α) : Prop :=
  ∀ paths others, look (draft.fill paths) = look (draft.fill others)

namespace Draft.Steady

variable {α β γ δ : Type} {look : α → β}

private theorem of (a : α) : (Draft.of a).Steady look :=
  fun _ _ => rfl

private theorem always {draft : Draft α} {b : β} (same : ∀ paths, look (draft.fill paths) = b) :
    draft.Steady look := by
  intro paths others
  rw [same, same]

private theorem map {draft : Draft α} (steady : draft.Steady look) {look' : γ → β} {f : α → γ}
    (same : ∀ a, look' (f a) = look a) : (draft.map f).Steady look' := by
  intro paths others
  rw [fill_map, fill_map, same, same]
  exact steady paths others

private theorem map_always {draft : Draft α} {look' : γ → δ} {f : α → γ} {d : δ}
    (same : ∀ a, look' (f a) = d) : (draft.map f).Steady look' :=
  .always fun paths => same (draft.fill paths)

/-- The look at a combined result is put together from looks at its parts. -/
theorem combine {first : Draft α} {second : Draft γ} {look' : γ → β} (steady : first.Steady look)
    (steady' : second.Steady look') {look'' : δ → β} {f : α → γ → δ} {g : β → β → β}
    (same : ∀ a b, look'' (f a b) = g (look a) (look' b)) :
    (Draft.combine f first second).Steady look'' := by
  intro paths others
  simp only [Draft.combine, same]
  exact congrArg₂ g (steady _ _) (steady' _ _)

private theorem append {first second : Draft Fragment} (steady : first.Steady Fragment.isBlank)
    (steady' : second.Steady Fragment.isBlank) : (first.append second).Steady Fragment.isBlank :=
  steady.combine steady' Fragment.isBlank_append

end Draft.Steady

/-- Whether a path is asked for or not, an image shows something. -/
theorem Image.draft_steady (s : Settings) (centered : Bool) (attributes : List Attribute) :
    (Image.draft s centered attributes).Steady Fragment.isBlank := by
  simp only [Image.draft]
  split
  · exact .of _
  · split
    · exact .of _
    · exact .map_always fun address => Image.isBlank_placed _ address _ _ _

private theorem Drawing.draft_steady (s : Settings) (space : ElementSpace) (name : String)
    (attributes : List Attribute) (children : List Node) :
    (Drawing.draft s space name attributes children).Steady Fragment.isBlank := by
  simp only [Drawing.draft]
  split
  · exact .of _
  · split
    · exact .map_always Drawing.isBlank_fileReference
    · split
      · exact .of _
      · exact .of _

mutual

/-- Whether the draft of a node is blank does not depend on its paths. -/
theorem draftNode_steady (s : Settings) (centered : Bool) :
    ∀ node, (draftNode s centered node).Steady Fragment.isBlank
  | .text _ | .comment _ | .doctype _ | .instruction _ _ => by
      rw [draftNode.eq_def]
      exact .of _
  | .document children => by
      rw [draftNode.eq_def]
      exact draftNodes_steady s centered children
  | .element space name attributes children => by
      have below := fun centers => draftNodes_steady s centers children
      have closed := (below centered).map fun f => Fragment.isBlank_of_ink f.ink_closed
      have blocked := fun centers =>
        (below centers).map fun f => Fragment.isBlank_of_ink f.ink_blocked
      rw [draftNode.eq_def]
      simp only
      -- One case per rule. Where a rule does not convert the children, it asks for nothing.
      split
      · exact (draftHeading_steady s centered children).map
          fun f => Heading.isBlank_fragment f _
      · split
        · exact blocked true
        · exact .of _
        · exact .of _
        · exact .of _
        · exact blocked centered
      · exact (below centered).map fun f =>
          (Emphasis.isBlank_wrap f.trim _).trans (Fragment.isBlank_of_ink f.ink_trim)
      · split
        · exact .of _
        · exact .of _
        · exact (below centered).map Link.isBlank_stripped
        · exact (below centered).map Link.isBlank_unlinked
        · exact .map_always fun f => Link.isBlank_around f _
      · exact Image.draft_steady s centered attributes
      · exact (draftItems_steady s.descend centered _ _ children).map fun f =>
          Fragment.isBlank_append Fragment.blockBreak f
      · exact (below centered).map Quotation.isBlank_fragment
      · exact .of _
      · exact .of _
      · split
        · exact (draftRows_steady s centered false children).map Table.isBlank_fragment?
        · exact closed
      · split
        · exact .of _
        · split
          · exact .of _
          · exact below centered
      · split
        · exact .of _
        · exact below centered
      · split
        · exact .of _
        · exact (below centered).map fun f => Script.isBlank_wrap f _
      · exact (below centered).map fun f => Script.isBlank_wrap f _
      · exact .of _
      · exact Drawing.draft_steady s space name attributes _
      · split
        · exact .of _
        · exact blocked true
      · split
        · exact .of _
        · exact closed
      · exact .of _
      · exact .of _
      · exact .of _
      · exact closed

/-- Nor does it for nodes one after another. -/
theorem draftNodes_steady (s : Settings) (centered : Bool) :
    ∀ nodes, (draftNodes s centered nodes).Steady Fragment.isBlank
  | [] => by
      rw [draftNodes.eq_def]
      exact .of _
  | node :: rest => by
      rw [draftNodes.eq_def]
      exact (draftNode_steady s centered node).append (draftNodes_steady s centered rest)

/-- Nor does it for the content of a heading. -/
theorem draftHeading_steady (s : Settings) (centered : Bool) :
    ∀ nodes, (draftHeading s centered nodes).Steady Fragment.isBlank
  | [] => by
      rw [draftHeading.eq_def]
      exact .of _
  | node :: rest => by
      have later := draftHeading_steady s centered rest
      rw [draftHeading.eq_def]
      simp only
      split
      · exact later
      · exact (draftNode_steady s centered node).append later

/-- Nor does it for the items of a list. -/
theorem draftItems_steady (s : Settings) (centered : Bool) (kind : ListKind) (number : Nat) :
    ∀ nodes, (draftItems s centered kind number nodes).Steady Fragment.isBlank
  | [] => by
      rw [draftItems.eq_def]
      exact .of _
  | node :: rest => by
      have later := fun number => draftItems_steady s centered kind number rest
      rw [draftItems.eq_def]
      simp only
      split
      · have item : ∀ content : Fragment, (kind.item number content).closed.isBlank = false :=
          fun content => Fragment.isBlank_eq_false <| by
            rw [Fragment.ink_closed]
            exact kind.ink_item_ne_nil content number
        exact (Draft.Steady.map_always item).append (later _)
      · split
        · have content := draftNode_steady s centered node
          have nested := content.map fun f : Fragment =>
            (Fragment.isBlank_of_ink (kind.nested f).ink_closed).trans (kind.isBlank_nested f)
          exact nested.append (later number)
        · exact later number

/-- Whether a table has rows does not depend on the answers. -/
theorem draftRows_steady (s : Settings) (centered grouped : Bool) :
    ∀ nodes, (draftRows s centered grouped nodes).Steady List.isEmpty
  | [] => by
      rw [draftRows.eq_def]
      exact .of _
  | .element _ _ _ children :: rest => by
      have later := draftRows_steady s centered grouped rest
      rw [draftRows.eq_def]
      simp only
      split
      · exact .always fun _ => rfl
      · split
        · have group := draftRows_steady s centered true children
          have both : ∀ rows others : List Table.Row,
              (rows ++ others).isEmpty = (rows.isEmpty && others.isEmpty) := by
            intro rows others
            cases rows <;> rfl
          exact group.combine later both
        · exact later
  | .text _ :: rest | .comment _ :: rest | .doctype _ :: rest | .instruction _ _ :: rest
  | .document _ :: rest => by
      rw [draftRows.eq_def]
      exact draftRows_steady s centered grouped rest

end

end ArticleMarkdown
