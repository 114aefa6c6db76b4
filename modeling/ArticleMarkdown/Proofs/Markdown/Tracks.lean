import ArticleMarkdown.Proofs.Markdown.Mentions
import ArticleMarkdown.Proofs.Markdown.Reach
import ArticleMarkdown.Proofs.Markdown.Requests
import ArticleMarkdown.Proofs.Markdown.Wraps

/-!
# Where the mark of centred images shows up

In the draft of a document that does not mention the mark, the mark shows up exactly if a node that
the walk reaches leaks it, or a path that the draft is filled with holds it
(`draftDocument_tracks`). Both directions go through the document together: where nothing leaks,
one has to know of each piece that it cannot be completed to the mark by what stands around it.
-/

namespace ArticleMarkdown

open Node Text

/-- A reached node leaks the mark, or a path holds it. -/
def Node.Leaks (s : Settings) (reached : Bool → Node → Prop) (paths : List Text) : Prop :=
  (∃ within inner, reached within inner ∧ inner.leaks s within = true) ∨
    ∃ path ∈ paths, markText <:+: path

/-- What a draft asks for is asked for by the nodes that are reached. What it is filled with shows
the mark if it is leaked, and is clear of it otherwise. -/
structure Draft.Tracks (s : Settings) (reached : Bool → Node → Prop) (found clear : α → Prop)
    (draft : Draft α) : Prop where
  asked : ∀ request ∈ draft.requests, ∃ within inner,
    reached within inner ∧ request ∈ inner.ownRequests s within
  shows : ∀ paths : List Text, paths.length = draft.requests.length →
    Leaks s reached paths → found (draft.fill paths)
  hides : ∀ paths : List Text, paths.length = draft.requests.length →
    ¬Leaks s reached paths → clear (draft.fill paths)

/-- The draft of a fragment shows the mark exactly if it is leaked; else its text is covered by the
text nodes of given nodes. -/
abbrev Draft.Reveals (s : Settings) (reached : Bool → Node → Prop) (nodes : List Node)
    (draft : Draft Fragment) : Prop :=
  draft.Tracks s reached (fun f => f.Mentions markText) fun f =>
    Covered markText (texts nodes) f.spread

namespace Draft.Tracks

variable {s : Settings} {reached reached' reached'' : Bool → Node → Prop} {α β γ : Type}
  {found clear : α → Prop} {found' clear' : β → Prop} {found'' clear'' : γ → Prop}

/-- What is done with the result has to pass on the mark, and the lack of it. -/
theorem map {draft : Draft α} (tracks : draft.Tracks s reached found clear) {f : α → β}
    (keeps : ∀ {a}, found a → found' (f a)) (hides : ∀ {a}, clear a → clear' (f a)) :
    (draft.map f).Tracks s reached found' clear' where
  asked := tracks.asked
  shows paths length leaks := keeps (tracks.shows paths length leaks)
  hides paths length sealed := hides (tracks.hides paths length sealed)

/-- Two drafts read their own parts of the paths. -/
theorem combine {first : Draft α} {second : Draft β} (tracks : first.Tracks s reached found clear)
    (tracks' : second.Tracks s reached' found' clear')
    (either : ∀ {within inner}, reached'' within inner ↔
      reached within inner ∨ reached' within inner)
    {f : α → β → γ} (keeps : ∀ {a b}, found a → found'' (f a b))
    (keeps' : ∀ {a b}, found' b → found'' (f a b))
    (hides : ∀ {a b}, clear a → clear' b → clear'' (f a b)) :
    (Draft.combine f first second).Tracks s reached'' found'' clear'' := by
  have lengths : ∀ paths : List Text,
      paths.length = (Draft.combine f first second).requests.length →
      (paths.take first.requests.length).length = first.requests.length ∧
        (paths.drop first.requests.length).length = second.requests.length := by
    intro paths length
    rw [Draft.combine, List.length_append] at length
    rw [List.length_take, List.length_drop]
    omega
  have parts : ∀ paths : List Text, Leaks s reached'' paths ↔
      Leaks s reached (paths.take first.requests.length) ∨
        Leaks s reached' (paths.drop first.requests.length) := by
    intro paths
    have members : (∃ path ∈ paths, markText <:+: path) ↔
        (∃ path ∈ paths.take first.requests.length, markText <:+: path) ∨
          ∃ path ∈ paths.drop first.requests.length, markText <:+: path := by
      conv_lhs => rw [← List.take_append_drop first.requests.length paths]
      simp only [List.mem_append, or_and_right, exists_or]
    simp only [Leaks, members, either, or_and_right, exists_or]
    exact or_or_or_comm
  constructor
  · intro request member
    rcases List.mem_append.mp member with early | late
    · obtain ⟨within, inner, reaches, own⟩ := tracks.asked request early
      exact ⟨within, inner, either.mpr (.inl reaches), own⟩
    · obtain ⟨within, inner, reaches, own⟩ := tracks'.asked request late
      exact ⟨within, inner, either.mpr (.inr reaches), own⟩
  · intro paths length leaks
    obtain ⟨early, late⟩ := lengths paths length
    rcases (parts paths).mp leaks with leaks | leaks
    · exact keeps (tracks.shows _ early leaks)
    · exact keeps' (tracks'.shows _ late leaks)
  · intro paths length sealed
    obtain ⟨early, late⟩ := lengths paths length
    rw [parts, not_or] at sealed
    exact hides (tracks.hides _ early sealed.1) (tracks'.hides _ late sealed.2)

/-- A result that waits for no path, where nothing leaks the mark. -/
theorem of {a : α} (clear' : clear a)
    (silent : ∀ {within inner}, reached within inner → inner.leaks s within = false) :
    (Draft.of a).Tracks s reached found clear where
  asked := nofun
  shows paths length leaks := by
    rcases leaks with ⟨within, inner, reaches, leak⟩ | ⟨path, member, -⟩
    · rw [silent reaches] at leak
      cases leak
    · rw [List.length_eq_zero_iff.mp length] at member
      cases member
  hides _ _ _ := clear'

/-- Fragments one after another show the mark if either does. -/
theorem append {first second : Draft Fragment} {nodes others : List Node}
    (reveals : first.Reveals s reached nodes) (reveals' : second.Reveals s reached' others)
    (either : ∀ {within inner}, reached'' within inner ↔
      reached within inner ∨ reached' within inner) :
    (first.append second).Tracks s reached'' (fun f => f.Mentions markText) fun f =>
      Covered markText (texts nodes ++ texts others) f.spread := by
  refine combine reveals reveals' either (fun held => held.append_left _)
    (fun held => held.append_right _) fun covered covered' => ?_
  rw [Fragment.spread_append]
  exact covered.append covered'

/-- The same holds where the same is leaked and asked for. -/
theorem exchange {s' : Settings} {draft : Draft α} (tracks : draft.Tracks s reached found clear)
    (own : ∀ {within inner request}, reached within inner →
      request ∈ inner.ownRequests s within →
        ∃ within inner, reached' within inner ∧ request ∈ inner.ownRequests s' within)
    (same : (∃ within inner, reached' within inner ∧ inner.leaks s' within = true) ↔
      ∃ within inner, reached within inner ∧ inner.leaks s within = true) :
    draft.Tracks s' reached' found clear where
  asked request member := by
    obtain ⟨within, inner, reaches, asked⟩ := tracks.asked request member
    exact own reaches asked
  shows paths length leaks := tracks.shows paths length (leaks.imp_left same.mp)
  hides paths length sealed := tracks.hides paths length (mt (Or.imp_left same.mpr) sealed)

/-- A node that shows no markup leaks nothing but what the nodes that it converts leak. -/
theorem onward {draft : Draft α} {centered : Bool} {node : Node}
    (tracks : draft.Tracks s (Reached s (node.centers s centered) (node.converted s)) found clear)
    (silent : node.showsMarkup s = false) :
    draft.Tracks s (Reached s centered [node]) found clear := by
  refine tracks.exchange (fun below own => ⟨_, _, reached_singleton.mpr (.inr below), own⟩) ?_
  constructor
  · rintro ⟨within, inner, reaches, leak⟩
    rcases reached_singleton.mp reaches with ⟨rfl, rfl⟩ | below
    · rw [leaks, silent, Bool.and_false, Bool.false_and] at leak
      cases leak
    · exact ⟨within, inner, below, leak⟩
  · rintro ⟨within, inner, below, leak⟩
    exact ⟨within, inner, reached_singleton.mpr (.inr below), leak⟩

/-- The depth of lists plays no part in what is leaked. -/
theorem of_descend {draft : Draft α} {centered : Bool} {nodes : List Node}
    (tracks : draft.Tracks s.descend (Reached s.descend centered nodes) found clear) :
    draft.Tracks s (Reached s centered nodes) found clear := by
  have leaks' : ∀ (inner : Node) within, inner.leaks s.descend within = inner.leaks s within :=
    fun inner within => by cases inner <;> rfl
  have own' : ∀ (inner : Node) within,
      inner.ownRequests s.descend within = inner.ownRequests s within :=
    fun inner within => by cases inner <;> rfl
  refine tracks.exchange (fun reaches asked => ?_) ?_
  · rw [own'] at asked
    exact ⟨_, _, reached_descend.mp reaches, asked⟩
  · simp only [reached_descend, leaks']

end Draft.Tracks

/-- The mark is spelled with the characters of plain paths. -/
theorem Text.plainPath_markText : Text.PlainPath markText :=
  ⟨by decide, List.all_eq_true.mp (by decide)⟩

section Leaves

variable {s : Settings} {centered : Bool} {space : ElementSpace} {name : String}
  {attributes : List Attribute} {children : List Node}

/-- A node that converts none and is alone reached. -/
theorem Draft.Tracks.alone {found clear : α → Prop} {draft : Draft α} {node : Node}
    (none : node.converted s = []) (own : draft.requests ⊆ node.ownRequests s centered)
    (shows : ∀ paths : List Text, paths.length = draft.requests.length →
      (node.leaks s centered = true ∨ ∃ path ∈ paths, markText <:+: path) →
        found (draft.fill paths))
    (hides : ∀ paths : List Text, paths.length = draft.requests.length →
      node.leaks s centered = false → (∀ path ∈ paths, ¬markText <:+: path) →
        clear (draft.fill paths)) :
    draft.Tracks s (Reached s centered [node]) found clear := by
  have only : ∀ {within inner}, Reached s centered [node] within inner ↔
      within = centered ∧ inner = node := by
    intro within inner
    rw [reached_singleton, none]
    exact or_iff_left reached_nil
  constructor
  · exact fun request member => ⟨centered, node, only.mpr ⟨rfl, rfl⟩, own member⟩
  · intro paths length leaks
    refine shows paths length (leaks.imp_left ?_)
    rintro ⟨within, inner, reaches, leak⟩
    obtain ⟨rfl, rfl⟩ := only.mp reaches
    exact leak
  · intro paths length sealed
    obtain ⟨silent, clear'⟩ := not_or.mp sealed
    refine hides paths length (Bool.eq_false_iff.mpr fun leak => silent ?_)
      fun path member held => ?_
    · exact ⟨centered, node, only.mpr ⟨rfl, rfl⟩, leak⟩
    · exact clear' ⟨path, member, held⟩

/-- A quiet fragment for a node from which nothing is reached. -/
theorem Draft.Tracks.quiet {f : Fragment} {node : Node} {nodes : List Node}
    (none : node.converted s = []) (silent : node.showsMarkup s = false) (quiet : f.Quiet) :
    (Draft.of f).Reveals s (Reached s centered [node]) nodes := by
  refine .onward (.of (quiet.covered _) ?_) silent
  rw [none]
  exact fun reaches => absurd reaches reached_nil

/-- The path that a node asks for shows the mark if it holds the mark. -/
theorem Draft.Tracks.path {node : Node} {request : Asset.Request} (none : node.converted s = [])
    (own : [request] ⊆ node.ownRequests s centered) (silent : node.showsMarkup s = false) :
    (Draft.path request).Tracks s (Reached s centered [node]) (markText <:+: ·)
      (¬markText <:+: ·) := by
  have quiet : node.leaks s centered = false := by
    rw [leaks, silent, Bool.and_false, Bool.false_and]
  refine .alone none own (fun paths single leaks => ?_) fun paths single _ clear => ?_
  · obtain ⟨path, rfl⟩ := List.length_eq_one_iff.mp single
    rw [quiet] at leaks
    simpa [Draft.path] using leaks
  · obtain ⟨path, rfl⟩ := List.length_eq_one_iff.mp single
    exact clear path (List.mem_singleton_self path)

/-- An image shows the mark exactly if its path holds it. -/
theorem Image.draft_reveals (image : Rule.ofName name = .image)
    (unmentioned : Unmentioned markText [.element space name attributes children]) :
    (Image.draft s centered attributes).Reveals s
      (Reached s centered [.element space name attributes children])
      [.element space name attributes children] := by
  have none : (Node.element space name attributes children).converted s = [] := by
    simp only [converted, image]
  have silent : (Node.element space name attributes children).showsMarkup s = false := by
    simp only [showsMarkup, image]
  have quiet : (Node.element space name attributes children).leaks s centered = false := by
    rw [leaks, silent, Bool.and_false, Bool.false_and]
  have own : (Image.draft s centered attributes).requests ⊆
      (Node.element space name attributes children).ownRequests s centered := by
    simp only [ownRequests, image]
    exact List.Subset.refl _
  have alt : ¬markText <:+: trim (Attribute.valueOf attributes "alt") :=
    not_infix_trim (unmentioned.valueOf solid_markText.filled "alt")
  have address : ¬markText <:+: trim (Attribute.valueOf attributes "src") :=
    not_infix_trim (unmentioned.valueOf solid_markText.filled "src")
  revert own
  unfold Image.draft
  simp only
  split
  · intro _
    refine .quiet none silent ?_
    split
    · exact .empty
    · exact quiet_displayFormula alt
  split
  · exact fun _ => .quiet none silent .empty
  intro own
  have source : ∀ (draft : Draft Text) request,
      draft = .path request ∨ draft = .of (trim (Attribute.valueOf attributes "src")) →
      draft.requests ⊆ (Node.element space name attributes children).ownRequests s centered →
        draft.Tracks s (Reached s centered [.element space name attributes children])
          (markText <:+: ·) (¬markText <:+: ·) := by
    rintro draft request (rfl | rfl) own
    · exact .path none own silent
    · refine .alone none (List.nil_subset _) (fun paths length leaks => ?_) fun _ _ _ _ => address
      rw [List.length_eq_zero_iff.mp length, quiet] at leaks
      simp at leaks
  have length := not_infix_length s attributes
  refine (source _ _ (ite_eq_or_eq _ _ _) own).map (fun held => ?_) fun clear => ?_
  · have shown := plainPath_markText.infix_markdown held
    exact ((Fragment.Mentions.ofText (shown _ _ _)).append_right _).append_left _
  · have severs := severs_markdown clear alt (length "width") (length "height")
    exact (quiet_placed _ severs.clear).covered _

/-- A drawing shows the mark exactly if it leaks it, or the path of its file holds it. -/
theorem Drawing.draft_reveals (drawing : Rule.ofName name = .drawing)
    (unmentioned : Unmentioned markText [.element space name attributes children]) :
    (Drawing.draft s space name attributes (allShown centered children)).Reveals s
      (Reached s centered [.element space name attributes children])
      [.element space name attributes children] := by
  have none : (Node.element space name attributes children).converted s = [] := by
    simp only [converted, drawing]
  have own : (Drawing.draft s space name attributes (allShown centered children)).requests ⊆
      (Node.element space name attributes children).ownRequests s centered := by
    simp only [ownRequests, drawing]
    exact List.Subset.refl _
  have noImage : Attribute.sameName name "img" = false := by
    rw [Rule.name_of_drawing drawing]
    decide
  have marked := infix_markup_iff unmentioned noImage centered
  have shows : (Node.element space name attributes children).showsMarkup s =
      (!isHidden attributes && !s.localizeAssets &&
        !(subtrees children).any (isElement "style")) := by
    simp only [showsMarkup, drawing]
  revert own
  unfold Drawing.draft
  simp only [any_isElement_allShown]
  split
  · next hidden => exact fun _ => .quiet none (by rw [shows, hidden]; rfl) .empty
  next visible =>
  split
  · next localized =>
    have silent : (Node.element space name attributes children).showsMarkup s = false := by
      rw [shows, localized, Bool.not_true, Bool.and_false, Bool.false_and]
    exact fun own => (Draft.Tracks.path none own silent).map mentions_fileReference
      fun clear => (quiet_fileReference clear).covered _
  next stays =>
  split
  · next styled =>
    refine fun _ => .quiet none ?_ (quiet_embedded _)
    rw [shows, styled, Bool.not_true, Bool.and_false]
  · next plain =>
    intro own
    have leaks' : (Node.element space name attributes children).leaks s centered = true ↔
        markText <:+: markup space name attributes (allShown centered children) := by
      rw [marked, leaks, shows, Bool.eq_false_iff.mpr visible, Bool.eq_false_iff.mpr stays,
        Bool.eq_false_iff.mpr plain]
      simp
    refine .alone none own (fun paths length leak => ?_) fun paths length silent _ => ?_
    · rcases leak with leak | ⟨path, member, -⟩
      · exact mentions_inPlace (leaks'.mp leak)
      · rw [List.length_eq_zero_iff.mp length] at member
        cases member
    · refine (quiet_inPlace fun held => ?_).covered _
      rw [leaks'.mpr held] at silent
      cases silent

/-- Raw markup shows the mark exactly if it leaks it. -/
theorem Raw.draft_reveals {placement : Raw.Placement} (raw : Rule.ofName name = .raw placement)
    (unmentioned : Unmentioned markText [.element space name attributes children]) :
    (Draft.of (fragment placement
        (shown centered (.element space name attributes children)))).Reveals
      s (Reached s centered [.element space name attributes children])
      [.element space name attributes children] := by
  have none : (Node.element space name attributes children).converted s = [] := by
    simp only [converted, raw]
  have leaks' : (Node.element space name attributes children).leaks s centered = true ↔
      markText <:+: Markup.outer (shown centered (.element space name attributes children)) := by
    rw [unmentioned.infix_outer_shown centered, leaks]
    simp [showsMarkup, raw]
  refine .alone none (List.nil_subset _) (fun paths length leak => ?_)
    fun paths length silent _ => ?_
  · rcases leak with leak | ⟨path, member, -⟩
    · exact mentions_fragment placement (leaks'.mp leak)
    · rw [List.length_eq_zero_iff.mp length] at member
      cases member
  · refine (quiet_fragment placement fun held => ?_).covered _
    rw [leaks'.mpr held] at silent
    cases silent

end Leaves
end ArticleMarkdown
