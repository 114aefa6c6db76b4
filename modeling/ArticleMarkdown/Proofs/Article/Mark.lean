import ArticleMarkdown.Proofs.Article.Contract
import ArticleMarkdown.Proofs.Asset.Contents
import ArticleMarkdown.Proofs.Markdown.Revealed

/-!
# Where the mark of centred images gets out

The mark is meant for the walk over a document alone. It gets out where the markup of an element
that stands within a centring one is passed through, or stored as a drawing, with an image in it;
and nowhere else, unless a file has the mark in its path or in what is fetched for it.
-/

namespace ArticleMarkdown

open Asset Node

/-- A file that is made holds a text. -/
def Asset.Payload.Mentions (p : Text) : Payload → Prop
  | .bytes body => Text.utf8 p <:+: body
  | .text markup => p <:+: markup
  | .pending address => p <:+: address

instance (p : Text) : (payload : Payload) → Decidable (payload.Mentions p)
  | .bytes body => inferInstanceAs (Decidable (Text.utf8 p <:+: body))
  | .text markup => inferInstanceAs (Decidable (p <:+: markup))
  | .pending address => inferInstanceAs (Decidable (p <:+: address))

private theorem Image.eq_of_mem_requests {s : Settings} {centered : Bool}
    {attributes : List Attribute}
    {request : Request} (member : request ∈ (Image.draft s centered attributes).requests) :
    request = .image (Text.trim (Attribute.valueOf attributes "src")) s.assetDirectory
      s.assetPrefix := by
  revert member
  unfold Image.draft
  simp only
  split
  · exact nofun
  split
  · exact nofun
  rw [Draft.map]
  split
  · exact List.mem_singleton.mp
  · exact nofun

private theorem Drawing.eq_of_mem_requests {s : Settings} {space : ElementSpace} {name : String}
    {attributes : List Attribute} {children : List Node} {request : Request}
    (member : request ∈ (Drawing.draft s space name attributes children).requests) :
    request = .drawing (markup space name attributes children) s.assetDirectory s.assetPrefix := by
  revert member
  unfold Drawing.draft
  simp only
  split
  · exact nofun
  split
  · exact List.mem_singleton.mp
  split <;> exact nofun

namespace Node

/-- What a node asks for: the image at its address, or the file of its markup, which shows the mark
exactly if the node stands within a centring element and holds an image. -/
theorem ownRequests_cases {s : Settings} {within : Bool} {inner : Node} {request : Request}
    (unmentioned : Unmentioned markText [inner]) (own : request ∈ inner.ownRequests s within) :
    (∃ address, request = .image address s.assetDirectory s.assetPrefix ∧
        ¬markText <:+: Text.trim address) ∨
      ∃ markup, request = .drawing markup s.assetDirectory s.assetPrefix ∧
        (markText <:+: Text.trim markup ↔ within = true ∧ showsImage false inner = true) := by
  cases inner with
  | text | comment | doctype | instruction | document => cases own
  | element space name attributes children =>
      rw [ownRequests.eq_def] at own
      simp only at own
      split at own
      · have address := unmentioned.valueOf Text.solid_markText.filled "src"
        refine .inl ⟨_, Image.eq_of_mem_requests own, ?_⟩
        exact Text.not_infix_trim (Text.not_infix_trim address)
      · next drawing =>
        have noImage : Attribute.sameName name "img" = false := by
          rw [Rule.name_of_drawing drawing]
          decide
        refine .inr ⟨_, Drawing.eq_of_mem_requests own, ?_⟩
        rw [← Drawing.infix_markup_iff unmentioned noImage within]
        exact ⟨fun held => held.trans (Text.infix_trim _),
          Text.solid_markText.infix_of_frames (Text.frames_trim _)⟩
      · cases own

/-- A file that is made for a request of a node holds the mark exactly if it is such a drawing, or
an image that was fetched with the mark in it. -/
theorem mentions_stored_iff {s : Settings} {fetcher : Option Fetcher} {within : Bool} {inner : Node}
    {request : Request} {payload : Payload} (unmentioned : Unmentioned markText [inner])
    (own : request ∈ inner.ownRequests s within) (stores : request.Stores fetcher payload) :
    payload.Mentions markText ↔
      (∃ markup, request = .drawing markup s.assetDirectory s.assetPrefix ∧
        payload = .text (Text.trim markup) ∧ within = true ∧ showsImage false inner = true) ∨
      ∃ address image, Fetcher.outcome? fetcher address = some (.ok image) ∧
        payload = .bytes image.body ∧ Text.utf8 markText <:+: image.body := by
  rcases ownRequests_cases unmentioned own with ⟨address, rfl, clear⟩ | ⟨markup, rfl, shows⟩
  · cases stores with
    | address =>
        refine iff_of_false clear ?_
        rintro (⟨_, drawing, -⟩ | ⟨_, _, _, bytes, -⟩)
        · cases drawing
        · cases bytes
    | image brings =>
        constructor
        · exact fun held => .inr ⟨_, _, brings, rfl, held⟩
        · rintro (⟨_, drawing, -⟩ | ⟨_, image, _, bytes, held⟩)
          · cases drawing
          · rwa [bytes]
  · cases stores
    refine shows.trans ⟨fun image => .inl ⟨markup, rfl, rfl, image⟩, ?_⟩
    rintro (⟨_, -, -, image⟩ | ⟨_, _, _, bytes, -⟩)
    · exact image
    · cases bytes

end Node

namespace Article

variable {s : Settings} {children : List Node}

/-- Whatever document is converted in which the mark occurs nowhere, with whatever settings, store
and fetcher. If the conversion succeeds, then its Markdown shows the mark exactly if the walk over
the document reaches an element within a centring one whose markup is passed through with an image,
or if the path of a file holds the mark. And whether it succeeds or not, a file that it adds to the
store holds the mark exactly if it is such a drawing, or an image that was fetched with the mark in
it. -/
theorem mark_gets_out_iff (fetcher : Option Fetcher) (store : Store)
    (unmentioned : Unmentioned markText children) :
    (∀ after markdown, convertNodes fetcher s store children = (after, .ok markdown) →
      ∃ paths, store.answerAll fetcher (draftDocument s children).requests = (after, .ok paths) ∧
        (markText <:+: markdown ↔
          (∃ within inner, Reached s false children within inner ∧ inner.leaks s within = true) ∨
            ∃ path ∈ paths, markText <:+: path)) ∧
    ∃ added, (convertNodes fetcher s store children).1.sink.entries = store.sink.entries ++ added ∧
      ∀ entry ∈ added, entry.payload.Mentions markText ↔
        (∃ inner markup, Reached s false children true inner ∧ showsImage false inner = true ∧
          .drawing markup s.assetDirectory s.assetPrefix ∈ inner.ownRequests s true ∧
            entry.payload = .text (Text.trim markup)) ∨
        ∃ address image, Fetcher.outcome? fetcher address = some (.ok image) ∧
          entry.payload = .bytes image.body ∧ Text.utf8 markText <:+: image.body := by
  have tracks := draftDocument_reveals s unmentioned
  refine ⟨fun after markdown converts => ?_, ?_⟩
  · obtain ⟨paths, answers, rfl⟩ := answers_of_convertNodes converts
    obtain ⟨_, adds⟩ := Store.answerAll_adds (documentRequests_proper s children)
      (congrArg Prod.snd answers)
    refine ⟨paths, answers, ?_, tracks.shows paths adds.length⟩
    exact not_imp_not.mp (tracks.hides paths adds.length)
  · rw [convertNodes_store]
    obtain ⟨added, entries, made⟩ :=
      store.gains_answerAll fetcher (draftDocument s children).requests
    refine ⟨added, entries, fun entry member => ?_⟩
    obtain ⟨request, asked, stores⟩ := made entry member
    obtain ⟨within, inner, reached, own⟩ := tracks.asked request asked
    have part := unmentioned.of_reached reached
    have here := mentions_stored_iff part own stores
    constructor
    · intro held
      refine (here.mp held).imp_left ?_
      rintro ⟨markup, rfl, drawn, rfl, image⟩
      exact ⟨inner, markup, reached, image, own, drawn⟩
    · rintro (⟨other, markup, reached', image, own', drawn⟩ | fetched)
      · have stored : (Request.drawing markup s.assetDirectory s.assetPrefix).Stores fetcher
            entry.payload := by
          rw [drawn]
          exact .markup markup _ _
        have there := mentions_stored_iff (unmentioned.of_reached reached') own' stored
        exact there.mpr (.inl ⟨markup, rfl, drawn, rfl, image⟩)
      · exact here.mpr (.inr fetched)

/-- A centring paragraph whose image stands in an element that is passed through. -/
def centredKey : List Node :=
  [.element .html "p" [⟨.none, "class", "img-center".toList⟩]
    [.element .html "kbd" [] [.element .html "img" [⟨.none, "src", "a.png".toList⟩] []]]]

/-- The mark gets out of a document in which it occurs nowhere. -/
theorem centredKey_shows_mark :
    Unmentioned markText centredKey ∧
      ∃ markdown, (convertNodes none {} {} centredKey).2 = .ok markdown ∧ markText <:+: markdown :=
  ⟨by decide +kernel, "<kbd><img src=\"a.png\" data-md-center=\"true\"></kbd>\n\n".toList,
    by decide +kernel, by decide +kernel⟩

/-- Two drawings with an image in them, of which one stands within a centring element. -/
def twoDrawings : List Node :=
  let image := Node.element .html "img" [⟨.none, "src", "a.png".toList⟩] []
  let drawing := Node.element .svg "svg" [] [.element .svg "foreignObject" [] [image]]
  [.element .html "center" [] [.element .html "b" [] [.text "data-md".toList], drawing],
    .element .html "p" [] [drawing]]

/-- Settings under which images and drawings become files. -/
def localizing : Settings := { localizeAssets := true }

/-- When the drawings become files, one of them holds the mark; the Markdown does not show it. -/
theorem mark_gets_out_iff_twoDrawings :
    Unmentioned markText twoDrawings ∧
    (∀ within inner, Reached localizing false twoDrawings within inner →
      inner.leaks localizing within = false) ∧
    (∃ entry ∈ (convertNodes none localizing {} twoDrawings).1.sink.entries,
      ¬entry.payload.Mentions markText) ∧
    (∃ entry ∈ (convertNodes none localizing {} twoDrawings).1.sink.entries,
      entry.payload.Mentions markText) ∧
    ∃ inner, Reached localizing false twoDrawings true inner ∧ showsImage false inner = true := by
  have unmentioned : Unmentioned markText twoDrawings := by decide +kernel
  obtain ⟨shows, added, entries, holds⟩ := mark_gets_out_iff (s := localizing) none {} unmentioned
  have clear : (convertNodes none localizing {} twoDrawings).2 =
      .ok "**data-md**\n\n![](assets/1.svg)\n\n![](assets/2.svg)\n\n".toList := by decide +kernel
  have shown : ∃ entry ∈ (convertNodes none localizing {} twoDrawings).1.sink.entries,
      entry.payload.Mentions markText := by decide +kernel
  refine ⟨unmentioned, fun within inner reached => ?_, by decide +kernel, shown, ?_⟩
  · obtain ⟨paths, -, same⟩ := shows _ _ (Prod.ext rfl clear)
    refine Bool.eq_false_iff.mpr fun leaks => ?_
    have held := same.mpr (.inl ⟨within, inner, reached, leaks⟩)
    exact absurd held (by decide +kernel)
  · obtain ⟨entry, member, held⟩ := shown
    rw [entries] at member
    rcases (holds entry member).mp held with ⟨inner, _, reached, image, -⟩ | ⟨_, _, fetched, -⟩
    · exact ⟨inner, reached, image⟩
    · cases fetched

end Article
end ArticleMarkdown
