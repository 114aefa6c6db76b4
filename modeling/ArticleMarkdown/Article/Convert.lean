import ArticleMarkdown.Asset.Store
import ArticleMarkdown.Html.Read
import ArticleMarkdown.Markdown.Convert

/-!
# Converting articles

A document is converted with a store: the store answers the requests of the document's draft in
order, and the answers complete the draft.
-/

namespace ArticleMarkdown.Article

/-- Why an article is not converted. -/
inductive Fault where
  | asset (fault : Asset.Fault)
  | noBody
  deriving DecidableEq, Repr

/-- The text of a fault. -/
def Fault.message : Fault → Text
  | .asset fault => "Asset localization failed: ".toList ++ fault.message
  | .noBody => "Failed to parse article HTML: document has no <body>".toList

/-- Completes a draft with the answers of a store. -/
def complete (fetcher : Option Asset.Fetcher) (store : Asset.Store) (draft : Draft α) :
    Asset.Store × Except Fault α :=
  match store.answerAll fetcher draft.requests with
  | (store, .ok paths) => (store, .ok (draft.fill paths))
  | (store, .error fault) => (store, .error (.asset fault))

/-- Converts the children of a root node. -/
def convertNodes (fetcher : Option Asset.Fetcher) (s : Settings) (store : Asset.Store)
    (children : List Node) : Asset.Store × Except Fault Text :=
  complete fetcher store (draftDocument s children)

/-- The id of the element that holds the article in a full page. -/
def contentId : Text := "content_views".toList

/-- The node of a document that holds the article: in its body the first element with the id of
articles, else the body. -/
def root? (document : Node) : Option Node :=
  (document.descendants.find? (Node.isElement "body")).map fun body =>
    (body.descendants.find? fun node =>
      Attribute.find? node.attributes "id" == some contentId).getD body

/-- The draft of the article in a document. -/
def draft? (s : Settings) (document : Node) : Option (Draft Text) :=
  (root? document).map fun root => draftDocument s root.children

/-- Converts the article that markup holds. -/
def convertMarkup (fetcher : Option Asset.Fetcher) (s : Settings) (store : Asset.Store)
    (markup : Text) : Asset.Store × Except Fault Text :=
  match draft? s (Html.read markup) with
  | some draft => complete fetcher store draft
  | none => (store, .error .noBody)

end ArticleMarkdown.Article
