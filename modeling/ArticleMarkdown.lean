import ArticleMarkdown.Fragment.Lines
import ArticleMarkdown.Http.Client
import ArticleMarkdown.Main
import ArticleMarkdown.Proofs.Asset.Plan
import ArticleMarkdown.Proofs.Asset.Account
import ArticleMarkdown.Proofs.Asset.Backing
import ArticleMarkdown.Proofs.Asset.Serving
import ArticleMarkdown.Proofs.Asset.Traffic
import ArticleMarkdown.Proofs.Asset.Naming
import ArticleMarkdown.Proofs.Asset.Turns
import ArticleMarkdown.Proofs.Article.Abort
import ArticleMarkdown.Proofs.Asset.Outlook
import ArticleMarkdown.Proofs.Asset.Separation
import ArticleMarkdown.Proofs.Asset.Rounds
import ArticleMarkdown.Proofs.Markdown.Requests
import ArticleMarkdown.Proofs.Article.Schedule
import ArticleMarkdown.Proofs.Asset.Collision
import ArticleMarkdown.Proofs.Asset.SafeName
import ArticleMarkdown.Proofs.Markdown.Visible
import ArticleMarkdown.Proofs.Markdown.Words
import ArticleMarkdown.Proofs.Cli.Inside
import ArticleMarkdown.Proofs.Asset.Answer
import ArticleMarkdown.Proofs.Article.Contract
import ArticleMarkdown.Proofs.Article.Deferral
import ArticleMarkdown.Proofs.Cli.Documents
import ArticleMarkdown.Proofs.Markdown.Mentions
import ArticleMarkdown.Proofs.Fragment.Blocks
import ArticleMarkdown.Proofs.Markdown.Discarded
import ArticleMarkdown.Proofs.Article.Mark
import ArticleMarkdown.Proofs.Fragment.Marking
import ArticleMarkdown.Proofs.Markdown.Outline
import ArticleMarkdown.Proofs.Asset.Sequence
import ArticleMarkdown.Proofs.Markdown.Columns
import ArticleMarkdown.Proofs.Markdown.LinkReading
import ArticleMarkdown.Proofs.Markdown.Grid
import ArticleMarkdown.Proofs.Text.Runs
import ArticleMarkdown.Proofs.Fragment.Flat
import ArticleMarkdown.Proofs.Markdown.Runs
import ArticleMarkdown.Proofs.Text.Anchored
import ArticleMarkdown.Proofs.Markdown.Anchored
import ArticleMarkdown.Proofs.Markdown.Enclosure
import ArticleMarkdown.Proofs.Fragment.Apart
import ArticleMarkdown.Proofs.Markdown.CodeSpans
import ArticleMarkdown.Proofs.Markdown.CodeBlocks
import ArticleMarkdown.Proofs.Markdown.FileReferences
import ArticleMarkdown.Proofs.Markup.BlankLines
import ArticleMarkdown.Proofs.Markdown.RawMarkup
import ArticleMarkdown.Proofs.Http.Attempts
import ArticleMarkdown.Proofs.Asset.Delivery
import ArticleMarkdown.Proofs.Json.Value
import ArticleMarkdown.Proofs.Settings.RoundTrip
import ArticleMarkdown.Proofs.Markdown.Notes
import ArticleMarkdown.Proofs.Markdown.Emphasis
import ArticleMarkdown.Proofs.Markdown.Headings
import ArticleMarkdown.Proofs.Markdown.Formulas
import ArticleMarkdown.Proofs.Markdown.Hanging
import ArticleMarkdown.Proofs.Fragment.Settled
import ArticleMarkdown.Proofs.Markdown.Formatted
import ArticleMarkdown.Proofs.Url.Address
