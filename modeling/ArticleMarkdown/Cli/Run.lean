import ArticleMarkdown.Article.Merge
import ArticleMarkdown.Asset.Delivery
import ArticleMarkdown.Asset.Owner
import ArticleMarkdown.Cli.Options
import ArticleMarkdown.Settings.Json

/-!
# The command

The command reads articles from files, converts them, and writes the documents and their assets to
a folder. What it does is a function of the files and of its arguments. The first step that fails
ends the run; files written before stay.
-/

namespace ArticleMarkdown.Cli

/-- The outcome of a run. -/
structure Report where
  /-- Zero for success, one for a failed step, two for arguments that cannot be read. -/
  code : Nat
  output : Text := []
  /-- Which step failed. -/
  complaint : Option Text := none
  folder : Folder
  deriving Repr

/-- The name and number of this version. -/
def versionText : Text :=
  "article2md 0.10.12\n".toList

/-- The text that explains the arguments. -/
def helpText : Text :=
  Text.join ['\n'] (["Convert article HTML to Markdown",
    "",
    "Usage: article2md [OPTIONS] <INPUT>...",
    "",
    "Arguments:",
    "  <INPUT>...  Article HTML files (full pages or the article body)",
    "",
    "Options:",
    "  -o, --output <DIR>   Output directory for Markdown and assets [default: .]",
    "  -c, --config <FILE>  JSON settings file (camelCase keys, all optional)",
    "  -m, --merge <NAME>   Merge all inputs into one document with this name",
    "      --offline        Do not download remote images",
    "  -h, --help           Print help",
    "  -V, --version        Print version",
    "",
    "EXAMPLES:",
    "    article2md post.html -o out                  Convert one article",
    "    article2md a.html b.html -o out --merge Col  Merge articles into out/Col.md",
    "    RUST_LOG=debug article2md post.html -o out   Show localization decisions",
    ""].map String.toList)

/-- A step of a run: the files after it, and its result or the complaint that it failed. -/
abbrev Step (α : Type) := Folder × Except Text α

/-- Does a further step if a step has not failed. -/
def Step.andThen (step : Step α) (next : Folder → α → Step β) : Step β :=
  match step with
  | (folder, .ok a) => next folder a
  | (folder, .error complaint) => (folder, .error complaint)

/-- A complaint about a file. -/
def about (what : String) (path : Text) : Text :=
  what.toList ++ ' ' :: path

/-- The text of a file. -/
def readText? (folder : Folder) (path : Text) : Option Text :=
  (folder.read? path).bind Text.ofUtf8?

/-- The settings of a run. -/
def loadSettings (folder : Folder) : Option Text → Except Text Settings
  | none => .ok {}
  | some path =>
    match readText? folder path with
    | none => .error (about "Failed to read settings" path)
    | some text =>
      match Settings.read text with
      | .error _ => .error (about "Invalid settings in" path)
      | .ok settings => settings.validate.mapError Settings.Refusal.message

/-- The text of an article. -/
def readArticle (folder : Folder) (path : Text) : Except Text Text :=
  match readText? folder path with
  | some text => .ok text
  | none => .error (about "Failed to read" path)

/-- The title of the article in a file. -/
def title (path : Text) : Text :=
  ((Path.name? path).map Path.stem).getD "untitled".toList

/-- The path of a document. -/
def documentPath (output name : Text) : Text :=
  Path.join output (FileName.ofText name ++ ".md".toList)

/-- Writes a document; the result is its path. -/
def writeDocument (folder : Folder) (output name markdown : Text) : Step Text :=
  let path := documentPath output name
  match folder.write? path (Text.utf8 markdown) with
  | some folder => (folder, .ok path)
  | none => (folder, .error (about "Failed to write" path))

/-- Converts an article to a document of its own. -/
def convertOne (s : Settings) (output : Text) (store : Asset.Store) (folder : Folder)
    (path : Text) : Step (Asset.Store × Text) :=
  match readArticle folder path with
  | .error complaint => (folder, .error complaint)
  | .ok text =>
    match Article.convertMarkup none s store text with
    | (_, .error _) => (folder, .error (about "Failed to convert" path))
    | (store, .ok markdown) =>
      Step.andThen (writeDocument folder output (title path) markdown) fun folder written =>
        (folder, .ok (store, written))

/-- Converts articles to documents of their own; the result holds their paths. -/
def convertEach (s : Settings) (output : Text) : Asset.Store → Folder → List Text →
    Step (Asset.Store × List Text)
  | store, folder, [] => (folder, .ok (store, []))
  | store, folder, path :: rest =>
    Step.andThen (convertOne s output store folder path) fun folder (store, written) =>
      Step.andThen (convertEach s output store folder rest) fun folder (store, others) =>
        (folder, .ok (store, written :: others))

/-- Reads the articles of a document of several. -/
def readSources (folder : Folder) (paths : List Text) : Except Text (List Article.Source) :=
  paths.mapM fun path => (readArticle folder path).map fun text => ⟨title path, text⟩

/-- Converts articles to one document; the result holds its path. -/
def convertMerged (s : Settings) (output name : Text) (folder : Folder) (paths : List Text) :
    Step (Asset.Store × List Text) :=
  match readSources folder paths with
  | .error complaint => (folder, .error complaint)
  | .ok sources =>
    match Article.merge none s {} sources with
    | (_, .error _) => (folder, .error "Merge failed".toList)
    | (store, .ok markdown) =>
      Step.andThen (writeDocument folder output name markdown) fun folder written =>
        (folder, .ok (store, [written]))

/-- Writes the assets of a store. -/
def writeAssets (fetcher : Option Asset.Fetcher) (output : Text) (store : Asset.Store)
    (folder : Folder) : Step Unit :=
  let (_, d) := store.deliver fetcher output folder
  match d.result with
  | .ok _ => (d.folder, .ok ())
  | .error _ => (d.folder, .error "Failed to write assets".toList)

/-- The folder that documents are written to when none is named. -/
def defaultOutput : Text := Path.here

/-- Converts articles and writes their documents and assets; the result holds the documents'
paths. -/
def convert (network : Asset.Fetcher) (folder : Folder) (o : Options) : Step (List Text) :=
  let output := o.output.getD defaultOutput
  match loadSettings folder o.config with
  | .error complaint => (folder, .error complaint)
  | .ok s =>
    match folder.make? output with
    | none => (folder, .error (about "Failed to create" output))
    | some folder =>
      let converted := match o.merge with
        | some name => convertMerged s output name folder o.inputs
        | none => convertEach s output {} folder o.inputs
      Step.andThen converted fun folder (store, written) =>
        Step.andThen
          (writeAssets (if o.offline then none else some network) output store folder)
          fun folder _ => (folder, .ok written)

/-- The outcome of a run with given arguments. -/
def run (network : Asset.Fetcher) (folder : Folder) (arguments : List Text) : Report :=
  match Invocation.read arguments with
  | .misuse => { code := 2, folder }
  | .showHelp => { code := 0, output := helpText, folder }
  | .showVersion => { code := 0, output := versionText, folder }
  | .convert options =>
    match convert network folder options with
    | (folder, .ok written) =>
      { code := 0, output := written.flatMap fun path => path ++ ['\n'], folder }
    | (folder, .error complaint) => { code := 1, complaint := some complaint, folder }

/-- The text that tells a complaint. -/
def complaintText (complaint : Text) : Text :=
  "Error: ".toList ++ complaint

end ArticleMarkdown.Cli
