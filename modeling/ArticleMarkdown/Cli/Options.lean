import ArticleMarkdown.Text.Basic

/-!
# Arguments of the command

How the arguments of the command are read. Arguments that start with a dash are options, up to two
dashes alone; an option with a value takes it from the same argument or from the next.
-/

namespace ArticleMarkdown.Cli

/-- What the command is asked to do. -/
structure Options where
  inputs : List Text := []
  output : Option Text := none
  config : Option Text := none
  /-- The name of the one document that all articles become. -/
  merge : Option Text := none
  /-- Whether images are not fetched. -/
  offline : Bool := false
  deriving DecidableEq, Repr

/-- The meaning of a list of arguments. -/
inductive Invocation where
  | convert (options : Options)
  | showHelp
  | showVersion
  | misuse
  deriving DecidableEq, Repr

/-- The options that have a value. -/
inductive Key where
  | output
  | config
  | merge
  deriving DecidableEq, Repr

/-- The option of a long name. -/
def Key.ofName? (name : Text) : Option Key :=
  match String.ofList name with
  | "output" => some .output
  | "config" => some .config
  | "merge" => some .merge
  | _ => none

/-- The option of a letter. -/
def Key.ofLetter? : Char → Option Key
  | 'o' => some .output
  | 'c' => some .config
  | 'm' => some .merge
  | _ => none

namespace Options

/-- Adds an article. Its path must not be empty. -/
def addInput? (o : Options) (path : Text) : Option Options :=
  if path.isEmpty then none else some { o with inputs := o.inputs ++ [path] }

/-- Adds several articles. -/
def addInputs? : Options → List Text → Option Options
  | o, [] => some o
  | o, path :: rest => (o.addInput? path).bind fun o => o.addInputs? rest

/-- Sets an option, once. A path must not be empty. -/
def set? (o : Options) (key : Key) (value : Text) : Option Options :=
  match key with
  | .output =>
    if o.output.isSome || value.isEmpty then none else some { o with output := some value }
  | .config =>
    if o.config.isSome || value.isEmpty then none else some { o with config := some value }
  | .merge => if o.merge.isSome then none else some { o with merge := some value }

/-- What options mean when all arguments are read. -/
def finish (o : Options) : Invocation :=
  if o.inputs.isEmpty then .misuse else .convert o

/-- What is left to do after an argument. -/
inductive Next where
  | more (o : Options)
  /-- The next argument is the value of an option. -/
  | value (key : Key)
  | done (invocation : Invocation)

/-- What follows when options could be set. -/
def Next.ofOption : Option Options → Next
  | some o => .more o
  | none => .done .misuse

/-- Reads an option of a long name, without its dashes. -/
def readLong (o : Options) (t : Text) : Next :=
  let (name, value) := match Text.splitFirst? '=' t with
    | some (name, value) => (name, some value)
    | none => (t, none)
  match Key.ofName? name, value with
  | some key, some value => .ofOption (o.set? key value)
  | some key, none => .value key
  | none, some _ => .done .misuse
  | none, none =>
    match String.ofList name with
    | "help" => .done .showHelp
    | "version" => .done .showVersion
    | "offline" => if o.offline then .done .misuse else .more { o with offline := true }
    | _ => .done .misuse

/-- Reads an option of one letter and what follows the letter. -/
def readShort (o : Options) (letter : Char) (t : Text) : Next :=
  match Key.ofLetter? letter with
  | some key =>
    match t with
    | [] => .value key
    | '=' :: value => .ofOption (o.set? key value)
    | value => .ofOption (o.set? key value)
  | none =>
    if letter == 'h' then .done .showHelp
    else if letter == 'V' then .done .showVersion
    else .done .misuse

/-- Reads one argument. -/
def readOne (o : Options) (argument : Text) : Next :=
  match argument with
  | '-' :: '-' :: name => o.readLong name
  | '-' :: letter :: t => o.readShort letter t
  | path => .ofOption (o.addInput? path)

/-- Whether an argument is an option. -/
def isOption : Text → Bool
  | '-' :: _ :: _ => true
  | _ => false

/-- Reads arguments; `key` is the option whose value comes next. -/
def readFrom (o : Options) (key : Option Key) : List Text → Invocation
  | [] => if key.isSome then .misuse else o.finish
  | argument :: rest =>
    match key with
    | some key =>
      if isOption argument then .misuse
      else
        match o.set? key argument with
        | some o => o.readFrom none rest
        | none => .misuse
    | none =>
      if argument = ['-', '-'] then ((o.addInputs? rest).map finish).getD .misuse
      else
        match o.readOne argument with
        | .more o => o.readFrom none rest
        | .value key => o.readFrom (some key) rest
        | .done invocation => invocation

end Options

/-- The meaning of arguments. -/
def Invocation.read (arguments : List Text) : Invocation :=
  ({} : Options).readFrom none arguments

end ArticleMarkdown.Cli
