import RecordTyping.CommandLine
import RecordTyping.Overrides

/-!
# Reading the command line

Options have a long name after two hyphens and maybe a letter after one; letters may share a hyphen.
The value of an option stands behind an equals sign, right behind its letter, or in the next
argument, which must not look like an option. Arguments are taken from the left. The value in the
next argument is looked at when the next option is taken or the arguments end, so that an argument
that is not known is reported before it.
-/

namespace RecordTyping

namespace CommandLine

/-- An option. -/
inductive Opt where
  | verbose
  | help
  | version
  | frameworkVersion
  | target
  | format
  | output
  | stdout
  | config
  | parallel
  | scope
  | schema
  | rows
  | assoc
  | coerce
  | force
deriving DecidableEq, Repr

/-- What is set by an option. -/
inductive Setting where
  | flag
  | text (s : String)
  | target (target : Target)
  | format (format : OutputFormat)
  | host (host : HostClass)
  | override (field expression : String)
deriving DecidableEq, Repr

namespace Opt

/-- The long name. -/
def long : Opt → String
  | .verbose => "verbose"
  | .help => "help"
  | .version => "version"
  | .frameworkVersion => "framework-version"
  | .target => "target"
  | .format => "format"
  | .output => "output"
  | .stdout => "stdout"
  | .config => "config"
  | .parallel => "parallel"
  | .scope => "scope"
  | .schema => "schema"
  | .rows => "rows"
  | .assoc => "assoc"
  | .coerce => "coerce"
  | .force => "force"

/-- The letter. -/
def letter? : Opt → Option Char
  | .verbose => some 'v'
  | .help => some 'h'
  | .version => some 'V'
  | .format => some 'f'
  | .output => some 'o'
  | .config => some 'c'
  | .force => some 'f'
  | _ => none

/-- Whether the option has a value. -/
def takesValue : Opt → Bool
  | .frameworkVersion | .target | .format | .output | .config | .scope | .schema | .rows
  | .assoc => true
  | _ => false

/-- Whether the option may be given more than once. -/
def isRepeatable : Opt → Bool
  | .verbose | .assoc => true
  | _ => false

end Opt

/-- The choice of a name among some. -/
def choose {α : Type} (choices : List (String × α)) (s : String) : Except UsageError α :=
  match choices.lookup s with
  | some a => .ok a
  | none => .error .invalidValue

/-- The targets by name. -/
def targets : List (String × Target) := [("base", .base), ("relation", .relation), ("all", .all)]

/-- The formats by name. -/
def formats : List (String × OutputFormat) := [("rbi", .rbi), ("json", .json)]

/-- The host classes by name. -/
def scopes : List (String × HostClass) :=
  [("base", .baseRecord), ("relation", .relation), ("association-relation", .associationRelation),
    ("collection-proxy", .collectionProxy)]

/-- What the value of an option sets. -/
def Opt.read (o : Opt) (s : String) : Except UsageError Setting :=
  match o with
  | .target => (choose targets s).map .target
  | .format => (choose formats s).map .format
  | .scope => (choose scopes s).map .host
  | .output | .config | .schema | .rows => if s.isEmpty then .error .invalidValue else .ok (.text s)
  | .assoc =>
    match readOverride s with
    | .ok (field, expression) => .ok (.override field expression)
    | .error _ => .error .valueValidation
  | _ => .ok (.text s)

/-- The settings in the order in which they are given. -/
abbrev Settings : Type := List (Opt × Setting)

/-- Adds a setting. -/
def addSetting (o : Opt) (setting : Except UsageError Setting) (given : Settings) :
    Except UsageError Settings :=
  if !o.isRepeatable && given.any fun (other, _) => other = o then .error .argumentConflict
  else setting.map fun setting => given ++ [(o, setting)]

/-- Takes an option without a value. -/
def takeFlag (o : Opt) (given : Settings) : Except UsageError Settings :=
  match o with
  | .help => .error .displayHelp
  | .version => .error .displayVersion
  | o => addSetting o (.ok .flag) given

/-- An option that waits for its value, or for its value to be looked at. -/
structure Pending where
  option : Opt
  value : Option String

/-- Takes the option that waits, if there is one. -/
def settle (pending : Option Pending) (given : Settings) : Except UsageError Settings :=
  match pending with
  | none => .ok given
  | some ⟨_, none⟩ => .error .invalidValue
  | some ⟨o, some value⟩ => addSetting o (o.read value) given

/-- What is known at some point of the arguments. -/
structure Progress where
  given : Settings
  pending : Option Pending

/-- Takes an argument that gives an option by its long name. -/
def takeLong (options : List Opt) (p : Progress) (name : String) (value : Option String) :
    Except UsageError Progress :=
  match options.find? fun o => o.long == name with
  | none => .error .unknownArgument
  | some o =>
    match o.takesValue, value with
    | true, some value => do
      let given ← settle p.pending p.given
      return ⟨← addSetting o (o.read value) given, none⟩
    | true, none => do return ⟨← settle p.pending p.given, some ⟨o, none⟩⟩
    | false, some _ => .error .tooManyValues
    | false, none => do return ⟨← takeFlag o (← settle p.pending p.given), none⟩

/-- Takes letters that give options; what follows the letter of an option with a value is its
value, without an equals sign at its start. -/
def takeLetters (options : List Opt) (p : Progress) : List Char → Except UsageError Progress
  | [] => .ok p
  | c :: rest =>
    match options.find? fun o => o.letter? == some c with
    | none => .error .unknownArgument
    | some o =>
      if o.takesValue then
        match rest with
        | [] => do return ⟨← settle p.pending p.given, some ⟨o, none⟩⟩
        | '=' :: value => do
          let given ← settle p.pending p.given
          return ⟨← addSetting o (o.read (String.ofList value)) given, none⟩
        | value => do
          let given ← settle p.pending p.given
          return ⟨← addSetting o (o.read (String.ofList value)) given, none⟩
      else do takeLetters options ⟨← takeFlag o (← settle p.pending p.given), none⟩ rest

/-- The form of an argument. -/
inductive Form where
  | optionsEnd
  | long (name : String) (value : Option String)
  | letters (cs : List Char)
  | word

/-- The form of an argument. Two hyphens alone end the options, and one alone is a word. -/
def Form.of (argument : String) : Form :=
  match argument.toList with
  | ['-', '-'] => .optionsEnd
  | '-' :: '-' :: rest =>
    match splitAssignment? rest with
    | some (name, value) => .long (String.ofList name) (some (String.ofList value))
    | none => .long (String.ofList rest) none
  | '-' :: c :: rest => .letters (c :: rest)
  | _ => .word

/-- Takes arguments up to the name of a command or to their end. Where there are commands, any other
word is taken for one that does not exist. -/
def take (options : List Opt) (commands : List String) (p : Progress) :
    List String → Except UsageError (Settings × Option (String × List String))
  | [] => do return (← settle p.pending p.given, none)
  | argument :: rest =>
    let isWaiting := match p.pending with
      | some ⟨_, none⟩ => true
      | _ => false
    if !isWaiting && commands.contains argument then do
      return (← settle p.pending p.given, some (argument, rest))
    else
      match Form.of argument with
      | .optionsEnd =>
        match rest with
        | [] => do return (← settle p.pending p.given, none)
        | word :: _ =>
          .error (if commands.isEmpty || commands.contains word then .unknownArgument
            else .invalidSubcommand)
      | .long name value => do take options commands (← takeLong options p name value) rest
      | .letters cs => do take options commands (← takeLetters options p cs) rest
      | .word =>
        match p.pending with
        | some ⟨o, none⟩ => take options commands ⟨p.given, some ⟨o, some argument⟩⟩ rest
        | _ => .error (if commands.isEmpty then .unknownArgument else .invalidSubcommand)

namespace Settings

/-- What the first setting of an option that a function picks out is. -/
def pick {α : Type} (given : Settings) (o : Opt) (f : Setting → Option α) : Option α :=
  given.findSome? fun (other, setting) => if other = o then f setting else none

/-- The text that an option sets. -/
def text? (given : Settings) (o : Opt) : Option String :=
  given.pick o fun
    | .text s => some s
    | _ => none

/-- Whether an option is given. -/
def has (given : Settings) (o : Opt) : Bool := given.any fun (other, _) => other = o

/-- How often the option for more to be said is given. -/
def verbosity (given : Settings) : Nat := min 255 (given.countP fun (o, _) => o = .verbose)

/-- The overrides that are given. -/
def overrides (given : Settings) : List (String × String) :=
  given.filterMap fun
    | (_, .override field expression) => some (field, expression)
    | _ => none

end Settings

/-- The names of the commands. -/
def commandNames : List String := ["generate", "methods", "project", "init"]

/-- The options that the program takes before a command. -/
def programOptions : List Opt := [.verbose, .help, .version]

/-- The options of a command. -/
def commandOptions (name : String) : List Opt :=
  [.verbose, .help] ++
    if name = "generate" then
      [.frameworkVersion, .target, .format, .output, .stdout, .config, .parallel]
    else if name = "methods" then [.scope, .frameworkVersion]
    else if name = "project" then [.schema, .rows, .assoc, .coerce]
    else [.force]

/-- The command of a name with some settings. The framework version may also come from the
environment. -/
def command (name : String) (environmentVersion : Option String) (given : Settings) :
    Except UsageError Command :=
  let frameworkVersion := (given.text? .frameworkVersion).or environmentVersion
  let path? (o : Opt) : Option Files.Path := (given.text? o).map fun s => ⟨s⟩
  if name = "generate" then
    .ok (.generate {
      frameworkVersion := frameworkVersion
      target := (given.pick .target fun
        | .target target => some target
        | _ => none).getD .all
      format := given.pick .format fun
        | .format format => some format
        | _ => none
      output := path? .output
      toOutput := given.has .stdout
      configuration := path? .config
      parallel := given.has .parallel })
  else if name = "methods" then
    match given.pick .scope fun
      | .host host => some host
      | _ => none with
    | some host => .ok (.methods host frameworkVersion)
    | none => .error .missingRequiredArgument
  else if name = "project" then
    match path? .schema, path? .rows with
    | some schema, some rows =>
      .ok (.project ⟨schema, rows, given.overrides, given.has .coerce⟩)
    | _, _ => .error .missingRequiredArgument
  else .ok (.init (given.has .force))

/-- The answer to the command that asks for help, about the program or about one command. -/
def help : List String → UsageError
  | [] => .displayHelp
  | [name] =>
    if name = "help" || commandNames.contains name then .displayHelp else .invalidSubcommand
  | _ => .invalidSubcommand

/-- The invocation of the arguments of the program. What is said about verbosity after the command
counts, if anything is. -/
def parse (environmentVersion : Option String) (arguments : List String) :
    Except UsageError Invocation := do
  match ← take programOptions (commandNames ++ ["help"]) ⟨[], none⟩ arguments with
  | (given, none) => throw (if given.isEmpty then .nothingGiven else .missingSubcommand)
  | (outer, some (name, rest)) =>
    if name = "help" then throw (help rest)
    let (inner, _) ← take (commandOptions name) [] ⟨[], none⟩ rest
    let verbosity := if inner.has .verbose then inner.verbosity else outer.verbosity
    return ⟨verbosity, ← command name environmentVersion inner⟩

end CommandLine

end RecordTyping
