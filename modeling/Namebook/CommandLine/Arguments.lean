/-
  Namebook.CommandLine.Arguments
  ──────────────────────────────
  **Reading the command line.**

  Arguments are read from left to right and the first one that decides the outcome wins: a request
  for help or the version, or a misuse.  After `--` everything is a value, whatever it begins with.
-/

namespace Namebook.CommandLine

/-- What the program can do. -/
inductive Command where
  /-- Tell that the program runs, and its version. -/
  | probe
  /-- Print a new public id. -/
  | newId
  /-- Print the document with a public id or an alias. -/
  | resolve (name : String)
  deriving DecidableEq

/-- What help is about. -/
inductive HelpTopic where
  | program
  | newId
  | resolve
  | help
  deriving DecidableEq

/-- What a command line asks for. -/
inductive Invocation where
  | run (c : Command)
  | help (topic : HelpTopic)
  | version
  /-- The arguments make no sense. -/
  | misuse
  deriving DecidableEq

/-! ## §1. Single arguments. -/

/-- What one argument is. -/
inductive Argument where
  /-- The end of the options. -/
  | escape
  | help
  | version
  | unknownOption
  | value (text : String)
  deriving DecidableEq

/-- Reads an argument.  Of short options written together the first decides, and a single hyphen is
a value. -/
def Argument.ofText (text : String) : Argument :=
  match text.toList with
  | ['-', '-'] => escape
  | '-' :: '-' :: _ =>
    if text = "--help" then help
    else if text = "--version" then version
    else unknownOption
  | '-' :: 'h' :: _ => help
  | '-' :: 'V' :: _ => version
  | '-' :: _ :: _ => unknownOption
  | _ => value text

/-! ## §2. The arguments of each command. -/

/-- The only value of a command that takes one. -/
def onlyValue (found : Option String) (rest : List String) : Invocation :=
  match found.toList ++ rest with
  | [name] => .run (.resolve name)
  | _ => .misuse

/-- Reads what follows `resolve`; `found` is the value so far. -/
def resolveArguments (found : Option String) : List String → Invocation
  | [] => onlyValue found []
  | text :: rest =>
    match Argument.ofText text with
    -- all that follows is taken as values, hyphens or not
    | .escape => onlyValue found rest
    | .help => .help .resolve
    | .version => .misuse
    | .unknownOption => .misuse
    | .value name => if found.isSome then .misuse else resolveArguments (some name) rest

/-- Reads what follows `new-id`. -/
def newIdArguments : List String → Invocation
  | [] => .run .newId
  | text :: rest =>
    match Argument.ofText text with
    | .escape => if rest.isEmpty then .run .newId else .misuse
    | .help => .help .newId
    | _ => .misuse

/-- Reads what follows `help`. -/
def helpArguments : List String → Invocation
  | [] => .help .program
  | ["help"] => .help .help
  | ["new-id"] => .help .newId
  | ["resolve"] => .help .resolve
  | _ => .misuse

/-- **Reads a command line.** -/
def Invocation.ofArguments : List String → Invocation
  | [] => .run .probe
  | text :: rest =>
    match Argument.ofText text with
    | .escape => if rest.isEmpty then .run .probe else .misuse
    | .help => .help .program
    | .version => .version
    | .unknownOption => .misuse
    | .value "new-id" => newIdArguments rest
    | .value "resolve" => resolveArguments none rest
    | .value "help" => helpArguments rest
    | .value _ => .misuse

example : Invocation.ofArguments ["resolve", "--", "-x"] = .run (.resolve "-x") := by decide +kernel

/-! ## §3. Help. -/

/-- How the program is called. -/
def usage : String := "Usage: notealias [COMMAND]\n"

/-- The text of a help topic. -/
def HelpTopic.text : HelpTopic → String
  | program =>
    "Note identity and alias probe\n\n" ++ usage ++
      "\nCommands:\n" ++
      "  new-id   Print a freshly generated public id\n" ++
      "  resolve  Resolve a public id or alias against NOTEALIAS_DB_PATH\n" ++
      "  help     Print this message or the help of the given subcommand(s)\n" ++
      "\nOptions:\n" ++
      "  -h, --help     Print help\n" ++
      "  -V, --version  Print version\n"
  | newId =>
    "Print a freshly generated public id\n\nUsage: notealias new-id\n" ++
      "\nOptions:\n  -h, --help  Print help\n"
  | resolve =>
    "Resolve a public id or alias against NOTEALIAS_DB_PATH\n\n" ++
      "Usage: notealias resolve <ID_OR_ALIAS>\n" ++
      "\nArguments:\n  <ID_OR_ALIAS>  \n" ++
      "\nOptions:\n  -h, --help  Print help\n"
  | help =>
    "Print this message or the help of the given subcommand(s)\n\n" ++
      "Usage: notealias help [COMMAND]...\n" ++
      "\nArguments:\n  [COMMAND]...  Print help for the subcommand(s)\n"

end Namebook.CommandLine
