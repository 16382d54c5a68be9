import ComponentDocs.Document.Renderer
import ComponentDocs.Text.ControlSequence
import ComponentDocs.Text.Natural

/-! The command line: what it can say, and what is wrong with one that says something
else. -/
namespace ComponentDocs.Command

/-- The options that take a value. -/
inductive Setting
  | output
  | format
  | indent
deriving DecidableEq

instance : Vocabulary Setting where
  words := [.output, .format, .indent]
  name
    | .output => "output"
    | .format => "format"
    | .indent => "indent"

/-- The options that take none. -/
inductive Switch
  | xmlDeclaration
  | verbose
  | help
deriving DecidableEq

instance : Vocabulary Switch where
  words := [.xmlDeclaration, .verbose, .help]
  name
    | .xmlDeclaration => "xml-declaration"
    | .verbose => "verbose"
    | .help => "help"

def Setting.ofLetter? : Char → Option Setting
  | 'o' => some .output
  | 'f' => some .format
  | _ => none

def Switch.ofLetter? : Char → Option Switch
  | 'v' => some .verbose
  | 'h' => some .help
  | _ => none

/-- How an option is shown in messages. -/
def Setting.shown (setting : Setting) : String :=
  "--" ++ Vocabulary.name setting ++
    match setting with
    | .output => " <OUTPUT>"
    | .format => " <FORMAT>"
    | .indent => " <N>"

def Switch.shown (switch : Switch) : String := "--" ++ Vocabulary.name switch

/-- What is asked of a run. Without files the snapshot comes from standard input. -/
structure Invocation where
  files : List String := []
  output : Option String := none
  format : Format := default
  indent : Option Nat := none
  xmlDeclaration : Bool := false
  verbose : Bool := false
deriving DecidableEq

def Invocation.options (invocation : Invocation) : Options where
  indent := invocation.indent
  xmlDeclaration := invocation.xmlDeclaration

/-- What is wrong with a command line. -/
inductive UsageError
  | unexpectedArgument (text : String)
  | unexpectedValue (switch : Switch) (value : String)
  | missingValue (setting : Setting)
  | repeatedSetting (setting : Setting)
  | repeatedSwitch (switch : Switch)
  | invalidFormat (value : String) (error : DocumentError)
  | invalidIndent (value : String) (fault : Text.NaturalFault)
deriving DecidableEq

namespace UsageError

/-- What was given and cannot be accepted. -/
def given (text : String) : String := "'" ++ Text.setOff "33" text ++ "'"

/-- What belongs to the language of the command line. -/
def known (text : String) : String := "'" ++ Text.setOff "1" text ++ "'"

def invalid (value : String) (setting : Setting) (reason : String) : String :=
  "invalid value " ++ given value ++ " for " ++ known setting.shown ++ ": " ++ reason

def repeated (shown : String) : String :=
  "the argument " ++ given shown ++ " cannot be used multiple times"

def message : UsageError → String
  | .unexpectedArgument text => "unexpected argument " ++ given text ++ " found"
  | .unexpectedValue switch value =>
    "unexpected value " ++ given value ++ " for " ++ known switch.shown ++
      " found; no more were expected"
  | .missingValue setting =>
    "a value is required for " ++ given setting.shown ++ " but none was supplied"
  | .repeatedSetting setting => repeated setting.shown
  | .repeatedSwitch switch => repeated switch.shown
  | .invalidFormat value error => invalid value .format error.message
  | .invalidIndent value fault => invalid value .indent fault.message

/-- The report, written as for a terminal and then freed of control sequences, those in
the arguments included. A sequence that an argument leaves open ends where the next
highlighted part begins or ends. -/
def report (error : UsageError) : String :=
  Text.withoutControls <|
    Text.setOff "1;31" "error:" ++ " " ++ error.message ++
      "\n\nFor more information, try " ++ known (Switch.shown .help) ++ ".\n"

end UsageError

/-- Why the command line is not read on: help is asked for, or something is wrong. -/
inductive Stop
  | help
  | misuse (error : UsageError)
deriving DecidableEq

/-- What has been read. The value of a setting may stand in an argument of its own; it
is looked at only when a later argument of a known kind, or the end, shows that it is
complete, and until then is `pending`. -/
structure Reading where
  files : List String := []
  output : Option String := none
  format : Option Format := none
  indent : Option Nat := none
  xmlDeclaration : Bool := false
  verbose : Bool := false
  pending : Option (Setting × Option String) := none
  filesOnly : Bool := false

namespace Reading

/-- Stores the value of a setting. Each setting is given once at most, and each has
its own idea of a value. -/
def assign (setting : Setting) (value : Option String) (reading : Reading) :
    Except Stop Reading :=
  match value with
  | none => .error (.misuse (.missingValue setting))
  | some value =>
    match setting with
    | .output =>
      if reading.output.isSome then .error (.misuse (.repeatedSetting .output))
      else if value.isEmpty then .error (.misuse (.missingValue .output))
      else .ok { reading with output := some value }
    | .format =>
      if reading.format.isSome then .error (.misuse (.repeatedSetting .format))
      else
        match Format.ofText value with
        | .ok format => .ok { reading with format := some format }
        | .error error => .error (.misuse (.invalidFormat value error))
    | .indent =>
      if reading.indent.isSome then .error (.misuse (.repeatedSetting .indent))
      else
        match Text.natural value with
        | .ok width => .ok { reading with indent := some width }
        | .error fault => .error (.misuse (.invalidIndent value fault))

/-- Stores the pending value, if there is one. -/
def settle (reading : Reading) : Except Stop Reading :=
  match reading.pending with
  | none => .ok reading
  | some (setting, value) => { reading with pending := none }.assign setting value

/-- A setting with its value in the same argument, or with one still to come. -/
def set (setting : Setting) (value : Option String) (reading : Reading) :
    Except Stop Reading := do
  let reading ← reading.settle
  match value with
  | some value => reading.assign setting (some value)
  | none => return { reading with pending := some (setting, none) }

def turnOn (switch : Switch) (reading : Reading) : Except Stop Reading := do
  let reading ← reading.settle
  match switch with
  | .help => throw .help
  | .xmlDeclaration =>
    if reading.xmlDeclaration then throw (.misuse (.repeatedSwitch .xmlDeclaration))
    else return { reading with xmlDeclaration := true }
  | .verbose =>
    if reading.verbose then throw (.misuse (.repeatedSwitch .verbose))
    else return { reading with verbose := true }

def addFile (file : String) (reading : Reading) : Except Stop Reading := do
  let reading ← reading.settle
  return { reading with files := reading.files ++ [file] }

/-- An option by its name, without the two dashes: `name` or `name=value`. -/
def long (letters : List Char) (reading : Reading) : Except Stop Reading :=
  let name := String.ofList (letters.takeWhile (· ≠ '='))
  let value := match letters.dropWhile (· ≠ '=') with
    | [] => none
    | _ :: value => some (String.ofList value)
  match (Vocabulary.parse? name : Option Setting), (Vocabulary.parse? name : Option Switch), value with
  | some setting, _, value => reading.set setting value
  | none, some switch, none => reading.turnOn switch
  | none, some switch, some value => .error (.misuse (.unexpectedValue switch value))
  | none, none, _ => .error (.misuse (.unexpectedArgument ("--" ++ name)))

/-- Options by their letters, without the dash. Behind the letter of a setting comes
its value, with or without an equals sign. -/
def short : List Char → Reading → Except Stop Reading
  | [], reading => .ok reading
  | c :: rest, reading =>
    match Setting.ofLetter? c, Switch.ofLetter? c with
    | some setting, _ =>
      match rest with
      | [] => reading.set setting none
      | '=' :: value => reading.set setting (some (String.ofList value))
      | value => reading.set setting (some (String.ofList value))
    | none, some switch => do short rest (← reading.turnOn switch)
    | none, none => .error (.misuse (.unexpectedArgument ("-" ++ c.toString)))

/-- Takes in one argument. Behind `--` all arguments are files; a single dash never
begins an option. -/
def argument (text : String) (reading : Reading) : Except Stop Reading :=
  if reading.filesOnly then reading.addFile text
  else
    match text.toList with
    | ['-', '-'] => .ok { reading with filesOnly := true }
    | '-' :: '-' :: letters => reading.long letters
    | '-' :: c :: letters => reading.short (c :: letters)
    | _ =>
      match reading.pending with
      | some (setting, none) => .ok { reading with pending := some (setting, some text) }
      | _ => reading.addFile text

def invocation (reading : Reading) : Invocation where
  files := reading.files
  output := reading.output
  format := reading.format.getD default
  indent := reading.indent
  xmlDeclaration := reading.xmlDeclaration
  verbose := reading.verbose

end Reading

def Invocation.ofArguments (arguments : List String) : Except Stop Invocation := do
  let reading ← arguments.foldlM (fun reading text => reading.argument text) ({} : Reading)
  return (← reading.settle).invocation

def help : String :=
  "Generate extension documentation from component metadata snapshots\n\n" ++
  "Usage: extdoc [OPTIONS] [FILES]...\n\n" ++
  "Arguments:\n" ++
  "  [FILES]...  Input files (glob patterns and directories supported). " ++
    "If omitted, reads from stdin\n\n" ++
  "Options:\n" ++
  "  -o, --output <OUTPUT>  Output directory (required when files are given)\n" ++
  "  -f, --format <FORMAT>  Output format: xml (default), json [default: xml]\n" ++
  "      --indent <N>       Pretty-print with N spaces of indentation\n" ++
  "      --xml-declaration  Emit an XML declaration before the root element\n" ++
  "  -v, --verbose          Log progress to stderr\n" ++
  "  -h, --help             Print help\n"

end ComponentDocs.Command
