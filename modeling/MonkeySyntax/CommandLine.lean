import MonkeySyntax.Parser
import MonkeySyntax.Tree.Canonical
import MonkeySyntax.Tree.Outline

namespace MonkeySyntax.CommandLine

/-- A flag asks for something other than a file. -/
inductive Flag where
  | outline
  | verbose
  | help
  | version
deriving DecidableEq

/-- An argument is a flag, a file, or not understood. -/
inductive Argument where
  | flag (flag : Flag)
  | file (path : String)
  | unknown
deriving DecidableEq

namespace Argument

/-- A letter stands for a flag. -/
def ofLetter : Char → Argument
  | 'v' => flag .verbose
  | 'h' => flag .help
  | 'V' => flag .version
  | _ => unknown

/-- A word with two dashes is one flag, and letters behind one dash are a flag each. A single dash
is a file like any other word. -/
def ofWord (word : String) : List Argument :=
  match word with
  | "--debug-ast" => [flag .outline]
  | "--verbose" => [flag .verbose]
  | "--help" => [flag .help]
  | "--version" => [flag .version]
  | word =>
    match word.toList with
    | '-' :: '-' :: _ => [unknown]
    | '-' :: letter :: letters => (letter :: letters).map ofLetter
    | _ => [file word]

/-- All words behind two bare dashes are files. -/
def ofWords : List String → List Argument
  | [] => []
  | "--" :: words => words.map file
  | word :: words => ofWord word ++ ofWords words

end Argument

/-- The options say what is read and what is shown. -/
structure Options where
  file : Option String
  outlined : Bool
  verbosity : Nat
deriving DecidableEq

/-- Without arguments the standard input is shown in canonical form. -/
def Options.default : Options :=
  ⟨none, false, 0⟩

/-- A request is to read a text or to say something about the program. -/
inductive Request where
  | read (options : Options)
  | help
  | version
deriving DecidableEq

namespace Request

/-- Arguments add to the options one by one. They are refused when one of them is not understood,
when a file is unnamed or not the first, and when the outline is asked for again. -/
def ofArguments? (options : Options) : List Argument → Option Request
  | [] => some (read options)
  | .flag .help :: _ => some help
  | .flag .version :: _ => some version
  | .flag .verbose :: rest =>
    ofArguments? { options with verbosity := options.verbosity + 1 } rest
  | .flag .outline :: rest =>
    if options.outlined then none else ofArguments? { options with outlined := true } rest
  | .file path :: rest =>
    if path = "" ∨ options.file ≠ none then none
    else ofArguments? { options with file := some path } rest
  | .unknown :: _ => none

/-- The words of a command line are one request or refused. -/
def ofWords? (words : List String) : Option Request :=
  ofArguments? .default (Argument.ofWords words)

end Request

/-- A text cannot be read because the system refuses it or because its bytes are no text. -/
inductive ReadFailure where
  | system (description : String) (code : Nat)
  | notText
deriving DecidableEq

def ReadFailure.message : ReadFailure → String
  | system description code => description ++ " (os error " ++ code.repr ++ ")"
  | notText => "stream did not contain valid UTF-8"

/-- A response is an exit code and the text on each of the two outputs. -/
structure Response where
  code : Nat
  output : String
  errors : String
deriving DecidableEq

/-- Text is closed by a line feed on every line. -/
def lines (texts : List String) : String :=
  String.join (texts.map fun text => text ++ "\n")

/-- Errors are logged from the first degree of verbosity on, statements from the second. -/
def logged (verbosity : Nat) : Event → Bool
  | .error _ _ => 1 ≤ verbosity
  | .statement _ _ => 2 ≤ verbosity

/-- The last line of the log counts statements and errors. -/
def closingLine (program : Program) (errors : List SyntaxError) : String :=
  " INFO parsed statements=" ++ program.statements.length.repr ++ " errors=" ++
    errors.length.repr

/-- The log has a line for each event that the verbosity lets through. -/
def logLines (verbosity : Nat) (program : Program) (events : List Event)
    (errors : List SyntaxError) : List String :=
  if verbosity = 0 then []
  else (events.filter (logged verbosity)).map Event.line ++ [closingLine program errors]

def errorLines (errors : List SyntaxError) : List String :=
  if errors = [] then []
  else SyntaxError.headline errors :: errors.map fun error => "\t" ++ error.message

/-- A text is shown as it was read, and the exit code tells whether errors were found. -/
def respondToText (options : Options) (text : String) : Response :=
  let (program, parser) := (Source.ofText text).read
  let errors := parser.errors
  let shown := if options.outlined then program.outline.pretty else program.canonical
  { code := if errors = [] then 0 else 1
    output := lines [shown]
    errors :=
      lines (logLines options.verbosity program parser.events errors ++ errorLines errors) }

/-- A text that cannot be read is reported with the cause. -/
def respondToFailure (options : Options) (failure : ReadFailure) : Response :=
  { code := 2
    output := ""
    errors := lines ["failed to read " ++ options.file.getD "stdin", "", "Caused by:",
      "    " ++ failure.message] }

/-- The response depends on the options and on the bytes that were read. -/
def respond (options : Options) (content : Except ReadFailure ByteArray) : Response :=
  match content with
  | .error failure => respondToFailure options failure
  | .ok bytes =>
    match String.fromUTF8? bytes with
    | some text => respondToText options text
    | none => respondToFailure options .notText

def versionText : String :=
  "monkey-parse 0.1.0"

def usageText : String :=
  "Usage: monkey-parse [OPTIONS] [FILE]"

def helpText : String :=
  "\n".intercalate
    ["Parse Monkey source and print its canonical, fully parenthesised form",
      "",
      usageText,
      "",
      "Arguments:",
      "  [FILE]  Source file; stdin is read when omitted",
      "",
      "Options:",
      "      --debug-ast   Print the syntax tree instead of the canonical rendering",
      "  -v, --verbose...  More log output (-v debug, -vv trace)",
      "  -h, --help        Print help",
      "  -V, --version     Print version"]

/-- Help and version are printed as they are. -/
def respondWith (text : String) : Response :=
  ⟨0, lines [text], ""⟩

/-- A refused command line is answered with the usage. -/
def refusal : Response :=
  ⟨2, "", lines ["error: the arguments were not understood", "", usageText, "",
    "For more information, try '--help'."]⟩

end MonkeySyntax.CommandLine
