/-
The command line: which script to run, how its file is named and read, and what is written where.
-/
import Treewalk.Run

namespace Treewalk.Command

/-! ## Arguments -/

/-- What the arguments ask for. -/
inductive Request where
  | help
  | missingScript
  | unrecognized (args : List String)
  | ignoredArgument (shown : String)
  | script (path : String)
deriving Repr, DecidableEq

/-- One argument before a double dash. -/
inductive Item where
  | help
  | helpWith (arg : String)
  | positional
  | unknown

/-- Whether an argument is a negative number, which is never an option. -/
def isNegativeNumber (arg : String) : Bool :=
  match arg.toList with
  | '-' :: rest =>
    let fraction := (rest.dropWhile Char.isDigit).drop 1
    (!rest.isEmpty && rest.all Char.isDigit) ||
      (rest.contains '.' && !fraction.isEmpty && fraction.all Char.isDigit &&
        (rest.dropWhile Char.isDigit).head? == some '.')
  | _ => false

/-- What is joined to the short help option: the option may be repeated. -/
def joinedToHelp (joined : List Char) : Item :=
  let rest := joined.dropWhile (· == 'h')
  if rest.isEmpty then .help else .helpWith (String.ofList rest)

/-- The help option may be cut short in its long form and repeated in its short one. -/
def classify (arg : String) : Item :=
  match arg.toList with
  | '-' :: '-' :: _ =>
    let word := arg.toList.takeWhile (· != '=')
    if word.isPrefixOf "--help".toList then
      if word == arg.toList then .help else .helpWith (String.ofList (arg.toList.drop (word.length + 1)))
    else if arg.contains ' ' then .positional
    else .unknown
  | ['-', 'h', '='] => .helpWith ""
  | '-' :: 'h' :: '=' :: joined => joinedToHelp joined
  | '-' :: 'h' :: joined => joinedToHelp joined
  | '-' :: _ :: _ => if isNegativeNumber arg || arg.contains ' ' then .positional else .unknown
  | _ => .positional

/-- Reads the arguments from the left. The first positional one is the script. A double dash ends the options; it is
dropped where it stands next to the script. -/
def readArgs (script : Option String) (extras : List String) (besideScript : Bool) : List String → Request
  | [] =>
    match script with
    | none => .missingScript
    | some path => if extras.isEmpty then .script path else .unrecognized extras
  | "--" :: rest =>
    match script, rest with
    | none, [] => .missingScript
    | none, path :: rest => if extras.isEmpty && rest.isEmpty then .script path else .unrecognized (extras ++ rest)
    | some path, rest =>
      let extras := extras ++ (if besideScript then [] else ["--"]) ++ rest
      if extras.isEmpty then .script path else .unrecognized extras
  | arg :: rest =>
    match classify arg with
    | .help => .help
    | .helpWith arg => .ignoredArgument (Text.quoted arg)
    | .unknown => readArgs script (extras ++ [arg]) false rest
    | .positional =>
      if script.isNone then readArgs (some arg) extras true rest else readArgs script (extras ++ [arg]) false rest

def request (args : List String) : Request := readArgs none [] false args

/-! ## Files -/

/-- The parts of a path with `.` left out and `..` taken back. -/
def pathParts (path : String) : List String :=
  let step (parts : List String) (part : String) : List String :=
    if part == "" || part == "." then parts else if part == ".." then parts.tail else part :: parts
  ((path.splitOn "/").foldl step []).reverse

/-- A path from the root, seen from a working directory. -/
def resolvePath (directory path : String) : String :=
  let full := if path.startsWith "/" then path else directory ++ "/" ++ path
  "/" ++ String.intercalate "/" (pathParts full)

/-- The text of a file: every kind of line end is a newline. -/
def unifyLineEnds : List Char → List Char
  | '\r' :: '\n' :: rest => '\n' :: unifyLineEnds rest
  | '\r' :: rest => '\n' :: unifyLineEnds rest
  | c :: rest => c :: unifyLineEnds rest
  | [] => []

/-! ## Answers -/

structure Answer where
  status : Nat
  stdout : String
  stderr : String
deriving Repr, DecidableEq

def programName : String := "python -m minipy"

def usage : String := "usage: " ++ programName ++ " <script.py>\n"

def helpText : String :=
  usage ++ "\nEvaluate a program written in the minipy Python subset.\n\npositional arguments:\n  script\n\n" ++
    "options:\n  -h, --help  show this help message and exit\n"

def refuse (reason : String) : Answer := ⟨2, "", usage ++ programName ++ ": error: " ++ reason ++ "\n"⟩

def traceText (s : State) : String := String.join (s.trace.toList.map (· ++ "\n"))

/-- How a run is reported. -/
def report (result : Ending × State) : Answer :=
  let (ending, s) := result
  match ending with
  | .finished => ⟨0, s.stdout.escaped, traceText s⟩
  | .failed e => ⟨1, s.stdout.escaped, traceText s ++ "minipy: " ++ e.describe.escaped ++ "\n"⟩
  | .unwritable cause => ⟨1, s.stdout.escaped, traceText s ++ cause.label ++ ": " ++ cause.message ++ "\n"⟩
  | .nullCharacter => ⟨1, s.stdout.escaped, traceText s ++ "ValueError: " ++ Ending.nullCharacterMessage ++ "\n"⟩
  | .uncheckable => ⟨1, s.stdout.escaped, traceText s ++ "RecursionError: " ++ Ending.uncheckableMessage ++ "\n"⟩
  | .stalled => ⟨1, s.stdout.escaped, traceText s⟩

/-- Runs the text of a script file. -/
def runScript [Host] (tracing : Bool) (path content : String) : Answer :=
  report (run (.standard tracing) path (String.ofList (unifyLineEnds content.toList)) .empty)

def notFound (path : String) : Answer := ⟨2, "", "minipy: script not found: " ++ path ++ "\n"⟩

/-- The answer to arguments that name no script to run. -/
def answerWithout : Request → Answer
  | .help => ⟨0, helpText, ""⟩
  | .missingScript => refuse "the following arguments are required: script"
  | .unrecognized args => refuse ("unrecognized arguments: " ++ String.intercalate " " args)
  | .ignoredArgument shown => refuse ("argument -h/--help: ignored explicit argument " ++ shown)
  | .script path => notFound path

/-- The whole command, with the files given by their contents. -/
def answer [Host] (tracing : Bool) (directory : String) (file : String → Option String) (args : List String) : Answer :=
  match request args with
  | .script path =>
    let path := resolvePath directory path
    match file path with
    | some content => runScript tracing path content
    | none => notFound path
  | r => answerWithout r

end Treewalk.Command
