import KubeJava.CommandLine.Options
import KubeJava.Run

set_option autoImplicit false

/-! # The program

What the program prints and leaves behind for a command line. A run that is refused ends with exit
code 2 and a message after the usage; one that fails in no foreseen way has no outcome. -/

namespace KubeJava.CommandLine

def programName : Text := "crd-to-java-generator"

/-- How a run of the program ended. -/
structure Outcome where
  exitCode : Nat := 0
  output : List Text := []
  log : List Text := []
  /-- The message that follows the usage. -/
  refusal : Option Text := none

def lines (ls : List Text) : Text := ls.flatMap fun l => l ++ "\n"

def Outcome.standardOutput (o : Outcome) : Text := lines o.output

/-- The standard error stream, with the given text in the place of the usage. -/
def Outcome.standardError (usage : Text) (o : Outcome) : Text :=
  lines o.log ++
    match o.refusal with
    | none => []
    | some message => lines [usage, programName ++ ": error: " ++ message]

def refuse (log : List Text) (message : Text) : Outcome :=
  { exitCode := 2, log, refusal := some message }

/-! ## Usage -/

def usage : Text :=
  "usage: " ++ programName ++ " [-h] --input INPUT --output OUTPUT [--config CONFIG]\n" ++
    "  [--no-enum-uppercase] [--prefix-policy \x7bnever,top_level,always\x7d]\n" ++
    "  [--suffix SUFFIX] [--suffix-policy \x7bnever,top_level,always\x7d] [-v]"

def helpText : List Text :=
  [usage, "",
    "Generate Java model classes from Kubernetes CustomResourceDefinition YAML", "",
    "options:",
    "  -h, --help            show this help message and exit",
    "  --input INPUT         Path to a CRD YAML file",
    "  --output OUTPUT       Output directory for generated sources",
    "  --config CONFIG       Optional YAML file with generation options",
    "  --no-enum-uppercase   Keep enum literal casing for enum constant names",
    "  --prefix-policy P     Where the kind prefix is added to generated class names",
    "  --suffix SUFFIX       Suffix appended to generated class names",
    "  --suffix-policy P     Where the suffix is added to generated class names",
    "  -v, --verbose         Log generation progress"]

/-! ## Runs -/

def isForeseenLoad : LoadFailure → Bool
  | .badContent _ | .badPath _ => false
  | _ => true

/-- Whether a failure is one that the program reports as a refusal. -/
def isForeseen : RunFailure → Bool
  | .load f => isForeseenLoad f
  | .generation .numberTooLong | .write (.disk _) => false
  | _ => true

/-- The end of a run that has failed after logging some lines. -/
def failed (log : List Text) (f : RunFailure) : Except RunFailure Outcome :=
  if isForeseen f then .ok (refuse log f.message) else .error f

/-- The settings with the options of the command line in the place of those of a file. -/
def Arguments.override (a : Arguments) (s : Settings) : Settings :=
  { s with
    enumUppercase := s.enumUppercase && !a.noEnumUppercase
    prefixPolicy := a.prefixPolicy.getD s.prefixPolicy
    suffix := a.suffix.getD s.suffix
    suffixPolicy := a.suffixPolicy.getD s.suffixPolicy }

/-- The lines of a log that are printed. -/
def printedLog (verbose : Bool) (log : List Event) : List Text :=
  (log.filter fun e => verbose || e.isWarning).map Event.line

/-- A warning as it is printed after a run. -/
def warningLine (warning : Text) : Text := "Warning: " ++ warning

variable {m : Type → Type} [Monad m] [Disk m]

def baseSettings (a : Arguments) : m (Except LoadFailure Settings) :=
  match a.config with
  | none => return .ok {}
  | some path => loadSettings (.ofText path)

def generate (a : Arguments) : m (Except RunFailure Outcome) := do
  match ← baseSettings a with
  | .error f => return failed [] (.load f)
  | .ok base =>
    let run ← runGeneration (a.override base) (.ofText a.input) (.ofText a.output)
    let log := printedLog a.verbose run.log
    match run.outcome with
    | .error f => return failed log f
    | .ok result =>
      let warnings := result.warnings.map warningLine
      let summary :=
        "Generated " ++ Text.decimal result.written.length ++ " Java sources in " ++
          result.output.text
      return .ok { output := warnings ++ [summary], log }

/-- What the program does for a command line. -/
def program (argv : List Text) : m (Except RunFailure Outcome) :=
  match Request.read argv with
  | .error e => return .ok (refuse [] e.message)
  | .ok .help => return .ok { output := helpText }
  | .ok (.generate a) => generate a

end KubeJava.CommandLine
