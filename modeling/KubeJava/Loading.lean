import KubeJava.Definition
import KubeJava.Files.Disk
import KubeJava.Settings
import KubeJava.Yaml.Load

set_option autoImplicit false

/-! # Loading

Reading settings and resource definitions from YAML files. A settings file holds one mapping or
nothing; a definitions file holds any number of documents, of which blank ones are passed over. -/

namespace KubeJava

/-! ## Failures -/

inductive LoadFailure where
  | settingsUnreadable (path : Path) (cause : DiskFailure)
  | settingsMalformed (path : Path)
  | settingsNoMapping (path : Path) (value : Document)
  | settingsInvalid (path : Path) (faults : List Fault)
  | definitionsUnreadable (path : Path) (cause : DiskFailure)
  | definitionsMalformed (path : Path)
  | definitionNoMapping (index : Nat) (path : Path) (value : Document)
  | definitionInvalid (index : Nat) (path : Path) (faults : List Fault)
  | noDefinitions (path : Path)
  /-- The content of a file has a problem of its own, though it may be well formed. -/
  | badContent (problem : Yaml.Problem)
  /-- The path cannot be passed to the disk at all. -/
  | badPath (cause : DiskFailure)

/-- The class of a value, as messages name it. -/
def Document.classText (d : Document) : Text := "<class '" ++ d.kindName ++ "'>"

def LoadFailure.message : LoadFailure → Text
  | .settingsUnreadable path cause =>
    "Failed to read config file " ++ path.text ++ ": " ++ cause.message
  | .settingsMalformed path => "Failed to parse YAML in " ++ path.text
  | .settingsNoMapping path value =>
    "Config file " ++ path.text ++ " must contain a mapping, got " ++ value.classText
  | .settingsInvalid path _ => "Invalid configuration in " ++ path.text
  | .definitionsUnreadable path cause =>
    "Failed to read CRD file " ++ path.text ++ ": " ++ cause.message
  | .definitionsMalformed path => "Failed to parse YAML in " ++ path.text
  | .definitionNoMapping index path value =>
    "Document " ++ Text.decimal index ++ " of " ++ path.text ++
      " must deserialize to a mapping, got " ++ value.classText
  | .definitionInvalid index path _ =>
    "CRD validation failed for document " ++ Text.decimal index ++ " of " ++ path.text
  | .noDefinitions path => "No CustomResourceDefinition found in " ++ path.text
  | .badContent problem => problem.message
  | .badPath cause => cause.message

/-- The faults behind a failure, if it comes from validation. -/
def LoadFailure.faults? : LoadFailure → Option (List Fault)
  | .settingsInvalid _ faults | .definitionInvalid _ _ faults => some faults
  | _ => none

/-! ## From values -/

/-- The settings that a value describes; nothing describes the default ones. -/
def settingsOf (path : Path) (value : Document) : Except LoadFailure Settings :=
  match value.exposed with
  | .null => .ok {}
  | .map _ =>
    match Settings.read value with
    | .valid s => .ok s
    | .faulty faults => .error (.settingsInvalid path faults)
  | _ => .error (.settingsNoMapping path value)

/-- The definitions that values describe, the first of which has the given position. -/
def definitionsFrom (path : Path) : (index : Nat) → List Document →
    Except LoadFailure (List Definition)
  | _, [] => .ok []
  | index, value :: rest =>
    match value.exposed with
    | .null => definitionsFrom path (index + 1) rest
    | .map _ => do
      match Definition.read value with
      | .faulty faults => throw (.definitionInvalid index path faults)
      | .valid d => return d :: (← definitionsFrom path (index + 1) rest)
    | _ => .error (.definitionNoMapping index path value)

/-- The definitions that the documents of a file describe; there has to be one. -/
def definitionsOf (path : Path) (values : List Document) :
    Except LoadFailure (List Definition) := do
  match ← definitionsFrom path 0 values with
  | [] => throw (.noDefinitions path)
  | ds => return ds

/-! ## From files -/

/-- The failure for a file that gives no values, where `malformed` is that of a malformed one. -/
def LoadFailure.ofProblem (malformed : LoadFailure) (p : Yaml.Problem) : LoadFailure :=
  if p = .malformed then malformed else .badContent p

variable {m : Type → Type} [Monad m] [Disk m]

/-- The bytes of a file. -/
def readFile (path : Path) (unreadable : DiskFailure → LoadFailure) :
    m (Except LoadFailure ByteArray) := do
  match ← Disk.readFile path with
  | .ok bytes => return .ok bytes
  | .error fault =>
    return .error (if fault.isRefusal then unreadable ⟨fault, path⟩ else .badPath ⟨fault, path⟩)

def loadSettings (path : Path) : m (Except LoadFailure Settings) := do
  let contents ← readFile path (.settingsUnreadable path)
  return do
    let value ← (Yaml.load (← contents)).mapError (.ofProblem (.settingsMalformed path))
    settingsOf path value

def loadDefinitions (path : Path) : m (Except LoadFailure (List Definition)) := do
  let contents ← readFile path (.definitionsUnreadable path)
  return do
    let values ← (Yaml.loadAll (← contents)).mapError (.ofProblem (.definitionsMalformed path))
    definitionsOf path values

end KubeJava
