import KubeJava.Files.Disk
import KubeJava.Generation.Result

set_option autoImplicit false

/-! # Output

Writing generated types into a new directory: each top-level record becomes a file of its own, in
the directories of its package. Nested records stand in the files of their owners already. Nothing
that exists is overwritten. -/

namespace KubeJava

/-! ## Failures -/

inductive WriteFailure where
  | outputExists (directory : Path)
  | outputNotCreated (directory : Path) (cause : DiskFailure)
  | generatedTwice (path : Path) (qualifiedName : Text)
  | packageNotCreated (directory : Path) (cause : DiskFailure)
  | fileNotWritten (path : Path) (cause : DiskFailure)
  /-- The disk failed where no failure is expected. -/
  | disk (cause : DiskFailure)
  deriving DecidableEq, Repr

namespace WriteFailure

def message : WriteFailure → Text
  | .outputExists directory => "Output directory already exists: " ++ directory.text
  | .outputNotCreated directory cause =>
    "Failed to create output directory " ++ directory.text ++ ": " ++ cause.message
  | .generatedTwice path qualifiedName =>
    "Refusing to overwrite " ++ path.text ++ "; " ++ qualifiedName ++ " was generated twice"
  | .packageNotCreated directory cause =>
    "Failed to create package directory " ++ directory.text ++ ": " ++ cause.message
  | .fileNotWritten path cause => "Failed to write file " ++ path.text ++ ": " ++ cause.message
  | .disk cause => cause.message

/-- The failure of a step that expects refusals by the operating system and nothing else. -/
def expecting (wrap : DiskFailure → WriteFailure) (cause : DiskFailure) : WriteFailure :=
  if cause.fault.isRefusal then wrap cause else .disk cause

end WriteFailure

/-! ## Places -/

/-- The file of a top-level record: its package as directories, its name with the ending of Java
sources. -/
def sourcePath (output : Path) (r : TypeRecord) : Path :=
  let directories := match r.package with
    | none => []
    | some p => if p = [] then [] else p.dotParts
  (output.joinAll directories).join (r.name ++ ".java")

/-! ## Steps -/

variable {m : Type → Type} [Monad m] [Disk m]

/-- Creates the output directory, which must not exist. -/
def createOutput (output : Path) : m (Except WriteFailure Path) := do
  match ← Disk.pathExists output with
  | .error cause => return .error (.disk cause)
  | .ok true => return .error (.outputExists output)
  | .ok false =>
    match ← Disk.createDirectories false output with
    | .error cause => return .error (.expecting (.outputNotCreated output) cause)
    | .ok () => return .ok output

/-- Writes one record to its file. -/
def writeRecord (output : Path) (r : TypeRecord) : m (Except WriteFailure Path) := do
  let path := sourcePath output r
  match ← Disk.pathExists path with
  | .error cause => return .error (.disk cause)
  | .ok true => return .error (.generatedTwice path r.qualifiedName)
  | .ok false =>
    match ← Disk.createDirectories true path.parent with
    | .error cause => return .error (.expecting (.packageNotCreated path.parent) cause)
    | .ok () =>
      match ← Disk.writeText path r.source with
      | .error fault => return .error (.expecting (.fileNotWritten path) ⟨fault, path⟩)
      | .ok () => return .ok path

/-- The files that were written, and what stopped the writing, if something did. -/
structure WriteReport where
  written : List Path := []
  failure : Option WriteFailure := none

/-- Writes records in order, up to the first that fails. -/
def writeRecords (output : Path) : List TypeRecord → m WriteReport
  | [] => return {}
  | r :: rest => do
    match ← writeRecord output r with
    | .error failure => return { failure := some failure }
    | .ok path =>
      let report ← writeRecords output rest
      return { report with written := path :: report.written }

def writeTypes (output : Path) (g : Generated) : m WriteReport := writeRecords output g.topLevel

end KubeJava
