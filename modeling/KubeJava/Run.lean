import KubeJava.Generation.Resources
import KubeJava.Loading
import KubeJava.Output

set_option autoImplicit false

/-! # Runs

A run loads the definitions of a file, creates the output directory, generates the types of all
definitions and writes them. -/

namespace KubeJava

inductive RunFailure where
  | load (f : LoadFailure)
  | generation (e : GenerationError)
  | write (f : WriteFailure)

def RunFailure.message : RunFailure → Text
  | .load f => f.message
  | .generation e => e.message
  | .write f => f.message

/-- What a run has produced. -/
structure RunResult where
  output : Path
  written : List Path
  warnings : List Text

variable {m : Type → Type} [Monad m] [Disk m]

/-- Writes the generated types, reporting each file. -/
def writeGeneration (output : Path) (g : Generation) : m (Logged RunFailure RunResult) := do
  let report ← writeTypes output g.types
  let log := report.written.map fun p => Event.wroteFile p.text
  match report.failure with
  | some f => return ⟨log, .error (.write f)⟩
  | none =>
    return ⟨log ++ [.wroteSources report.written.length output.text],
      .ok ⟨output, report.written, g.warnings⟩⟩

/-- Runs a generation from an input file into an output directory. -/
def runGeneration (settings : Settings) (input output : Path) :
    m (Logged RunFailure RunResult) := do
  match ← loadDefinitions input with
  | .error f => return .fail (.load f)
  | .ok definitions =>
    match ← createOutput output with
    | .error f => return .fail (.write f)
    | .ok _ =>
      let generated := generateAll settings definitions
      match generated.outcome with
      | .error e => return ⟨generated.log, .error (.generation e)⟩
      | .ok g =>
        let written ← writeGeneration output g
        return { written with log := generated.log ++ written.log }

end KubeJava
