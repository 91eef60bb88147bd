import KubeJava.Yaml.Build
import KubeJava.Yaml.Reader

set_option autoImplicit false

/-! # Values of YAML text

The values of the documents in a file. Each document is built before the next one is read, so the
first problem on the way is the one that counts. -/

namespace KubeJava.Yaml

/-- The values of the documents from here on, at most `fuel` of them; `steps` bounds the steps that
reading a document takes. -/
def documentsFrom (steps : Nat) (first : Bool) : (fuel : Nat) → Reader (List Document)
  | 0 => Reader.malformed
  | fuel + 1 => do
    match ← Reader.document? first steps with
    | none => return []
    | some (g, root) =>
      let d ← (build g root : Reading Document)
      return d :: (← documentsFrom steps false fuel)

/-- The value of the only document, null if there is none. The start of a second one, or what is
wrong there, counts before the first is built. -/
def onlyDocument (steps : Nat) : Reader Document := do
  match ← Reader.document? true steps with
  | none => return .null
  | some (g, root) =>
    if (← Reader.start? false steps).isSome then Reader.malformed
    build g root

/-- Reads a file. Every step that goes deeper or on to the next entry takes a token, a few of them
with no token in between. -/
def readBytes {α : Type} (bytes : ByteArray) (reader : (steps : Nat) → Reader α) : Reading α := do
  let (ts, behind) := tokens (Input.ofBytes bytes)
  let (value, _) ← (reader (4 * ts.length + 8)).run { tokens := ts, behind }
  return value

/-- The values of all documents of a file. -/
def loadAll (bytes : ByteArray) : Reading (List Document) :=
  readBytes bytes fun steps => documentsFrom steps true steps

/-- The value of the only document of a file, null if there is none. -/
def load (bytes : ByteArray) : Reading Document := readBytes bytes onlyDocument

end KubeJava.Yaml
