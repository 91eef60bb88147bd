import KubeJava.Files.Path
import KubeJava.Text.Quoted

set_option autoImplicit false

/-! # Disks

The operations on files that the program needs, over any monad that provides them, and what they
fail with. -/

namespace KubeJava

/-! ## Failures -/

inductive DiskFault where
  | noEntry
  | entryExists
  | notDirectory
  | isDirectory
  | nameTooLong
  | tooManyLinks
  /-- The operating system refused for another reason. -/
  | other (code : Nat) (description : Text)
  /-- The path holds a zero character, so it cannot be passed on at all. -/
  | zeroCharacter
  /-- The path or the content holds a surrogate, so it cannot be passed on at all. -/
  | noEncoding
  deriving DecidableEq, Repr

namespace DiskFault

/-- The number and the description of a refusal by the operating system. -/
def system? : DiskFault → Option (Nat × Text)
  | .noEntry => some (2, "No such file or directory")
  | .entryExists => some (17, "File exists")
  | .notDirectory => some (20, "Not a directory")
  | .isDirectory => some (21, "Is a directory")
  | .nameTooLong => some (36, "File name too long")
  | .tooManyLinks => some (40, "Too many levels of symbolic links")
  | .other code description => some (code, description)
  | .zeroCharacter | .noEncoding => none

/-- Whether the operating system refused, and not the program itself. -/
def isRefusal (fault : DiskFault) : Bool := fault.system?.isSome

/-- Whether a look at an entry that ends in this way only means that there is none. -/
def meansAbsent : DiskFault → Bool
  | .noEntry | .notDirectory | .tooManyLinks | .zeroCharacter | .noEncoding => true
  | _ => false

end DiskFault

/-- A fault together with the path that was asked for. -/
structure DiskFailure where
  fault : DiskFault
  path : Path
  deriving DecidableEq, Repr

def DiskFailure.message (f : DiskFailure) : Text :=
  match f.fault with
  | .zeroCharacter => "embedded null byte"
  | .noEncoding => "surrogates not allowed"
  | fault =>
    let (code, description) := fault.system?.getD (0, [])
    "[Errno " ++ Text.decimal code ++ "] " ++ description ++ ": " ++ f.path.text.quoted

/-! ## Operations -/

inductive EntryKind where
  | file
  | directory
  deriving DecidableEq, Repr

class Disk (m : Type → Type) where
  /-- What a path leads to, through all links. -/
  kindOf : Path → m (Except DiskFault EntryKind)
  makeDirectory : Path → m (Except DiskFault Unit)
  /-- Replaces the content of a file, which is created if it is absent. -/
  writeFile : Path → String → m (Except DiskFault Unit)
  readFile : Path → m (Except DiskFault ByteArray)

namespace Disk

variable {m : Type → Type} [Monad m] [Disk m]

/-- Whether a path leads to an entry that passes a test. -/
def leadsTo (test : EntryKind → Bool) (p : Path) : m (Except DiskFailure Bool) := do
  match ← kindOf p with
  | .ok kind => return .ok (test kind)
  | .error fault => return if fault.meansAbsent then .ok false else .error ⟨fault, p⟩

def pathExists (p : Path) : m (Except DiskFailure Bool) := leadsTo (fun _ => true) p

def isDirectory (p : Path) : m (Except DiskFailure Bool) := leadsTo (· = .directory) p

/-- Writes a text to a file. A text without encoding leaves the file empty. -/
def writeText (p : Path) (t : Text) : m (Except DiskFault Unit) := do
  match t.toString? with
  | some s => writeFile p s
  | none =>
    match ← writeFile p "" with
    | .error fault => return .error fault
    | .ok () => return .error .noEncoding

/-- What to make of a refusal to create a directory: if an existing one will do, it may be no
failure at all. -/
def acceptExisting (existing : Bool) (p : Path) (fault : DiskFault) :
    m (Except DiskFailure Unit) := do
  if !existing || !fault.isRefusal then return .error ⟨fault, p⟩
  match ← isDirectory p with
  | .error failure => return .error failure
  | .ok true => return .ok ()
  | .ok false => return .error ⟨fault, p⟩

/-- Creates a directory whose parent is there. -/
def createDirectory (existing : Bool) (p : Path) : m (Except DiskFailure Unit) := do
  match ← makeDirectory p with
  | .ok () => return .ok ()
  | .error .noEntry => return .error ⟨.noEntry, p⟩
  | .error fault => acceptExisting existing p fault

/-- Creates a directory and, where they are missing, those above it. -/
def createDirectories (existing : Bool) (p : Path) : m (Except DiskFailure Unit) := do
  match ← makeDirectory p with
  | .ok () => return .ok ()
  | .error .noEntry =>
    if _h : p.components = [] then return .error ⟨.noEntry, p⟩
    else
      match ← createDirectories true p.parent with
      | .error failure => return .error failure
      | .ok () => createDirectory existing p
  | .error fault => acceptExisting existing p fault
termination_by p.components.length
decreasing_by
  have := List.length_pos_iff.2 _h
  simp only [Path.parent, List.length_dropLast]
  omega

end Disk

end KubeJava
