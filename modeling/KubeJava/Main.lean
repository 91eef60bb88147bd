import KubeJava.CommandLine.Program

set_option autoImplicit false

/-! # Entry point

The program on the disk of the machine that it runs on. -/

namespace KubeJava.Machine

/-! ## The disk -/

/-- The fault for an error number of the operating system. -/
def faultOfCode (code : UInt32) (details : String) : DiskFault :=
  match code.toNat with
  | 2 => .noEntry
  | 17 => .entryExists
  | 20 => .notDirectory
  | 21 => .isDirectory
  | 36 => .nameTooLong
  | 40 => .tooManyLinks
  | n => .other n details

def faultOf : IO.Error → DiskFault
  | .noFileOrDirectory _ code details => faultOfCode code details
  | .alreadyExists _ code details => faultOfCode code details
  | .inappropriateType _ code details => faultOfCode code details
  | .invalidArgument _ code details => faultOfCode code details
  | .permissionDenied _ code details => faultOfCode code details
  | .resourceExhausted _ code details => faultOfCode code details
  | .otherError code details => faultOfCode code details
  | e => .other 5 (toString e)

/-- An action on a path, its error as a fault. -/
def attempt {α : Type} (p : Path) (action : String → IO α) : IO (Except DiskFault α) := do
  if p.text.contains '\x00' then return .error .zeroCharacter
  match p.text.toString? with
  | none => return .error .noEncoding
  | some name =>
    try
      return .ok (← action name)
    catch e => return .error (faultOf e)

/-- A directory can be opened, but not read. -/
def kindOf (p : Path) : IO (Except DiskFault EntryKind) := do
  match ← attempt p (IO.FS.Handle.mk · .read) with
  | .error fault => return .error fault
  | .ok handle =>
    match ← attempt p (fun _ => handle.read 1) with
    | .error .isDirectory => return .ok .directory
    | _ => return .ok .file

instance : Disk IO where
  kindOf := kindOf
  makeDirectory p := attempt p (IO.FS.createDir ·)
  writeFile p content := attempt p (IO.FS.writeFile · content)
  readFile p := attempt p (IO.FS.readBinFile ·)

/-- A text as it is printed. -/
def printed (t : Text) : String := t.replaceSurrogates.toString?.getD ""

end KubeJava.Machine

/-! ## The program -/

open KubeJava.CommandLine in
def main (argv : List String) : IO UInt32 := do
  let arguments : List KubeJava.Text := argv.map KubeJava.Text.ofString
  let ended : Except KubeJava.RunFailure Outcome ← program arguments
  match ended with
  | .error failure =>
    IO.eprintln (KubeJava.Machine.printed failure.message)
    return 1
  | .ok outcome =>
    IO.eprint (KubeJava.Machine.printed (outcome.standardError usage))
    IO.print (KubeJava.Machine.printed outcome.standardOutput)
    return UInt32.ofNat outcome.exitCode
