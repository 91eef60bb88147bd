import KubeJava.Text.Hex

set_option autoImplicit false

/-! # Logs

What a generation reports while it runs. A computation carries the events it reported whether or not
it succeeds; what it computes does not depend on them. -/

namespace KubeJava

/-! ## Events -/

inductive Event where
  /-- The types of an object, the given one, are about to be generated. -/
  | resolvingObject (reference : Text)
  | emptyEnum (name : Text)
  | generatingDefinition (kind group : Text) (versions : Nat)
  | missingSchema (kind version : Text)
  | wroteFile (path : Text)
  | wroteSources (count : Nat) (directory : Text)
  deriving DecidableEq, Repr

inductive LogLevel where
  | debug
  | info
  | warning
  deriving DecidableEq, Repr

def LogLevel.word : LogLevel → Text
  | .debug => "DEBUG"
  | .info => "INFO"
  | .warning => "WARNING"

namespace Event

def level : Event → LogLevel
  | .resolvingObject _ | .wroteFile _ => .debug
  | .generatingDefinition .. | .wroteSources .. => .info
  | .emptyEnum _ | .missingSchema .. => .warning

/-- The part of the program that reports the event. -/
def source : Event → Text
  | .resolvingObject _ | .emptyEnum _ => "crd_java_generator.nodes"
  | .generatingDefinition .. | .missingSchema .. | .wroteSources .. =>
    "crd_java_generator.generator"
  | .wroteFile _ => "crd_java_generator.writer"

/-- What is said about a version without schema. -/
def missingSchemaText (kind version : Text) : Text :=
  kind ++ " version " ++ version ++ " has no openAPIV3Schema; spec and status are Void"

def message : Event → Text
  | .resolvingObject reference => "Resolving object " ++ reference
  | .emptyEnum name => "Enum " ++ name ++ " declares no values; generating an empty enum"
  | .generatingDefinition kind group versions =>
    "Generating " ++ kind ++ "." ++ group ++ " (" ++ Text.decimal versions ++ " versions)"
  | .missingSchema kind version => missingSchemaText kind version
  | .wroteFile path => "Wrote " ++ path
  | .wroteSources count directory =>
    "Wrote " ++ Text.decimal count ++ " Java sources to " ++ directory

def isWarning (e : Event) : Bool := e.level = .warning

/-- The event as one line of a log. -/
def line (e : Event) : Text :=
  e.level.word ++ " " ++ e.source ++ ": " ++ e.message

end Event

/-! ## Logged computations -/

/-- What a computation reported and how it ended. -/
structure Logged (ε α : Type) where
  log : List Event
  outcome : Except ε α

namespace Logged

variable {ε α β : Type}

def ok (a : α) : Logged ε α := ⟨[], .ok a⟩

def fail (e : ε) : Logged ε α := ⟨[], .error e⟩

/-- A computation that reports nothing. -/
def ofExcept (x : Except ε α) : Logged ε α := ⟨[], x⟩

def report (e : Event) : Logged ε Unit := ⟨[e], .ok ()⟩

def bind (x : Logged ε α) (f : α → Logged ε β) : Logged ε β :=
  match x.outcome with
  | .error e => ⟨x.log, .error e⟩
  | .ok a => ⟨x.log ++ (f a).log, (f a).outcome⟩

instance : Monad (Logged ε) where
  pure := ok
  bind := bind

instance : MonadLift (Except ε) (Logged ε) where
  monadLift := ofExcept

/-! The outcome is computed as if nothing were reported. -/

@[simp] theorem outcome_pure (a : α) : (pure a : Logged ε α).outcome = .ok a := rfl

@[simp] theorem outcome_fail (e : ε) : (fail e : Logged ε α).outcome = .error e := rfl

@[simp] theorem outcome_ofExcept (x : Except ε α) : (ofExcept x).outcome = x := rfl

@[simp] theorem outcome_monadLift (x : Except ε α) :
    (MonadLift.monadLift x : Logged ε α).outcome = x := rfl

@[simp] theorem outcome_report (e : Event) : (report e : Logged ε Unit).outcome = .ok () := rfl

@[simp] theorem outcome_bind (x : Logged ε α) (f : α → Logged ε β) :
    (x >>= f).outcome = x.outcome >>= fun a => (f a).outcome := by
  change (bind x f).outcome = _
  unfold bind
  cases x.outcome <;> rfl

end Logged

end KubeJava
