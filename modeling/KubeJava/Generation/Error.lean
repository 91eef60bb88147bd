import KubeJava.Document.Printer

set_option autoImplicit false

/-! # Generation errors

The reasons for which types cannot be generated, each with its cause, and the wording of each. -/

namespace KubeJava

/-- Why no type can be given to a schema. -/
inductive UnsupportedReason where
  | arrayWithoutItems
  | noType
  | unknownType (type : Text)
  | nonStringEnumValue (value : Document)

inductive GenerationError where
  /-- A derived name is no identifier; `source` is the text that it was derived from. -/
  | invalidIdentifier (name source : Text)
  /-- The schema at a path has no type. -/
  | unsupportedSchema (path : List Text) (reason : UnsupportedReason)
  /-- The value to report holds a whole number that is too long to be shown. -/
  | numberTooLong

def UnsupportedReason.message : UnsupportedReason → Text
  | .arrayWithoutItems => "array schema without items"
  | .noType => "schema declares no type"
  | .unknownType type => "unknown type " ++ type.quoted
  | .nonStringEnumValue value => "non-string enum value " ++ value.shown

/-- The error about an enum value that is no text, unless the value cannot be shown. -/
def GenerationError.ofEnumValue (path : List Text) (value : Document) : GenerationError :=
  if value.canBeShown then .unsupportedSchema path (.nonStringEnumValue value) else .numberTooLong

def GenerationError.message : GenerationError → Text
  | .invalidIdentifier name source =>
    name.quoted ++ " (derived from " ++ source.quoted ++ ") is not a valid Java identifier"
  | .unsupportedSchema path reason =>
    "Unsupported schema at " ++ ("." : Text).intercalate path ++ ": " ++ reason.message
  | .numberTooLong =>
    "Exceeds the limit (" ++ Text.decimal Document.maxShownDigits ++
      " digits) for integer string conversion; " ++
      "use sys.set_int_max_str_digits() to increase the limit"

/-! ## Steps that may fail -/

section Steps

variable {ε α β : Type} {x : Except ε α} {a : α} {b : β} {e : ε}

@[simp] theorem ok_bind {f : α → Except ε β} : (Except.ok a >>= f) = f a := rfl

@[simp] theorem error_bind {f : α → Except ε β} : (Except.error e >>= f) = .error e := rfl

@[simp] theorem map_ok {f : α → β} : f <$> (.ok a : Except ε α) = .ok (f a) := rfl

@[simp] theorem map_error {f : α → β} : f <$> (.error e : Except ε α) = .error e := rfl

@[simp] theorem bind_ok_comp (x : Except ε α) (f : α → β) :
    (x >>= fun a => .ok (f a)) = f <$> x := rfl

@[simp] theorem pure_eq_ok {a b : α} : (pure a : Except ε α) = .ok b ↔ a = b := by
  simp [pure, Except.pure]

@[simp] theorem map_eq_ok {f : α → β} : f <$> x = .ok b ↔ ∃ a, x = .ok a ∧ f a = b := by
  cases x <;> simp

/-- Two steps succeed when the first does and the second does with its result. -/
@[simp] theorem bind_eq_ok {f : α → Except ε β} :
    x >>= f = .ok b ↔ ∃ a, x = .ok a ∧ f a = .ok b := by
  cases x <;> simp

/-- Two steps fail when the first does, or the second with its result. -/
@[simp] theorem bind_eq_error {f : α → Except ε β} :
    x >>= f = .error e ↔ x = .error e ∨ ∃ a, x = .ok a ∧ f a = .error e := by
  cases x <;> simp

end Steps

end KubeJava
