import KubeJava.Document.Printer
import KubeJava.Text.Case

set_option autoImplicit false

/-! # Validation

Reading typed values out of documents. A reading that fails lists every fault it met, each with the
path to the offending place; independent readings are joined so that the faults of all are kept. -/

namespace KubeJava

/-! ## Faults -/

/-- One step into a document: a key, or a position. -/
inductive Segment where
  | key (name : Text)
  | index (n : Int)
  deriving DecidableEq, Repr

inductive FaultKind where
  | missing
  | stringType
  | stringUnicode
  | boolType
  | boolParsing
  | listType
  | dictType
  | modelType
  | literalError
  | enumError
  | invalidKey
  /-- A collection is met inside itself, or lies too deep. -/
  | recursionLoop
  deriving DecidableEq, Repr

structure Fault where
  path : List Segment
  kind : FaultKind
  deriving DecidableEq, Repr

def Fault.under (s : Segment) (f : Fault) : Fault := { f with path := s :: f.path }

/-! ## Checked values -/

inductive Checked (α : Type) where
  | valid (value : α)
  | faulty (faults : List Fault)

namespace Checked

variable {α β : Type}

def fault (kind : FaultKind) : Checked α := .faulty [⟨[], kind⟩]

def map (f : α → β) : Checked α → Checked β
  | .valid a => .valid (f a)
  | .faulty fs => .faulty fs

/-- Both values, or the faults of both. -/
def both (x : Checked α) (y : Checked β) : Checked (α × β) :=
  match x, y with
  | .valid a, .valid b => .valid (a, b)
  | .faulty fs, .valid _ => .faulty fs
  | .valid _, .faulty gs => .faulty gs
  | .faulty fs, .faulty gs => .faulty (fs ++ gs)

instance : Applicative Checked where
  pure := .valid
  map := map
  seq f x := ((f.both (x ())).map fun p => p.1 p.2)

/-- The same reading, its faults placed one step further in. -/
def under (s : Segment) : Checked α → Checked α
  | .valid a => .valid a
  | .faulty fs => .faulty (fs.map (Fault.under s))

def toExcept : Checked α → Except (List Fault) α
  | .valid a => .ok a
  | .faulty fs => .error fs

end Checked

/-! ## Scalars -/

namespace Document

/-- The text that bytes spell. -/
def textOfBytes? (bs : List UInt8) : Option Text :=
  (String.fromUTF8? ⟨bs.toArray⟩).map Text.ofString

/-- Text, or bytes that spell text. -/
def readText : Document → Checked Text
  | .str t => .valid t
  | .bytes bs =>
    match textOfBytes? bs with
    | some t => .valid t
    | none => .fault .stringUnicode
  | _ => .fault .stringType

def trueWords : List Text := ["1", "on", "t", "true", "y", "yes"]

def falseWords : List Text := ["0", "off", "f", "false", "n", "no"]

/-- The truth value of a word, in any ASCII case. -/
def readTruthWord (t : Text) : Checked Bool :=
  let word := t.map Text.asciiLower
  if trueWords.contains word then .valid true
  else if falseWords.contains word then .valid false
  else .fault .boolParsing

/-- The whole numbers that a truth value may be read from: those of 64 bits. -/
def shortInteger? (n : Int) : Option Int :=
  if -0x8000000000000000 ≤ n ∧ n < 0x8000000000000000 then some n else none

/-- A truth value, a word for one, or the number 0 or 1. -/
def readBool : Document → Checked Bool
  | .bool b => .valid b
  | .str t => if t.hasSurrogate then .fault .stringUnicode else readTruthWord t
  | .bytes bs =>
    match textOfBytes? bs with
    | some t => readTruthWord t
    | none => .fault .boolParsing
  | .int n => ofNumber (shortInteger? n)
  | .float d => ofNumber (d.toInt?.bind shortInteger?)
  | _ => .fault .boolType
where
  ofNumber : Option Int → Checked Bool
    | some 0 => .valid false
    | some 1 => .valid true
    | some _ => .fault .boolParsing
    | none => .fault .boolType

/-- Null as absence, anything else by the given reading. -/
def readNullable {α : Type} (read : Document → Checked α) : Document → Checked (Option α)
  | .null => .valid none
  | d => (read d).map some

/-! ## Lists -/

/-- The members of a list, read one by one, located by their positions from `start` on. -/
def readItemsFrom {α : Type} (read : Document → Checked α) : Nat → List Document → Checked (List α)
  | _, [] => .valid []
  | start, d :: ds =>
    List.cons <$> (read d).under (.index start) <*> readItemsFrom read (start + 1) ds

/-- A list; a tuple or a set will do. -/
def readList {α : Type} (read : Document → Checked α) (d : Document) : Checked (List α) :=
  match d.exposed with
  | .list items | .tuple items | .set items => readItemsFrom read 0 items
  | _ => .fault .listType

/-! ## Keys -/

/-- How a fault's path names a key. -/
def keySegment : Document → Segment
  | .str t => .key t.replaceSurrogates
  | .bool b => .index (if b then 1 else 0)
  | .int n =>
    if (shortInteger? n).isSome then .index n
    else if isShownNumber n then .key (Text.decimalInt n)
    else .key "<unprintable int object>"
  | d => .key d.shown

def isKeyWithSurrogate : Document → Bool
  | .str t => t.hasSurrogate
  | _ => false

end Document

/-! ## Fields -/

namespace Mapping

/-- The entry under the first of the names that is present. -/
def field? (m : Mapping) (names : List Text) : Option (Text × Document) :=
  names.findSome? fun name => (Mapping.value? name m).map fun v => (name, v)

/-- A field under one of the names, or what stands for it where it is absent. -/
def fieldOr {α : Type} (m : Mapping) (names : List Text) (absent : Checked α)
    (read : Document → Checked α) : Checked α :=
  match Mapping.field? m names with
  | some (name, v) => (read v).under (.key name)
  | none => absent

/-- A field that must be there. -/
def required {α : Type} (m : Mapping) (names : List Text) (read : Document → Checked α) :
    Checked α :=
  Mapping.fieldOr m names ((Checked.fault .missing).under (.key (names.headD []))) read

/-- A field that has a default. -/
def optional {α : Type} (m : Mapping) (names : List Text) (default : α)
    (read : Document → Checked α) : Checked α :=
  Mapping.fieldOr m names (.valid default) read

/-- A field that may be absent or null. -/
def nullable {α : Type} (m : Mapping) (names : List Text) (read : Document → Checked α) :
    Checked (Option α) :=
  Mapping.optional m names none (Document.readNullable read)

/-- The names under which the fields were found. -/
def namesRead (m : Mapping) (fields : List (List Text)) : List Text :=
  fields.filterMap fun names => (Mapping.field? m names).map Prod.fst

/-- The entries that no field has taken. Their keys have to be text. -/
def extrasBesides (taken : List Text) : Mapping → Checked (List (Text × Document))
  | [] => .valid []
  | (.str t, v) :: es =>
    if taken.contains t then extrasBesides taken es
    else List.cons (t, v) <$> extrasBesides taken es
  | (k, _) :: es =>
    (fun _ rest => rest) <$> (Checked.fault .invalidKey : Checked Unit).under k.keySegment
      <*> extrasBesides taken es

/-- A reading that looks at every key: a key without an encoding is the only fault then. -/
def checkingKeys {α : Type} (m : Mapping) (read : Checked α) : Checked α :=
  if m.any fun e => e.1.isKeyWithSurrogate then .fault .stringUnicode else read

end Mapping

/-- A value read from the entries of a mapping. -/
def Document.readMapping {α : Type} (read : Mapping → Checked α) (d : Document) : Checked α :=
  match d.exposed with
  | .map m => read m
  | _ => .fault .modelType

end KubeJava
