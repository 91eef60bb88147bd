import KubeJava.Number.Double
import KubeJava.Text.Basic

set_option autoImplicit false

/-! # Documents

A document is a value of the data language that configurations and resource definitions are written
in. Mappings keep the order of their entries, and any value but a collection may be a key. A
collection may be met again inside itself; it then carries a label, and the label stands for it
there. Collections around it may carry labels as well, though nothing names them. -/

namespace KubeJava

/-! ## Dates -/

structure Date where
  year : Nat
  month : Nat
  day : Nat
  deriving DecidableEq, Repr

/-- A time of day on a date, with the offset from universal time in seconds if one was written. -/
structure Timestamp where
  date : Date
  hour : Nat
  minute : Nat
  second : Nat
  microsecond : Nat
  offset : Option Int
  deriving DecidableEq, Repr

def isLeapYear (year : Nat) : Bool := year % 4 = 0 && (year % 100 ≠ 0 || year % 400 = 0)

def daysInMonth (year month : Nat) : Nat :=
  if month = 2 then (if isLeapYear year then 29 else 28)
  else if month = 4 ∨ month = 6 ∨ month = 9 ∨ month = 11 then 30
  else 31

/-- The number of days from the last day before year 1 to a date. -/
def Date.ordinal (d : Date) : Nat :=
  let y := d.year - 1
  let inMonths := (List.range (d.month - 1)).foldl (fun n m => n + daysInMonth d.year (m + 1)) 0
  365 * y + y / 4 - y / 100 + y / 400 + inMonths + d.day

/-- Microseconds from a fixed instant, by the clock that the timestamp was written for. -/
def Timestamp.clock (t : Timestamp) : Int :=
  (((t.date.ordinal * 24 + t.hour) * 60 + t.minute) * 60 + t.second) * 1000000 + t.microsecond

/-- Whether two timestamps name one instant; one with an offset and one without never do. -/
def Timestamp.same (a b : Timestamp) : Bool :=
  match a.offset, b.offset with
  | none, none => a.clock = b.clock
  | some p, some q => a.clock - p * 1000000 = b.clock - q * 1000000
  | _, _ => false

/-! ## Values -/

inductive Document where
  | null
  | bool (b : Bool)
  | int (n : Int)
  | float (d : Double)
  | str (t : Text)
  | bytes (bs : List UInt8)
  | date (d : Date)
  | timestamp (t : Timestamp)
  | list (items : List Document)
  /-- A fixed sequence of values, which does not count as a list. -/
  | tuple (items : List Document)
  | map (entries : List (Document × Document))
  /-- A set, its members in the order in which it lists them. -/
  | set (members : List Document)
  /-- A collection that leads into a cycle. -/
  | cyclic (label : Nat) (body : Document)
  /-- The collection around this place that has the label. -/
  | within (label : Nat)
  deriving Repr, Inhabited

/-- The entries of a mapping, in order. -/
abbrev Mapping := List (Document × Document)

namespace Document

/-! ## Cycles -/

mutual

/-- The document with a value in the place of a label. -/
def fill (label : Nat) (value : Document) : Document → Document
  | .within l => if l = label then value else .within l
  | .cyclic l body => if l = label then .cyclic l body else .cyclic l (fill label value body)
  | .list items => .list (fillItems label value items)
  | .tuple items => .tuple (fillItems label value items)
  | .set members => .set (fillItems label value members)
  | .map entries => .map (fillEntries label value entries)
  | d => d

def fillItems (label : Nat) (value : Document) : List Document → List Document
  | [] => []
  | d :: ds => fill label value d :: fillItems label value ds

def fillEntries (label : Nat) (value : Document) : Mapping → Mapping
  | [] => []
  | e :: es => fillEntry label value e :: fillEntries label value es

def fillEntry (label : Nat) (value : Document) : Document × Document → Document × Document
  | (k, v) => (fill label value k, fill label value v)

end

/-- The value itself, a labelled collection with its own value put in where it is met again. -/
def exposed : Document → Document
  | .cyclic label body => fill label (.cyclic label body) body
  | d => d

/-- The label of a collection that leads into a cycle. -/
def label? : Document → Option Nat
  | .cyclic label _ => some label
  | _ => none

/-! ## Keys -/

/-- The whole number that a truth value, an integer or a float without fractional part stands for:
as keys, `true`, `1` and `1.0` are the same. -/
def wholeNumber? : Document → Option Int
  | .bool b => some (if b then 1 else 0)
  | .int n => some n
  | .float d => d.toInt?
  | _ => none

/-- The members of a set in the order in which it lists them: whole numbers ascend, and a set with
other members keeps the order in which they were written. -/
def ascending (members : List Document) : List Document :=
  if members.all fun d => d.wholeNumber?.isSome then
    members.mergeSort fun a b => a.wholeNumber?.getD 0 ≤ b.wholeNumber?.getD 0
  else members

/-- Whether two keys of a mapping are the same one. -/
def sameKey (a b : Document) : Bool :=
  match a.wholeNumber?, b.wholeNumber? with
  | some m, some n => m = n
  | none, none =>
    match a, b with
    | .null, .null => true
    | .float x, .float y => x = y
    | .str s, .str t => s = t
    | .bytes x, .bytes y => x = y
    | .date x, .date y => x = y
    | .timestamp x, .timestamp y => x.same y
    | _, _ => false
  | _, _ => false

end Document

namespace Mapping

/-- The entries with a key set to a value: a key that is present keeps its place. -/
def put {α : Type} (key : Document) (value : α) : List (Document × α) → List (Document × α)
  | [] => [(key, value)]
  | e :: es => if e.1.sameKey key then (e.1, value) :: es else e :: put key value es

/-- The value of a text key. -/
def value? (name : Text) : Mapping → Option Document
  | [] => none
  | (.str t, v) :: es => if t = name then some v else value? name es
  | _ :: es => value? name es

end Mapping

end KubeJava
