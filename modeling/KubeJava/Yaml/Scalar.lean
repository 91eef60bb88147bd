import KubeJava.Number.Numeral
import KubeJava.Text.Base64
import KubeJava.Text.Case
import KubeJava.Yaml.Form
import KubeJava.Yaml.Cursor

set_option autoImplicit false

/-! # Scalars

The values of texts as the types that their tags name. A tag may claim more than the text keeps, so
each reading names what is wrong with it. -/

namespace KubeJava.Yaml

/-! ## Numbers -/

/-- The text without underscores, whether a minus sign stood in front of it, and the rest after a
sign; an empty text has no first character to look at. -/
def unsignedPart (t : Text) : Reading (Bool × Text) :=
  match t.filter (· ≠ ('_' : CodePoint)) with
  | [] => .error .emptyNumber
  | c :: rest =>
    if c = '-' then .ok (true, rest)
    else if c = '+' then .ok (false, rest)
    else .ok (false, c :: rest)

/-- The whole number that a text spells in a base. -/
def wholeValue (base : Nat) (t : Text) : Reading Int :=
  match Numeral.readWhole base t with
  | .ok n => .ok n
  | .error .notWhole => .error (.noWhole base t)
  | .error (.tooManyDigits count) => .error (.tooManyDigits count)

/-- What separates the places of a number in base sixty. -/
def placeSeparator : CodePoint := ':'

/-- A sum of parts, each worth sixty times the next. -/
def sixtySum (parts : List Int) : Int := parts.foldl (fun sum n => sum * 60 + n) 0

def baseTwoMark : Text := "0b"

def baseSixteenMark : Text := "0x"

/-- A whole number without its sign: in base two or sixteen after a mark, in base eight after a
zero, in base sixty with colons, and in base ten. -/
def magnitude (t : Text) : Reading Int :=
  if t = "0" then .ok 0
  else if baseTwoMark.isPrefixOf t then wholeValue 2 (t.drop 2)
  else if baseSixteenMark.isPrefixOf t then wholeValue 16 (t.drop 2)
  else
    match t with
    | [] => .error .emptyNumber
    | c :: _ =>
      if c = '0' then wholeValue 8 t
      else if t.contains placeSeparator then do
        return sixtySum (← (Text.partsAt placeSeparator t).mapM (wholeValue 10))
      else wholeValue 10 t

def intValue (t : Text) : Reading Document := do
  let (negative, rest) ← unsignedPart t
  let n ← magnitude rest
  return .int (if negative then -n else n)

def doubleValue (t : Text) : Reading Double :=
  match Numeral.readDouble? t with
  | some d => .ok d
  | none => .error (.noDouble t)

/-- The places of a number in base sixty that are worth a finite number. -/
def maxSixtyPlaces : Nat := 174

/-- The value in base sixty of parts given last first, where the first has the given place. -/
def sixtyFloat : (place : Nat) → List Double → Float → Reading Float
  | _, [], sum => .ok sum
  | place, d :: ds, sum =>
    if maxSixtyPlaces ≤ place then .error .placeTooLarge
    else
      let worth := (Double.ofDecimal false (Nat.pow 60 place) 0).toFloat
      sixtyFloat (place + 1) ds (sum + d.toFloat * worth)

/-- A decimal without its sign, in lower case. -/
def floatMagnitude (t : Text) : Reading Double := do
  if t = ".inf" then return .infinity false
  else if t = ".nan" then return .nan
  else if t.contains placeSeparator then
    let parts ← (Text.partsAt placeSeparator t).mapM doubleValue
    return .ofFloat (← sixtyFloat 0 parts.reverse 0)
  else doubleValue t

def floatValue (t : Text) : Reading Document := do
  let (negative, rest) ← unsignedPart t.lower
  let d ← floatMagnitude rest
  return .float (if negative && !d.isNaN then .ofFloat (-d.toFloat) else d)

/-! ## Truth values -/

def truthWords : List (Text × Bool) :=
  [("yes", true), ("no", false), ("true", true), ("false", false), ("on", true), ("off", false)]

def boolValue (t : Text) : Reading Document :=
  match truthWords.lookup t.lower with
  | some b => .ok (.bool b)
  | none => .error (.noTruthWord t.lower)

/-! ## Dates and times -/

/-- The first thing wrong with a date. -/
def dateFault? (d : Date) : Option DateFault :=
  if d.year = 0 then some .year
  else if d.month = 0 ∨ 12 < d.month then some .month
  else if d.day = 0 ∨ daysInMonth d.year d.month < d.day then some .day
  else none

/-- The first thing wrong with a time of day. -/
def clockFault? (t : Timestamp) : Option DateFault :=
  if 23 < t.hour then some .hour
  else if 59 < t.minute then some .minute
  else if 59 < t.second then some .second
  else none

/-- The first thing wrong with a timestamp; its offset has to be shorter than a day. -/
def timestampProblem? (t : Timestamp) : Option Problem :=
  let offset := t.offset.getD 0
  if 86400 ≤ offset.natAbs then some (.offsetTooLarge offset)
  else ((dateFault? t.date).or (clockFault? t)).map .noDate

/-- A date or a timestamp; one line feed after it is tolerated. -/
def timestampValue (t : Text) : Reading Document :=
  match t.dropFinalLineFeed.chars?.bind dateOrTime? with
  | none => .error .noTimestamp
  | some (d, none) =>
    match dateFault? d with
    | some fault => .error (.noDate fault)
    | none => .ok (.date d)
  | some (_, some t) =>
    match timestampProblem? t with
    | some p => .error p
    | none => .ok (.timestamp t)

/-! ## All types -/

/-- Bytes in base 64, which is ASCII. -/
def binaryValue (t : Text) : Reading Document :=
  if t.any fun c => 128 ≤ c.val then .error .malformed
  else
    match t.chars?.bind Text.Base64.decode with
    | some bs => .ok (.bytes bs)
    | none => .error .malformed

/-- The tags of scalars, each with the reading of its texts. -/
def scalarReadings : List (String × (Text → Reading Document)) :=
  [(Tag.null, fun _ => .ok .null), (Tag.bool, boolValue), (Tag.int, intValue),
    (Tag.float, floatValue), (Tag.binary, binaryValue), (Tag.timestamp, timestampValue),
    (Tag.str, fun t => .ok (.str t))]

end KubeJava.Yaml
