import KubeJava.Document.Basic
import KubeJava.Number.Shortest
import KubeJava.Text.Lines
import KubeJava.Text.Quoted

set_option autoImplicit false

/-! # Document text

How messages show a value, and the standard text of dates. -/

namespace KubeJava

/-- Numbers are positional from `0.0001` up to sixteen digits before the point. -/
def Document.numberLayout : NumberLayout := ⟨-3, 16, 2, "inf", "nan"⟩

/-! ## Dates -/

def Date.isoText (d : Date) : Text :=
  Text.decimalPadded 4 d.year ++ "-" ++ Text.decimalPadded 2 d.month ++ "-" ++
    Text.decimalPadded 2 d.day

/-- An offset as signed hours and minutes. -/
def offsetText (offset : Int) : Text :=
  let minutes := offset.natAbs / 60
  (if offset < 0 then "-" else "+") ++ Text.decimalPadded 2 (minutes / 60) ++ ":" ++
    Text.decimalPadded 2 (minutes % 60)

def Timestamp.isoText (t : Timestamp) : Text :=
  let fraction : Text :=
    if t.microsecond = 0 then "" else "." ++ Text.decimalPadded 6 t.microsecond
  t.date.isoText ++ "T" ++ Text.decimalPadded 2 t.hour ++ ":" ++ Text.decimalPadded 2 t.minute ++
    ":" ++ Text.decimalPadded 2 t.second ++ fraction ++ (t.offset.map offsetText).getD []

def Date.shown (d : Date) : Text :=
  "datetime.date(" ++ Text.commaSeparated ([d.year, d.month, d.day].map Text.decimal) ++ ")"

/-- A length of time by whole days, rounded down, and the seconds left over. -/
def durationShown (seconds : Int) : Text :=
  let days := Int.fdiv seconds 86400
  let rest := Int.fmod seconds 86400
  let parts : List Text := (if days = 0 then [] else ["days=" ++ Text.decimalInt days]) ++
    (if rest = 0 then [] else ["seconds=" ++ Text.decimalInt rest])
  "datetime.timedelta(" ++ Text.commaSeparated parts ++ ")"

/-- A zone is shown by its distance from universal time. -/
def zoneShown (offset : Int) : Text :=
  if offset = 0 then "datetime.timezone.utc"
  else "datetime.timezone(" ++ durationShown offset ++ ")"

def Timestamp.shown (t : Timestamp) : Text :=
  let fine :=
    if t.microsecond ≠ 0 then [t.second, t.microsecond]
    else if t.second ≠ 0 then [t.second]
    else []
  let parts := [t.date.year, t.date.month, t.date.day, t.hour, t.minute] ++ fine
  let zone : List Text := (t.offset.map fun o => "tzinfo=" ++ zoneShown o).toList
  "datetime.datetime(" ++ Text.commaSeparated (parts.map Text.decimal ++ zone) ++ ")"

/-! ## Values -/

namespace Document

/-- How a collection is shown inside itself. -/
def abbreviation : Document → Text
  | .map _ => "\x7b...\x7d"
  | .set _ => "set(...)"
  | .tuple _ => "(...)"
  | _ => "[...]"

mutual

/-- A value as messages show it, inside collections that are being shown: each of them is given with
its label and its abbreviation. -/
def shownInside (around : List (Nat × Text)) : Document → Text
  | .null => "None"
  | .bool b => if b then "True" else "False"
  | .int n => Text.decimalInt n
  | .float d => numberLayout.text d
  | .str t => Text.quoted t
  | .bytes bs => Text.quotedBytes bs
  | .date d => d.shown
  | .timestamp t => t.shown
  | .list items => "[" ++ Text.commaSeparated (shownItems around items) ++ "]"
  | .tuple [item] => "(" ++ item.shownInside around ++ ",)"
  | .tuple items => "(" ++ Text.commaSeparated (shownItems around items) ++ ")"
  | .map entries => "\x7b" ++ Text.commaSeparated (shownEntries around entries) ++ "\x7d"
  | .set members =>
    if members.isEmpty then "set()"
    else "\x7b" ++ Text.commaSeparated (shownItems around members) ++ "\x7d"
  | .cyclic label body =>
    match around.lookup label with
    | some abbreviated => abbreviated
    | none => body.shownInside ((label, body.abbreviation) :: around)
  | .within label => (around.lookup label).getD []

def shownItems (around : List (Nat × Text)) : List Document → List Text
  | [] => []
  | d :: ds => d.shownInside around :: shownItems around ds

def shownEntries (around : List (Nat × Text)) : Mapping → List Text
  | [] => []
  | e :: es => shownEntry around e :: shownEntries around es

def shownEntry (around : List (Nat × Text)) : Document × Document → Text
  | (k, v) => k.shownInside around ++ ": " ++ v.shownInside around

end

/-- A value as messages show it. -/
def shown (d : Document) : Text := d.shownInside []

/-- The greatest number of digits of a whole number that is shown. -/
def maxShownDigits : Nat := 4300

def isShownNumber (n : Int) : Bool := n.natAbs < Nat.pow 10 maxShownDigits

mutual

/-- Whether no whole number in a value is too long to be shown. -/
def canBeShown : Document → Bool
  | .int n => isShownNumber n
  | .list items | .tuple items | .set items => canAllBeShown items
  | .map entries => canEntriesBeShown entries
  | .cyclic _ body => body.canBeShown
  | _ => true

def canAllBeShown : List Document → Bool
  | [] => true
  | d :: ds => d.canBeShown && canAllBeShown ds

def canEntriesBeShown : Mapping → Bool
  | [] => true
  | e :: es => canEntryBeShown e && canEntriesBeShown es

def canEntryBeShown : Document × Document → Bool
  | (k, v) => k.canBeShown && v.canBeShown

end

/-- The name of the kind of a value. -/
def kindName : Document → Text
  | .null => "NoneType"
  | .bool _ => "bool"
  | .int _ => "int"
  | .float _ => "float"
  | .str _ => "str"
  | .bytes _ => "bytes"
  | .date _ => "datetime.date"
  | .timestamp _ => "datetime.datetime"
  | .list _ => "list"
  | .tuple _ => "tuple"
  | .map _ => "dict"
  | .set _ => "set"
  | .cyclic _ body => body.kindName
  | .within _ => ""

end Document

end KubeJava
