import KubeJava.Document.Basic
import KubeJava.Text.Hex
import KubeJava.Text.Lines

set_option autoImplicit false

/-! # Forms

Which type the text of a scalar looks like. Whole numbers may be written in four bases or in base
sixty, with underscores between the digits. -/

namespace KubeJava.Yaml

/-! ## Tags -/

namespace Tag

def leader : String := "tag:yaml.org,2002:"

def null : String := leader ++ "null"
def bool : String := leader ++ "bool"
def int : String := leader ++ "int"
def float : String := leader ++ "float"
def binary : String := leader ++ "binary"
def timestamp : String := leader ++ "timestamp"
def str : String := leader ++ "str"
def seq : String := leader ++ "seq"
def map : String := leader ++ "map"
def omap : String := leader ++ "omap"
def pairs : String := leader ++ "pairs"
def set : String := leader ++ "set"
def merge : String := leader ++ "merge"
def value : String := leader ++ "value"
def yaml : String := leader ++ "yaml"

end Tag

/-! ## Forms -/

def boolWords : List String :=
  ["yes", "Yes", "YES", "true", "True", "TRUE", "on", "On", "ON", "no", "No", "NO", "false",
    "False", "FALSE", "off", "Off", "OFF"]

def nullWords : List String := ["", "~", "null", "Null", "NULL"]

/-- Single indicators, which are no text. -/
def indicatorWords : List String := ["!", "&", "*"]

/-- The text without a sign in front. -/
def dropSign : List Char → List Char
  | '+' :: rest | '-' :: rest => rest
  | cs => cs

def isDigitOrUnderscore (c : Char) : Bool := c.isDigit || c == '_'

/-- The parts after the first of a number in base sixty: one or two digits below sixty each. -/
def areSixties (parts : List (List Char)) : Bool :=
  !parts.isEmpty && parts.all fun
    | [d] => d.isDigit
    | [t, d] => '0' ≤ t && t ≤ '5' && d.isDigit
    | _ => false

/-- Whether a text starts with a digit of a range and goes on with digits and underscores. -/
def isDigitRun (least : Char) : List Char → Bool
  | [] => false
  | c :: rest => least ≤ c && c ≤ '9' && rest.all isDigitOrUnderscore

def isIntForm (cs : List Char) : Bool :=
  match dropSign cs with
  | '0' :: 'b' :: ds => !ds.isEmpty && ds.all fun c => c == '0' || c == '1' || c == '_'
  | '0' :: 'x' :: ds => !ds.isEmpty && ds.all fun c => (Text.digitValue? c).isSome || c == '_'
  | '0' :: ds => ds.all fun c => ('0' ≤ c && c ≤ '7') || c == '_'
  | ds =>
    match Text.partsAt ':' ds with
    | [whole] => isDigitRun '1' whole
    | whole :: sixties => isDigitRun '1' whole && areSixties sixties
    | [] => false

/-- An exponent, which needs a sign, or nothing. -/
def isExponentForm : List Char → Bool
  | [] => true
  | e :: sign :: ds =>
    (e == 'e' || e == 'E') && (sign == '+' || sign == '-') && !ds.isEmpty && ds.all Char.isDigit
  | _ => false

/-- Digits around a point, with an exponent. -/
def isDecimalForm (whole rest : List Char) : Bool :=
  isDigitRun '0' whole && isExponentForm (rest.dropWhile isDigitOrUnderscore)

def isFloatForm (cs : List Char) : Bool :=
  let signless := dropSign cs
  let whole := signless.takeWhile fun c => c != '.'
  match signless.dropWhile fun c => c != '.' with
  | [] => false
  | _ :: rest =>
    if whole.isEmpty then
      [".inf", ".Inf", ".INF"].contains (String.ofList signless) ||
        [".nan", ".NaN", ".NAN"].contains (String.ofList cs) ||
        (signless.length = cs.length &&
          isDigitRun '0' (rest.takeWhile isDigitOrUnderscore) &&
          isExponentForm (rest.dropWhile isDigitOrUnderscore))
    else
      isDecimalForm whole rest ||
        match Text.partsAt ':' whole with
        | first :: sixties =>
          isDigitRun '0' first && areSixties sixties && rest.all isDigitOrUnderscore
        | [] => false

/-! ## Dates and times -/

/-- A number of a given least and greatest count of digits, and the text after it. -/
def digits? (least most : Nat) (cs : List Char) : Option (Nat × List Char) :=
  let run := (cs.take most).takeWhile Char.isDigit
  if run.length < least then none
  else (Text.readDigits? 10 run).map fun n => (n, cs.drop run.length)

def char? (c : Char) : List Char → Option (List Char)
  | d :: rest => if c = d then some rest else none
  | [] => none

def isGap (c : Char) : Bool := c == ' ' || c == '\t'

/-- The offset at the end of a time, in seconds. -/
def offset? (cs : List Char) : Option (Option Int) :=
  match cs.dropWhile isGap with
  | [] => if cs.isEmpty then some none else none
  | ['Z'] => some (some 0)
  | sign :: rest =>
    if sign ≠ '+' ∧ sign ≠ '-' then none
    else do
      let (hours, rest) ← digits? 1 2 rest
      let minutes ← match rest with
        | [] => some 0
        | ':' :: rest =>
          match digits? 2 2 rest with
          | some (n, []) => some n
          | _ => none
        | _ => none
      let seconds : Int := (hours * 60 + minutes) * 60
      return some (if sign = '-' then -seconds else seconds)

/-- A date, or a date and a time; numbers are not checked against the calendar. -/
def dateOrTime? (cs : List Char) : Option (Date × Option Timestamp) := do
  let (year, cs) ← digits? 4 4 cs
  let (month, cs) ← digits? 1 2 (← char? '-' cs)
  let (day, cs) ← digits? 1 2 (← char? '-' cs)
  let date : Date := ⟨year, month, day⟩
  match cs with
  | [] => return (date, none)
  | sep :: rest =>
    let rest ←
      if sep = 'T' ∨ sep = 't' then some rest
      else if isGap sep then some (rest.dropWhile isGap)
      else none
    let (hour, rest) ← digits? 1 2 rest
    let (minute, rest) ← digits? 2 2 (← char? ':' rest)
    let (second, rest) ← digits? 2 2 (← char? ':' rest)
    let (fraction, rest) := match rest with
      | '.' :: rest => (rest.takeWhile Char.isDigit, rest.dropWhile Char.isDigit)
      | rest => ([], rest)
    let offset ← offset? rest
    let micros := (fraction ++ List.replicate 6 '0').take 6
    let microsecond := (Text.readDigits? 10 micros).getD 0
    return (date, some ⟨date, hour, minute, second, microsecond, offset⟩)

/-- A lone date needs two digits for month and day; the text of one is ten characters long. -/
def isTimestampForm (cs : List Char) : Bool :=
  match dateOrTime? cs with
  | none => false
  | some (_, none) => cs.length = 10
  | some (_, some _) => true

/-! ## Types -/

/-- The tag of the form that characters have. -/
def Tag.ofForm (cs : List Char) : String :=
  let word := String.ofList cs
  if boolWords.contains word then Tag.bool
  else if nullWords.contains word then Tag.null
  else if word = "<<" then Tag.merge
  else if word = "=" then Tag.value
  else if indicatorWords.contains word then Tag.yaml
  else if isFloatForm cs then Tag.float
  else if isIntForm cs then Tag.int
  else if isTimestampForm cs then Tag.timestamp
  else Tag.str

/-- The tag of the type that a text looks like. One line feed after a form is tolerated, but a lone
line feed is text, and so is what holds surrogates. -/
def Tag.ofText (t : Text) : String :=
  if t = "\n" then Tag.str
  else
    match t.dropFinalLineFeed.chars? with
    | some cs => Tag.ofForm cs
    | none => Tag.str

end KubeJava.Yaml
