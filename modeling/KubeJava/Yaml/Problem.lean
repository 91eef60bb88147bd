import KubeJava.Document.Printer

set_option autoImplicit false

/-! # Problems

Why a text gives no values. Most texts that fail are malformed; the other problems lie in single
scalars whose text has no value of the type that they claim. -/

namespace KubeJava.Yaml

/-- The first part of a date that does not exist. -/
inductive DateFault where
  | year
  | month
  | day
  | hour
  | minute
  | second
  deriving DecidableEq, Repr

inductive Problem where
  /-- The text is not well formed, or holds something that stands for no value. -/
  | malformed
  /-- The bytes are no UTF-8. -/
  | noText
  /-- An escape gives a number that no code point has. -/
  | noCodePoint
  /-- An escape gives a number that takes more than 31 bits. -/
  | codeTooLarge
  /-- A number without any character. -/
  | emptyNumber
  | noWhole (base : Nat) (text : Text)
  | tooManyDigits (count : Nat)
  | noDouble (text : Text)
  /-- A place of a number in base sixty is worth more than any number. -/
  | placeTooLarge
  | noTruthWord (word : Text)
  | noTimestamp
  /-- A mapping stands for the text of a timestamp. -/
  | timestampOfMapping
  | noDate (fault : DateFault)
  /-- An offset of a day or more, in seconds. -/
  | offsetTooLarge (seconds : Int)
  /-- A mapping stands for its own text. -/
  | endlessScalar
  deriving DecidableEq, Repr

def DateFault.message : DateFault → Text
  | .year => "year 0 is out of range"
  | .month => "month must be in 1..12"
  | .day => "day is out of range for month"
  | .hour => "hour must be in 0..23"
  | .minute => "minute must be in 0..59"
  | .second => "second must be in 0..59"

namespace Problem

/-- The greatest length of a quoted numeral in a message. -/
def maxQuotedNumeral : Nat := 200

def message : Problem → Text
  | .malformed => "malformed YAML"
  | .noText => "not UTF-8 text"
  | .noCodePoint => "chr() arg not in range(0x110000)"
  | .codeTooLarge => "Python int too large to convert to C int"
  | .emptyNumber => "string index out of range"
  | .noWhole base t =>
    "invalid literal for int() with base " ++ Text.decimal base ++ ": " ++
      t.quoted.take maxQuotedNumeral
  | .tooManyDigits count =>
    "Exceeds the limit (" ++ Text.decimal Document.maxShownDigits ++
      " digits) for integer string conversion: value has " ++ Text.decimal count ++
      " digits; use sys.set_int_max_str_digits() to increase the limit"
  | .noDouble t => "could not convert string to float: " ++ t.quoted
  | .placeTooLarge => "int too large to convert to float"
  | .noTruthWord word => word.quoted
  | .noTimestamp => "'NoneType' object has no attribute 'groupdict'"
  | .timestampOfMapping => "expected string or bytes-like object, got 'list'"
  | .noDate fault => fault.message
  | .offsetTooLarge seconds =>
    "offset must be a timedelta strictly between -timedelta(hours=24) and timedelta(hours=24), not "
      ++ durationShown seconds ++ "."
  | .endlessScalar => "maximum recursion depth exceeded"

end Problem

end KubeJava.Yaml
