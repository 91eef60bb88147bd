import KubeJava.Settings
import KubeJava.Text.Digit
import KubeJava.Text.Lines

set_option autoImplicit false

/-! # Options

The options of the command line. A long option may be shortened to any text that starts it and no
other; its value follows as the next word or after an equals sign; short options may be put
together. A word that looks like an option is no value, unless it is a negative number. -/

namespace KubeJava.CommandLine

/-! ## The options -/

inductive Opt where
  | help
  | input
  | output
  | config
  | noEnumUppercase
  | prefixPolicy
  | suffix
  | suffixPolicy
  | verbose
  deriving DecidableEq, Repr

namespace Opt

def all : List Opt :=
  [.help, .input, .output, .config, .noEnumUppercase, .prefixPolicy, .suffix, .suffixPolicy,
    .verbose]

/-- The spellings of an option, a short one first. -/
def spellings : Opt → List Text
  | .help => ["-h", "--help"]
  | .input => ["--input"]
  | .output => ["--output"]
  | .config => ["--config"]
  | .noEnumUppercase => ["--no-enum-uppercase"]
  | .prefixPolicy => ["--prefix-policy"]
  | .suffix => ["--suffix"]
  | .suffixPolicy => ["--suffix-policy"]
  | .verbose => ["-v", "--verbose"]

def takesValue : Opt → Bool
  | .help | .noEnumUppercase | .verbose => false
  | _ => true

def isRequired : Opt → Bool
  | .input | .output => true
  | _ => false

/-- The values that an option is limited to, if it is. -/
def choices : Opt → List Text
  | .prefixPolicy | .suffixPolicy => AffixPolicy.all.map AffixPolicy.word
  | _ => []

/-- The option as messages name it. -/
def label (o : Opt) : Text := ("/" : Text).intercalate o.spellings

end Opt

/-- Every spelling with its option, in the order in which matches are listed. -/
def spellings : List (Text × Opt) := Opt.all.flatMap fun o => o.spellings.map fun s => (s, o)

/-! ## Errors -/

inductive ArgumentError where
  | ambiguous (word : Text) (matching : List Text)
  | missingValue (o : Opt)
  | ignoredValue (o : Opt) (value : Text)
  | invalidChoice (o : Opt) (value : Text)
  | missingOptions (os : List Opt)
  | unrecognized (words : List Text)

def ArgumentError.message : ArgumentError → Text
  | .ambiguous word matching =>
    "ambiguous option: " ++ word ++ " could match " ++ Text.commaSeparated matching
  | .missingValue o => "argument " ++ o.label ++ ": expected one argument"
  | .ignoredValue o value =>
    "argument " ++ o.label ++ ": ignored explicit argument " ++ value.quoted
  | .invalidChoice o value =>
    "argument " ++ o.label ++ ": invalid choice: " ++ value.quoted ++ " (choose from " ++
      Text.commaSeparated (o.choices.map Text.quoted) ++ ")"
  | .missingOptions os =>
    "the following arguments are required: " ++ Text.commaSeparated (os.map Opt.label)
  | .unrecognized words => "unrecognized arguments: " ++ (" " : Text).intercalate words

/-! ## Words -/

/-- What an option starts with. -/
def hyphen : CodePoint := '-'

/-- What stands between an option and a value in the same word. -/
def equalsSign : CodePoint := '='

/-- What stands before the fraction of a number. -/
def point : CodePoint := '.'

/-- A value in the same word as its option. -/
structure Attached where
  /-- Whether an equals sign stands before it. -/
  marked : Bool
  value : Text

inductive Word where
  /-- A value, or a word that belongs nowhere. -/
  | operand
  | unknownOption
  | option (o : Opt) (short : Bool) (attached : Option Attached)

def isShort (spelling : Text) : Bool := spelling.length = 2

/-- Whether a text is digits, or digits around a point of which the last are not missing. -/
def isUnsignedNumber (t : Text) : Bool :=
  match t.dropWhile Text.isDecimalDigit with
  | [] => !t.isEmpty
  | c :: fraction => c = point && !fraction.isEmpty && fraction.all Text.isDecimalDigit

/-- Whether a word is a negative number. One line feed after it is tolerated. -/
def isNegativeNumber (word : Text) : Bool :=
  match word.dropFinalLineFeed with
  | c :: number => c = hyphen && isUnsignedNumber number
  | [] => false

/-- The part of a word before its first equals sign, and what follows the sign. -/
def splitAtEquals (word : Text) : Text × Option Text :=
  match word.dropWhile (· ≠ equalsSign) with
  | [] => (word, none)
  | _ :: value => (word.takeWhile (· ≠ equalsSign), some value)

/-- The options that an unfinished spelling may mean. -/
def candidates (word : Text) : List (Text × Word) :=
  if [hyphen, hyphen].isPrefixOf word then
    let (name, value) := splitAtEquals word
    spellings.filterMap fun (s, o) =>
      if name.isPrefixOf s then some (s, .option o false (value.map fun v => ⟨true, v⟩))
      else none
  else
    spellings.filterMap fun (s, o) =>
      if s = word.take 2 then some (s, .option o true (some ⟨false, word.drop 2⟩))
      else if word.isPrefixOf s then some (s, .option o (isShort s) none)
      else none

/-- What a word is that spells no option in full. -/
def readUnfinished (word : Text) : Except ArgumentError Word :=
  match candidates word with
  | [] => .ok (if isNegativeNumber word || word.contains ' ' then .operand else .unknownOption)
  | [(_, w)] => .ok w
  | many => .error (.ambiguous word (many.map Prod.fst))

/-- What a word is. -/
def readWord (word : Text) : Except ArgumentError Word :=
  if word.head? ≠ some hyphen then .ok .operand
  else
    match spellings.lookup word with
    | some o => .ok (.option o (isShort word) none)
    | none =>
      if word.length = 1 then .ok .operand
      else
        match splitAtEquals word with
        | (name, some value) =>
          match spellings.lookup name with
          | some o => .ok (.option o (isShort name) (some ⟨true, value⟩))
          | none => readUnfinished word
        | (_, none) => readUnfinished word

/-- The word after which all words are operands. -/
def endOfOptions : Text := [hyphen, hyphen]

/-- The words of a command line; after a lone double hyphen all are operands, and none of them can
be the value of an option before it. -/
def readWords : List Text → Except ArgumentError (List (Text × Word))
  | [] => .ok []
  | word :: rest =>
    if word = endOfOptions then .ok ((word, .unknownOption) :: rest.map fun w => (w, .operand))
    else do
      let w ← readWord word
      return (word, w) :: (← readWords rest)

/-! ## Values -/

/-- The options that were given, each with its value, and the words that belong nowhere. -/
structure Given where
  options : List (Opt × Text) := []
  extras : List Text := []

def Given.addExtra (g : Given) (word : Text) : Given := { g with extras := g.extras ++ [word] }

/-- Adds an option with its value, which has to be one of the choices. -/
def Given.add (g : Given) (o : Opt) (value : Text) : Except ArgumentError Given :=
  if o.choices.isEmpty || o.choices.contains value then
    .ok { g with options := g.options ++ [(o, value)] }
  else .error (.invalidChoice o value)

/-- The options in a word that starts with a short option without value, and what is left over. -/
def readCluster : (fuel : Nat) → Opt → Attached → Except ArgumentError (List Opt × Option Text)
  | 0, o, _ => .ok ([o], none)
  | fuel + 1, o, attached =>
    match attached.value with
    | [] => .error (.ignoredValue o [])
    | c :: rest =>
      if attached.marked || c = hyphen then .error (.ignoredValue o attached.value)
      else
        match spellings.lookup [hyphen, c], rest with
        | none, _ => .ok ([o], some (hyphen :: attached.value))
        | some next, [] => .ok ([o, next], none)
        | some next, d :: value => do
          let marked : Bool := d = equalsSign
          let (os, extra) ← readCluster fuel next ⟨marked, if marked then value else rest⟩
          return (o :: os, extra)

/-- Adds an option that takes no value. -/
def Given.addFlag (g : Given) (o : Opt) (short : Bool) (attached : Option Attached) :
    Except ArgumentError Given := do
  match attached with
  | none => g.add o []
  | some a =>
    if !short then throw (.ignoredValue o a.value)
    let (os, extra) ← readCluster (a.value.length + 1) o a
    let g := match extra with
      | none => g
      | some word => g.addExtra word
    os.foldlM (fun g o => g.add o []) g

/-- Collects options and their values. A call for help ends the reading. -/
def collect (g : Given) : List (Text × Word) → Except ArgumentError Given
  | [] => .ok g
  | (word, .operand) :: rest | (word, .unknownOption) :: rest => collect (g.addExtra word) rest
  | (_, .option o short attached) :: rest =>
    if o.takesValue then
      match attached, rest with
      | some a, rest => do collect (← g.add o a.value) rest
      | none, (value, .operand) :: rest => do collect (← g.add o value) rest
      | none, _ => .error (.missingValue o)
    else do
      let g ← g.addFlag o short attached
      if g.options.any fun x => x.1 = .help then return g else collect g rest

namespace Given

/-- The last value given for an option. -/
def value? (g : Given) (o : Opt) : Option Text := g.options.reverse.lookup o

def has (g : Given) (o : Opt) : Bool := (g.value? o).isSome

end Given

/-! ## Arguments -/

structure Arguments where
  input : Text
  output : Text
  config : Option Text
  noEnumUppercase : Bool
  prefixPolicy : Option AffixPolicy
  suffix : Option Text
  suffixPolicy : Option AffixPolicy
  verbose : Bool

/-- What a command line asks for. -/
inductive Request where
  | help
  | generate (arguments : Arguments)

def Request.read (argv : List Text) : Except ArgumentError Request := do
  let g ← collect {} (← readWords argv)
  if g.has .help then return .help
  match g.value? .input, g.value? .output with
  | some input, some output =>
    if !g.extras.isEmpty then throw (.unrecognized g.extras)
    return .generate
      { input
        output
        config := (g.value? .config).filter (· ≠ [])
        noEnumUppercase := g.has .noEnumUppercase
        prefixPolicy := (g.value? .prefixPolicy).bind AffixPolicy.ofWord?
        suffix := g.value? .suffix
        suffixPolicy := (g.value? .suffixPolicy).bind AffixPolicy.ofWord?
        verbose := g.has .verbose }
  | _, _ => throw (.missingOptions (Opt.all.filter fun o => o.isRequired && !g.has o))

end KubeJava.CommandLine
