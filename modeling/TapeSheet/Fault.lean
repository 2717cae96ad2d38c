import TapeSheet.Json.Printer
import TapeSheet.Path
import TapeSheet.Text.Numeral

/-!
# Faults

Every way in which an operation of this library can refuse its input, grouped by what is wrong with it, and the one
place where faults get their wording.
-/

namespace TapeSheet

/-- An argument outside the range on which an operation is defined. -/
inductive RangeFault
  | ruleLength (length : Nat)
  | ruleDigits (text : Text)
  | ruleCode (code : Int)
  | underivedRow (row : Int)
  | negativeWidth
  | tapeLength (length : Nat) (expected : Int)
  | unknownPreset (key : Value) (known : List String)
  | emptyTape (cols : Int)
  | negativeSeed
  | numeral (fault : Numeral.Fault)
  | decimal (text : Text)
  | yearOutOfRange (year : Nat)
  | monthOutOfRange
  | dayOutOfRange
  | clockOutOfRange (field : String) (last : Nat)
  | offsetOutOfRange (seconds : Int)
  | characterOutOfRange
  | nulInPath
  | unwritableNumber
  | matrixTooLong
  | matrixTooBig

/-- Data of the wrong shape for an operation. -/
inductive ShapeFault
  | tableSize (size : Nat)
  | tableEntry (code : Nat) (outcome : Bool) (left center right : Bool)
  | window (length : Nat) (depth : Int)
  | dimensions (count : Nat)
  | assignment (length : Nat) (lo hi : Int)

/-- A configuration that describes no grid. -/
inductive ConfigFault
  | notInteger (key : String) (got : Value)
  | notPositive (key : String) (got : Int)
  | notPositiveInteger (key : String) (got : Value)
  | capTooLarge (limit : Nat) (got : Int)
  | unknownFormat (known : List String) (got : Value)
  | notMapping (got : Value)
  | unknownKeys (keys : List Value)
  | malformed (path : Path)
  | topLevel (path : Path)
  | noGrids (path : Path)
  | noOutfile

/-- A value of the wrong type. -/
inductive TypeFault
  | notPath (typeName : String)
  | bytesPath
  | notTimeText
  | noQuotient (left right : String)
  | unhashable (typeName : String)
  | unordered (left right : Value)

/-- What the file system answers to an impossible request. -/
inductive FileFault
  | missing (path : Path)
  | occupied (path : Path)
  | notDirectory (path : Path)
  | isDirectory (path : Path)
  | nameTooLong (path : Path)

/-- A number that is too large for what it counts. -/
inductive OverflowFault
  | double
  | character
  | size
  | digits

/-- What something is nested too deeply for. -/
inductive NestingFault
  | unfolding
  | showing

/-- More than there is room for. -/
inductive RoomFault
  | list
  | codes (width : Nat)
  | matrix (width : Nat)

/-- A refused input. -/
inductive Fault
  | range (fault : RangeFault)
  | shape (fault : ShapeFault)
  | config (fault : ConfigFault)
  | type (fault : TypeFault)
  | file (fault : FileFault)
  | json (fault : Json.Fault)
  | overflow (fault : OverflowFault)
  | room (fault : RoomFault)
  | unencodable (misfit : Text.Misfit)
  | unprintable (misfit : Text.Misfit)
  | nesting (fault : NestingFault)
  | part (typeName name : String)
  | index
  | farIndex
  | textIndex
  | word (text : Text)

/-- Wording of a range fault. -/
def RangeFault.message : RangeFault → String
  | ruleLength length => "rule string must be 8 bits long, got " ++ Decimal.ofNat length
  | ruleDigits text => "rule string must contain only 0/1, got " ++ text.quoted
  | ruleCode code => "rule code must be in 0..255, got " ++ Decimal.ofInt code
  | underivedRow row => "derived rows start at 1, got " ++ Decimal.ofInt row
  | negativeWidth => "negative shift count"
  | tapeLength length expected =>
    "tape has " ++ Decimal.ofNat length ++ " cells, rule set expects " ++ Decimal.ofInt expected
  | unknownPreset key known =>
    "unknown preset " ++ key.shown ++ "; choose from [" ++ Text.quotedWords known ++ "]"
  | emptyTape cols => "cols must be positive, got " ++ Decimal.ofInt cols
  | negativeSeed => "expected non-negative integer"
  | numeral fault => fault.message
  | decimal text => "could not convert string to float: " ++ text.quoted
  | yearOutOfRange year => "year " ++ Decimal.ofNat year ++ " is out of range"
  | monthOutOfRange => "month must be in 1..12"
  | dayOutOfRange => "day is out of range for month"
  | clockOutOfRange field last => field ++ " must be in 0.." ++ Decimal.ofNat last
  | offsetOutOfRange seconds =>
    "offset must be a timedelta strictly between -timedelta(hours=24) and timedelta(hours=24), not "
      ++ Moment.spanText seconds ++ "."
  | characterOutOfRange => "chr() arg not in range(0x110000)"
  | nulInPath => "embedded null byte"
  | unwritableNumber => Json.unwritableMessage
  | matrixTooLong => "Maximum allowed size exceeded"
  | matrixTooBig =>
    "array is too big; \x60arr.size * arr.dtype.itemsize\x60 is larger than the maximum possible size."

/-- Wording of a shape fault. -/
def ShapeFault.message : ShapeFault → String
  | tableSize size => "lookup table must cover 8 neighborhoods, got " ++ Decimal.ofNat size
  | tableEntry code outcome left center right =>
    "rule " ++ Decimal.ofNat code ++ " gives " ++ Value.boolText outcome ++ " for neighborhood ("
      ++ Text.joined ", " ([left, center, right].map Value.boolText) ++ ")"
  | window length depth =>
    "window of length " ++ Decimal.ofNat length ++ " cannot be reduced to one cell in " ++ Decimal.ofInt depth
      ++ " steps (expected length " ++ Decimal.ofInt (2 * depth + 1) ++ ")"
  | dimensions count => "expected a 2-D assignment matrix, got " ++ Decimal.ofNat count ++ " dimensions"
  | assignment length lo hi =>
    "assignment of length " ++ Decimal.ofNat length ++ " does not fit window " ++ Decimal.ofInt lo ++ ".."
      ++ Decimal.ofInt hi

/-- Wording of a configuration fault. -/
def ConfigFault.message : ConfigFault → Text
  | notInteger key got => key ++ " must be an integer, got " ++ got.shown
  | notPositive key got => key ++ " must be positive, got " ++ Decimal.ofInt got
  | notPositiveInteger key got => key ++ " must be a positive integer, got " ++ got.shown
  | capTooLarge limit got => "cap must be at most " ++ Decimal.ofNat limit ++ ", got " ++ Decimal.ofInt got
  | unknownFormat known got =>
    "format must be one of (" ++ Text.quotedWords known ++ "), got "
      ++ got.shown
  | notMapping got => "grid entry must be a mapping, got " ++ got.typeName
  | unknownKeys keys => "unknown grid keys: " ++ (Value.list keys).shown
  | malformed path => path.text ++ ": invalid YAML"
  | topLevel path => path.text ++ ": top level must be a mapping"
  | noGrids path => path.text ++ ": expected a non-empty 'grids' list"
  | noOutfile => "no output file given (--outfile or 'outfile' in the config)"

/-- Wording of a type fault. -/
def TypeFault.message : TypeFault → String
  | notPath typeName => "expected str, bytes or os.PathLike object, not " ++ typeName
  | bytesPath =>
    "argument should be a str object or an os.PathLike object returning str, not <class 'bytes'>"
  | notTimeText => "expected string or bytes-like object, got 'list'"
  | noQuotient left right => "unsupported operand type(s) for /: '" ++ left ++ "' and '" ++ right ++ "'"
  | unhashable typeName => "unhashable type: '" ++ typeName ++ "'"
  | unordered (.moment _) (.moment _) => "can't compare offset-naive and offset-aware datetimes"
  | unordered (.moment _) (.date _) => "can't compare datetime.datetime to datetime.date"
  | unordered (.date _) (.moment _) => "can't compare datetime.datetime to datetime.date"
  | unordered left right =>
    "'<' not supported between instances of '" ++ left.fullTypeName ++ "' and '" ++ right.fullTypeName ++ "'"

/-- Wording of a file fault: number and text of the error, and the path. -/
def FileFault.message : FileFault → String
  | missing path => "[Errno 2] No such file or directory: " ++ path.text.quoted
  | occupied path => "[Errno 17] File exists: " ++ path.text.quoted
  | notDirectory path => "[Errno 20] Not a directory: " ++ path.text.quoted
  | isDirectory path => "[Errno 21] Is a directory: " ++ path.text.quoted
  | nameTooLong path => "[Errno 36] File name too long: " ++ path.text.quoted

/-- Wording for a number that is neither a size nor an index of anything. -/
def farMessage : String := "cannot fit 'int' into an index-sized integer"

/-- Wording of an overflow. -/
def OverflowFault.message : OverflowFault → String
  | double => "int too large to convert to float"
  | character => "Python int too large to convert to C int"
  | size => farMessage
  | digits => "too many digits in integer"

/-- A number of bytes in the largest unit of which there is at least one, rounded to three digits. -/
def sizeText (bytes : Nat) : String :=
  let step := bytes.log2 / 10
  let unit := Nat.pow 2 (10 * step)
  let places := if bytes < 10 * unit then 2 else if bytes < 100 * unit then 1 else 0
  let parts := Nat.pow 10 places
  let rounded := (2 * parts * bytes / unit + 1) / 2
  Decimal.ofNat (rounded / parts) ++ "." ++ (if places = 0 then "" else Decimal.padded places (rounded % parts)) ++ " "
    ++ ["bytes", "KiB", "MiB", "GiB", "TiB", "PiB", "EiB"].getD step ""

/-- Wording for a lack of room. -/
def RoomFault.message : RoomFault → String
  | list => ""
  | codes width =>
    "Unable to allocate " ++ sizeText (4 * Nat.pow 2 width) ++ " for an array with shape ("
      ++ Decimal.ofNat (Nat.pow 2 width) ++ ",) and data type uint32"
  | matrix width =>
    "Unable to allocate " ++ sizeText (width * Nat.pow 2 width) ++ " for an array with shape ("
      ++ Decimal.ofNat (Nat.pow 2 width) ++ ", " ++ Decimal.ofNat width ++ ") and data type bool"

/-- Wording of what happens first when something is nested too deeply. -/
def nestingMessage : String := "maximum recursion depth exceeded"

/-- Wording for nesting that is too deep. -/
def NestingFault.message : NestingFault → String
  | unfolding => nestingMessage
  | showing => nestingMessage ++ " while getting the repr of an object"

namespace Fault

/-- Wording of a fault. -/
def message : Fault → Text
  | range fault => fault.message
  | shape fault => fault.message
  | config fault => fault.message
  | type fault => fault.message
  | file fault => fault.message
  | json fault => fault.message
  | overflow fault => fault.message
  | room fault => fault.message
  | unencodable misfit => misfit.message
  | unprintable misfit => misfit.message
  | nesting fault => fault.message
  | part typeName name => "'" ++ typeName ++ "' object has no attribute '" ++ name ++ "'"
  | index => "list index out of range"
  | farIndex => farMessage
  | textIndex => "string index out of range"
  | word text => text.quoted

/-- The values in the wording of a fault, in order. -/
def shownValues : Fault → List Value
  | range (.ruleCode code) => [.int code]
  | range (.underivedRow row) => [.int row]
  | range (.tapeLength _ expected) => [.int expected]
  | range (.unknownPreset key _) => [key]
  | range (.emptyTape cols) => [.int cols]
  | shape (.window _ depth) => [.int depth, .int (2 * depth + 1)]
  | shape (.assignment _ lo hi) => [.int lo, .int hi]
  | config (.notInteger _ got) => [got]
  | config (.notPositive _ got) => [.int got]
  | config (.notPositiveInteger _ got) => [got]
  | config (.capTooLarge _ got) => [.int got]
  | config (.unknownFormat _ got) => [got]
  | config (.unknownKeys keys) => keys
  | _ => []

/-- The fault of a value that has no text. -/
def ofHindrance : Value.Hindrance → Fault
  | .digits => range .unwritableNumber
  | .depth => nesting .showing

/-- The fault that is reported: where a value has no text for the wording of a fault, that is a fault itself. -/
def reported (fault : Fault) : Fault :=
  match Value.firstHindrance? Value.nestingLimit fault.shownValues with
  | none => fault
  | some hindrance => ofHindrance hindrance

theorem firstHindrance_ints (room : Nat) (numbers : List Int) :
    Value.firstHindrance? (room + 1) (numbers.map .int) =
      if numbers.all Decimal.isWritable then none else some .digits := by
  induction numbers with
  | nil => rfl
  | cons n rest ih =>
    rw [List.map_cons, Value.firstHindrance?, Value.hindrance?, ih, List.all_cons]
    cases Decimal.isWritable n <;> rfl

/-- A fault whose wording has nothing but whole numbers in it is reported unless one of them has too many digits. -/
theorem reported_ints {fault : Fault} {numbers : List Int} (shown : fault.shownValues = numbers.map .int) :
    fault.reported = if numbers.all Decimal.isWritable then fault else range .unwritableNumber := by
  have room : Value.nestingLimit = 984 + 1 := rfl
  unfold reported
  rw [shown, room, firstHindrance_ints]
  cases numbers.all Decimal.isWritable <;> rfl

end Fault

/-- Something with whole numbers in its text, unless one of them has too many digits. -/
def Decimal.ifWritable {α : Type} (numbers : List Int) (a : α) : Except Fault α :=
  if numbers.all isWritable then .ok a else .error (.range .unwritableNumber)

theorem Decimal.ifWritable_ok {α : Type} {numbers : List Int} {a b : α} :
    ifWritable numbers a = .ok b ↔ numbers.all isWritable = true ∧ a = b := by
  unfold ifWritable
  cases numbers.all isWritable <;> simp

theorem Decimal.ifWritable_error {α : Type} {numbers : List Int} {a : α} {fault : Fault} :
    ifWritable numbers a = .error fault ↔ numbers.all isWritable = false ∧ fault = .range .unwritableNumber := by
  unfold ifWritable
  cases numbers.all isWritable <;> simp [eq_comm]

/-- A value in running text, if it has a text. -/
def Value.plain? (v : Value) : Except Fault Text :=
  match v.hindrance? Value.nestingLimit with
  | none => .ok v.plain
  | some hindrance => .error (.ofHindrance hindrance)

end TapeSheet
