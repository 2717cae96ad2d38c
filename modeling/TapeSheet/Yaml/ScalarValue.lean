import TapeSheet.Text.Base64
import TapeSheet.Text.Case
import TapeSheet.Yaml.Tag

/-!
# Values of scalars

What the text of a scalar stands for by its tag: truth values, numbers, points in time, bytes and texts. A text that
does not fit its tag is refused with a reason.
-/

namespace TapeSheet.Yaml

/-- A fault of a scalar. -/
def refuse {α : Type} (fault : RangeFault) : Except Stop α := .error (.refused (.range fault))

/-! ## Numbers -/

/-- A text without underscores. -/
def withoutSpacing (letters : List Letter) : List Letter := letters.filter (· ≠ .char '_')

/-- A sign, and what follows it. -/
def signOf : List Letter → Bool × List Letter
  | .char '-' :: rest => (true, rest)
  | .char '+' :: rest => (false, rest)
  | rest => (false, rest)

/-- A whole number in a base. -/
def numeral (base : Nat) (digits : List Letter) : Except Stop Int :=
  match Numeral.parse base ⟨digits⟩ with
  | .ok n => .ok n
  | .error fault => refuse (.numeral fault)

/-- The sum of places to the base sixty, the last one counting once. -/
def sixtieths (places : List Int) : Int :=
  (places.reverse.foldl (fun (sum, (base : Nat)) place => (sum + place * base, base * 60)) (0, 1)).1

/-- The whole number that a text stands for. -/
def intOf (text : Text) : Except Stop Int := do
  let letters := withoutSpacing text.letters
  if letters.isEmpty then throw (.refused .textIndex)
  let (negative, digits) := signOf letters
  let magnitude ← match digits with
    | [] => throw (.refused .textIndex)
    | [.char '0'] => pure 0
    | .char '0' :: .char 'b' :: rest => numeral 2 rest
    | .char '0' :: .char 'x' :: rest => numeral 16 rest
    | .char '0' :: _ => numeral 8 digits
    | _ =>
      if digits.contains (.char ':') then (splitAt (.char ':') digits).mapM (numeral 10) >>= (pure ∘ sixtieths)
      else numeral 10 digits
  pure (if negative then -magnitude else magnitude)

/-- The sign of a decimal number, and what follows it. -/
def decimalSign (chars : List Char) : Bool × List Char := (chars.head? == some '-', unsigned chars)

/-- The decimal number that characters stand for, with blanks around it, a sign and an exponent, or a word for what is
not finite. -/
def decimalOf? (chars : List Char) : Option Binary64 :=
  let (negative, body) := decimalSign (Numeral.trimmed chars)
  let word := (String.ofList body).toLower
  if word == "inf" || word == "infinity" then some (.infinite negative)
  else if word == "nan" then some .nan
  else
    let body := body.map fun c => match Numeral.decimalDigit? c with
      | some d => Char.ofNat ('0'.toNat + d)
      | none => c
    let whole := body.takeWhile isDigit
    let rest := body.dropWhile isDigit
    let (fraction, rest) := match rest with
      | '.' :: more => (more.takeWhile isDigit, more.dropWhile isDigit)
      | more => ([], more)
    if whole.isEmpty && fraction.isEmpty then none
    else match rest with
      | [] => some (Binary64.ofParts negative whole fraction 0)
      | e :: exponent =>
        let (below, digits) := decimalSign exponent
        if (e = 'e' || e = 'E') && !digits.isEmpty && digits.all isDigit then
          let size : Int := Binary64.digitsValue digits
          some (Binary64.ofParts negative whole fraction (if below then -size else size))
        else none

/-- A decimal number that has to be one. -/
def decimal (letters : List Letter) : Except Stop Binary64 :=
  match decimalOf? (Text.shape ⟨letters⟩) with
  | some x => .ok x
  | none => refuse (.decimal ⟨letters⟩)

/-- A double that has to be finite. -/
def finiteOnly : Binary64 → Except Stop Binary64
  | .infinite _ => .error (.refused (.overflow .double))
  | x => .ok x

/-- A place to the base sixty as a double, which has to be finite. -/
def placeValue (base : Nat) : Except Stop Binary64 := finiteOnly (Binary64.ofNat base)

/-- The sum of places to the base sixty in double precision, rounded after each step from the last place on. -/
def doubleSixtieths (base : Nat) (sum : Binary64) : List Binary64 → Except Stop Binary64
  | [] => .ok sum
  | place :: rest => do
    let value ← placeValue base
    doubleSixtieths (base * 60) (sum.add (place.mul value)) rest

/-- The letters of a number with a point behind its sign, which tells whether it is negative. -/
def pointed (text : Text) : Bool × List Letter := signOf (Text.lower ⟨withoutSpacing text.letters⟩).letters

/-- The word for what is no number. -/
def nanWord : Text := ".nan"

/-- The number with a point that a text stands for. -/
def floatOf (text : Text) : Except Stop Binary64 := do
  if (withoutSpacing text.letters).isEmpty then throw (.refused .textIndex)
  let (negative, digits) := pointed text
  if ⟨digits⟩ = nanWord then pure .nan
  else
    let magnitude ←
      if ⟨digits⟩ = Text.ofString ".inf" then pure (.infinite false)
      else if digits.contains (.char ':') then do
        let places ← (splitAt (.char ':') digits).mapM decimal
        doubleSixtieths 1 (.finite false 0) places.reverse
      else decimal digits
    pure (if negative then magnitude.neg else magnitude)

/-! ## Truth values -/

/-- The truth value that a word stands for. -/
def boolOf (text : Text) : Except Stop Bool :=
  match boolWords.find? fun (word, _) => Text.ofString word == text.lower with
  | some (_, b) => .ok b
  | none => .error (.refused (.word text.lower))

/-! ## Points in time -/

/-- A calendar day that has to exist. -/
def dateOf (year month day : Nat) : Except Stop Date :=
  if year = 0 then refuse (.yearOutOfRange year)
  else if month = 0 ∨ 12 < month then refuse .monthOutOfRange
  else if day = 0 ∨ (Date.monthDays year).getD (month - 1) 0 < day then refuse .dayOutOfRange
  else .ok ⟨year, month, day⟩

/-- The fraction of a second in millionths, further digits cut off. -/
def microOf (fraction : List Char) : Nat :=
  Binary64.digitsValue ((fraction ++ List.replicate 6 '0').take 6)

/-- The day or moment that a text stands for. A text of another form has no parts that could be asked for. -/
def timeOf (text : Text) : Except Stop Value := do
  match stampOf? (withoutLastBreak text.shape) with
  | none => throw (.refused (.part "NoneType" "groupdict"))
  | some ⟨year, month, day, none⟩ => (dateOf year month day).map .date
  | some ⟨year, month, day, some clock⟩ =>
    match clock.offset with
    | some seconds => if 86400 ≤ seconds.natAbs then refuse (.offsetOutOfRange seconds)
    | none => pure ()
    let date ← dateOf year month day
    if 23 < clock.hour then refuse (.clockOutOfRange "hour" 23)
    if 59 < clock.minute then refuse (.clockOutOfRange "minute" 59)
    if 59 < clock.second then refuse (.clockOutOfRange "second" 59)
    pure (.moment ⟨date, clock.hour, clock.minute, clock.second, microOf clock.fraction, clock.offset⟩)

/-! ## Bytes -/

/-- The bytes that a text of ASCII characters stands for. -/
def bytesOf (text : Text) : Except Stop (List UInt8) :=
  if text.letters.all fun l => l.code < 128 then
    match Base64.decode text.shape with
    | some data => .ok data
    | none => .error .malformed
  else .error .malformed

/-! ## Values -/

/-- The value of a text by its tag. -/
def valueOfText (tag : Tag) (text : Text) : Except Stop Value :=
  match tag with
  | .null => .ok .null
  | .bool => (boolOf text).map .bool
  | .int => (intOf text).map .int
  | .float => (floatOf text).map .float
  | .timestamp => timeOf text
  | .bytes => (bytesOf text).map .bytes
  | .text => .ok (.text text)
  | _ => .error .malformed

end TapeSheet.Yaml
