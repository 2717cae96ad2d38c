import TapeSheet.Binary64.Text
import TapeSheet.Yaml.Cursor

/-!
# Tags

The types of the nodes of a document. A plain scalar that has no tag gets one by its form.
-/

namespace TapeSheet.Yaml

/-- Type of a node; all types that no value is made for are one. -/
inductive Tag
  | null
  | bool
  | int
  | float
  | timestamp
  | bytes
  | text
  | sequence
  | ordered
  | pairs
  | mapping
  | set
  | merge
  | default
  | unknown
  deriving DecidableEq

/-- What the full names of the tags of documents start with. -/
def tagBase : String := "tag:yaml.org,2002:"

/-- The tag of a full name. -/
def Tag.ofName (name : String) : Tag :=
  let known := [("null", Tag.null), ("bool", .bool), ("int", .int), ("float", .float), ("timestamp", .timestamp),
    ("binary", .bytes), ("str", .text), ("seq", .sequence), ("omap", .ordered), ("pairs", .pairs), ("map", .mapping),
    ("set", .set), ("merge", .merge), ("value", .default)]
  match known.find? fun entry => tagBase ++ entry.1 == name with
  | some (_, tag) => tag
  | none => .unknown

/-! ## Numbers -/

/-- The pieces of a list between the occurrences of a separator. -/
def splitAt {α : Type} [DecidableEq α] (sep : α) : List α → List (List α)
  | [] => [[]]
  | c :: rest =>
    match splitAt sep rest with
    | [] => [[c]]
    | piece :: more => if c = sep then [] :: piece :: more else (c :: piece) :: more

/-- A text without its sign. -/
def unsigned : List Char → List Char
  | '+' :: rest => rest
  | '-' :: rest => rest
  | rest => rest

/-- A digit or an underscore. -/
def isSpacedDigit (c : Char) : Bool := isDigit c || c = '_'

/-- A digit and then digits and underscores. -/
def isSpacedNumber : List Char → Bool
  | [] => false
  | c :: rest => isDigit c && rest.all isSpacedDigit

/-- A place of a number to the base sixty. -/
def isSixtieth : List Char → Bool
  | [c] => isDigit c
  | [a, b] => '0' ≤ a && a ≤ '5' && isDigit b
  | _ => false

/-- A text has the form of a whole number. -/
def isIntForm (text : List Char) : Bool :=
  match unsigned text with
  | '0' :: 'b' :: rest => !rest.isEmpty && rest.all fun c => c = '0' || c = '1' || c = '_'
  | '0' :: 'x' :: rest => !rest.isEmpty && rest.all fun c => isHexDigit c || c = '_'
  | '0' :: rest => rest.all fun c => ('0' ≤ c && c ≤ '7') || c = '_'
  | body =>
    match splitAt ':' body with
    | first :: places => isSpacedNumber first && places.all isSixtieth
    | [] => false

/-- An exponent with a sign, or nothing. -/
def isExponent : List Char → Bool
  | [] => true
  | [_] => false
  | e :: sign :: digits =>
    (e = 'e' || e = 'E') && (sign = '+' || sign = '-') && !digits.isEmpty && digits.all isDigit

/-- A text has the form of a number with a point. -/
def isFloatForm (text : List Char) : Bool :=
  let body := unsigned text
  let whole := body.takeWhile (· ≠ '.')
  match body.dropWhile (· ≠ '.') with
  | '.' :: tail =>
    let rest := tail.dropWhile isSpacedDigit
    if [".inf", ".Inf", ".INF"].contains (String.ofList body) then true
    else if [".nan", ".NaN", ".NAN"].contains (String.ofList text) then true
    else if whole.isEmpty then
      body.length == text.length && isSpacedNumber (tail.takeWhile isSpacedDigit) && isExponent rest
    else match splitAt ':' whole with
      | [first] => isSpacedNumber first && isExponent rest
      | first :: places => isSpacedNumber first && places.all isSixtieth && rest.isEmpty
      | [] => false
  | _ => false

/-! ## Points in time -/

/-- A time of day as it is written, with the offset from universal time in seconds if there is one. -/
structure Clock where
  hour : Nat
  minute : Nat
  second : Nat
  fraction : List Char
  offset : Option Int

/-- A day as it is written, with a time of day if there is one. -/
structure Stamp where
  year : Nat
  month : Nat
  day : Nat
  clock : Option Clock

/-- Between `least` and `most` digits, as their value and what follows. -/
def takeDigits? (least most : Nat) (text : List Char) : Option (Nat × List Char) :=
  let found := (text.take most).takeWhile isDigit
  if found.length < least then none else some (Binary64.digitsValue found, text.drop found.length)

/-- What follows a given character. -/
def after? (c : Char) : List Char → Option (List Char)
  | [] => none
  | d :: rest => if d = c then some rest else none

/-- A blank or a tab. -/
def isBlankOrTab (c : Char) : Bool := c = ' ' || c = '\t'

/-- The offset at the end of a time of day: none, the mark of universal time, or hours and minutes with a sign. -/
def offsetOf? (text : List Char) : Option (Option Int) :=
  if text.isEmpty then some none
  else match text.dropWhile isBlankOrTab with
    | ['Z'] => some (some 0)
    | sign :: rest => do
      if sign ≠ '+' ∧ sign ≠ '-' then none
      let (hours, rest) ← takeDigits? 1 2 rest
      let (minutes, rest) ← if rest.isEmpty then some (0, []) else (after? ':' rest).bind (takeDigits? 2 2)
      if !rest.isEmpty then none
      let seconds : Int := hours * 3600 + minutes * 60
      some (some (if sign = '-' then -seconds else seconds))
    | [] => none

/-- The time of day behind a day. -/
def clockOf? (text : List Char) : Option Clock := do
  let text ← match text with
    | 'T' :: rest => some rest
    | 't' :: rest => some rest
    | c :: rest => if isBlankOrTab c then some (rest.dropWhile isBlankOrTab) else none
    | [] => none
  let (hour, rest) ← takeDigits? 1 2 text
  let (minute, rest) ← (after? ':' rest).bind (takeDigits? 2 2)
  let (second, rest) ← (after? ':' rest).bind (takeDigits? 2 2)
  let (fraction, rest) := match rest with
    | '.' :: more => (more.takeWhile isDigit, more.dropWhile isDigit)
    | more => ([], more)
  let offset ← offsetOf? rest
  some ⟨hour, minute, second, fraction, offset⟩

/-- The point in time that a text is the form of. -/
def stampOf? (text : List Char) : Option Stamp := do
  let (year, rest) ← takeDigits? 4 4 text
  let (month, rest) ← (after? '-' rest).bind (takeDigits? 1 2)
  let (day, rest) ← (after? '-' rest).bind (takeDigits? 1 2)
  if rest.isEmpty then some ⟨year, month, day, none⟩
  else
    let clock ← clockOf? rest
    some ⟨year, month, day, some clock⟩

/-- A text has the form of a point in time; without a time of day month and day have two digits. -/
def isStampForm (text : List Char) : Bool :=
  match stampOf? text with
  | some stamp => stamp.clock.isSome || text.length == 10
  | none => false

/-! ## Tags by form -/

/-- Words for the truth values, in lower case. -/
def boolWords : List (String × Bool) :=
  [("yes", true), ("no", false), ("true", true), ("false", false), ("on", true), ("off", false)]

/-- A word in lower case, with a capital first letter or in upper case. -/
def isSpelling (word text : String) : Bool := text == word || text == word.capitalize || text == word.toUpper

/-- One line break at the end of a text does not count. -/
def withoutLastBreak (text : List Char) : List Char :=
  if text.getLast? = some '\n' then text.dropLast else text

/-- The tag of characters that have only their form. -/
def Tag.ofChars (chars : List Char) : Tag :=
  let form := withoutLastBreak chars
  let word := String.ofList form
  if form.isEmpty then if chars.isEmpty then .null else .text
  else if boolWords.any fun (name, _) => isSpelling name word then .bool
  else if isFloatForm form then .float
  else if isIntForm form then .int
  else if word == "<<" then .merge
  else if word == "~" || isSpelling "null" word then .null
  else if isStampForm form then .timestamp
  else if word == "=" then .default
  else if ["!", "&", "*"].contains word then .unknown
  else .text

/-- The tag of a scalar that has only its form. -/
def Tag.ofForm (text : Text) : Tag := text.chars?.elim .text Tag.ofChars

end TapeSheet.Yaml
