import TapeSheet.Fault

/-!
# Command lines

Reading the arguments of a program against the options that it knows. A long option may be cut short as long as it
is clear which one is meant; its argument follows behind an equals sign or as the next token. Every token gets its
meaning before any option is carried out, and tokens without a meaning are reported last.
-/

namespace TapeSheet.CommandLine

/-- What an option takes. -/
inductive Takes
  | nothing
  | text
  | number
  | choice (words : List String)

/-- An option with all its names, or the request for help. -/
structure Opt where
  names : List String
  takes : Takes
  isHelp : Bool

/-- An option with one name. -/
def option (name : String) (takes : Takes) : Opt := ⟨[name], takes, false⟩

/-- The request for help, which every program knows. -/
def helpOption : Opt := ⟨["-h", "--help"], .nothing, true⟩

/-- Name of an option in messages. -/
def Opt.label (o : Opt) : String := Text.joined "/" o.names

/-- The argument of an option as it was read. Two dashes behind the equals sign leave it empty. -/
inductive Argument
  | present
  | number (n : Int)
  | text (t : Text)
  | empty

/-- Why a command line is not carried out. -/
inductive Refusal
  | help
  | ambiguous (token : Text) (names : List String)
  | noArgument (label : String)
  | notNumber (label : String) (text : Text)
  | notChoice (label : String) (text : Text) (words : List String)
  | surplusArgument (label : String) (text : Text)
  | unrecognized (tokens : List Text)

/-- Wording of a refusal. -/
def Refusal.message : Refusal → Text
  | help => ""
  | ambiguous token names =>
    Text.ofString "ambiguous option: " ++ token ++ Text.ofString (" could match " ++ Text.joined ", " names)
  | noArgument label => "argument " ++ label ++ ": expected one argument"
  | notNumber label text => "argument " ++ label ++ ": invalid int value: " ++ text.quoted
  | notChoice label text words =>
    "argument " ++ label ++ ": invalid choice: " ++ text.quoted ++ " (choose from " ++ Text.quotedWords words ++ ")"
  | surplusArgument label text => "argument " ++ label ++ ": ignored explicit argument " ++ text.quoted
  | unrecognized tokens => Text.ofString "unrecognized arguments: " ++ Text.glued " " tokens

/-! ## The meaning of a token -/

/-- What is attached to the name of an option in one token: a text behind an equals sign, or letters that follow a
single letter. -/
inductive Attached
  | nothing
  | value (text : Text)
  | letters (text : Text)

/-- What a token is: an argument, an option with what is attached to it, or something that looks like an option. -/
inductive Meaning
  | argument
  | known (o : Opt) (name : String) (attached : Attached)
  | unknown

/-- All names with their options, in the order of their declaration. -/
def named (options : List Opt) : List (String × Opt) := options.flatMap fun o => o.names.map (·, o)

/-- The part of a token before its first equals sign, and what is attached by that sign. -/
def splitAttached (token : Text) : Text × Attached :=
  match token.letters.dropWhile (· ≠ .char '=') with
  | _ :: rest => (⟨token.letters.takeWhile (· ≠ .char '=')⟩, .value ⟨rest⟩)
  | [] => (token, .nothing)

/-- A name starts with a text. -/
def startsWith (name : String) (start : Text) : Bool := start.letters.isPrefixOf (Text.ofString name).letters

/-- The names that a token with a dash may stand for, with what would be attached to them. -/
def candidates (options : List Opt) (token : Text) : List (Opt × String × Attached) :=
  match token.letters with
  | .char '-' :: .char '-' :: _ =>
    let (start, attached) := splitAttached token
    (named options).filterMap fun (name, o) => if startsWith name start then some (o, name, attached) else none
  | .char '-' :: letter :: rest =>
    (named options).filterMap fun (name, o) =>
      if (Text.ofString name).letters = [.char '-', letter] then some (o, name, .letters ⟨rest⟩)
      else if startsWith name token then some (o, name, .nothing)
      else none
  | _ => []

/-- A decimal digit of any script. -/
def isDecimal (c : Char) : Bool := (Numeral.decimalDigit? c).isSome

/-- A text has the form of a negative number; a line break may follow it. -/
def isNegativeNumber (text : List Char) : Bool :=
  let text := if text.getLast? = some '\n' then text.dropLast else text
  match text with
  | '-' :: body =>
    match body.dropWhile isDecimal with
    | [] => !body.isEmpty
    | '.' :: fraction => !fraction.isEmpty && fraction.all isDecimal
    | _ => false
  | _ => false

/-- The meaning of a token. -/
def meaning (options : List Opt) (token : Text) : Except Refusal Meaning :=
  let find (name : Text) := (named options).find? fun entry => Text.ofString entry.1 == name
  match token.letters with
  | .char '-' :: rest =>
    match find token with
    | some (name, o) => .ok (.known o name .nothing)
    | none =>
      if rest.isEmpty then .ok .argument
      else
        let (start, attached) := splitAttached token
        match attached, find start with
        | .value text, some (name, o) => .ok (.known o name (.value text))
        | _, _ =>
          match candidates options token with
          | [(o, name, attached)] => .ok (.known o name attached)
          | [] =>
            if isNegativeNumber token.shape || token.shape.contains ' ' then .ok .argument else .ok .unknown
          | several => .error (.ambiguous token (several.map fun (_, name, _) => name))
  | _ => .ok .argument

/-- The token of two dashes. -/
def twoDashes : Text := "--"

/-- The meanings of all tokens before a token of two dashes, and the tokens from that one on. -/
def meanings (options : List Opt) : List Text → Except Refusal (List (Text × Meaning) × List Text)
  | [] => .ok ([], [])
  | token :: rest =>
    if token = twoDashes then .ok ([], token :: rest)
    else
      match meaning options token with
      | .error refusal => .error refusal
      | .ok m => (meanings options rest).map fun (found, others) => ((token, m) :: found, others)

/-! ## Carrying out -/

/-- The argument of an option from its text. -/
def argumentOf (o : Opt) (text : Text) : Except Refusal Argument :=
  if text = twoDashes then .ok .empty
  else
    match o.takes with
    | .nothing => .ok .present
    | .text => .ok (.text text)
    | .number =>
      match Numeral.parse 10 text with
      | .ok n => .ok (.number n)
      | .error _ => .error (.notNumber o.label text)
    | .choice words =>
      if words.any fun word => Text.ofString word == text then .ok (.text text)
      else .error (.notChoice o.label text words)

/-- The refusal of letters behind the single letter that asks for help, which may only be repeated. -/
def lettersRefusal (o : Opt) (letter : Letter) : List Letter → Refusal
  | [] => .help
  | l :: rest => if l = letter then lettersRefusal o letter rest else .surplusArgument o.label ⟨l :: rest⟩

/-- The refusal of an option that takes nothing but has a text attached. What is attached to a single letter counts
as further letters. -/
def surplus (o : Opt) (name : String) (text : Text) : Refusal :=
  match name.toList with
  | ['-', letter] =>
    if text.isEmpty then .surplusArgument o.label text else lettersRefusal o (.char letter) text.letters
  | _ => .surplusArgument o.label text

/-- What a command line asks for: options with their arguments, in order, and tokens without a meaning. -/
structure Request where
  given : List (String × Argument)
  extra : List Text

/-- An option is added in front. -/
def Request.giving (name : String) (argument : Argument) (r : Request) : Request :=
  { r with given := (name, argument) :: r.given }

/-- A token without a meaning is added in front. -/
def Request.addExtra (token : Text) (r : Request) : Request := { r with extra := token :: r.extra }

/-- Carries out tokens from left to right. -/
def carryOut : List (Text × Meaning) → Except Refusal Request
  | [] => .ok ⟨[], []⟩
  | (token, .argument) :: rest => (carryOut rest).map (·.addExtra token)
  | (token, .unknown) :: rest => (carryOut rest).map (·.addExtra token)
  | (_, .known o name attached) :: rest =>
    match o.takes, attached with
    | .nothing, .nothing => if o.isHelp then .error .help else (carryOut rest).map (·.giving o.label .present)
    | .nothing, .value text => .error (surplus o name text)
    | .nothing, .letters text => .error (surplus o name text)
    | _, .value text =>
      match argumentOf o text with
      | .error refusal => .error refusal
      | .ok argument => (carryOut rest).map (·.giving o.label argument)
    | _, .letters text =>
      match argumentOf o text with
      | .error refusal => .error refusal
      | .ok argument => (carryOut rest).map (·.giving o.label argument)
    | _, .nothing =>
      match rest with
      | (text, .argument) :: rest =>
        match argumentOf o text with
        | .error refusal => .error refusal
        | .ok argument => (carryOut rest).map (·.giving o.label argument)
      | _ => .error (.noArgument o.label)

/-- Reads a command line. -/
def parse (options : List Opt) (tokens : List Text) : Except Refusal (List (String × Argument)) :=
  match meanings (helpOption :: options) tokens with
  | .error refusal => .error refusal
  | .ok (found, others) =>
    match carryOut found with
    | .error refusal => .error refusal
    | .ok request =>
      match request.extra ++ others with
      | [] => .ok request.given
      | extra => .error (.unrecognized extra)

/-! ## Looking up -/

/-- All arguments of an option, in order. -/
def allOf (name : String) (given : List (String × Argument)) : List Argument :=
  (given.filter fun entry => entry.1 == name).map (·.2)

/-- An option is given. -/
def isGiven (name : String) (given : List (String × Argument)) : Bool := !(allOf name given).isEmpty

/-- The value of an argument; an empty one is an empty list. -/
def Argument.value : Argument → Value
  | present => .bool true
  | number n => .int n
  | text t => .text t
  | empty => .list []

/-- The value that an option is given last. -/
def value? (name : String) (given : List (String × Argument)) : Option Value :=
  (allOf name given).getLast?.map Argument.value

/-! ## Paths -/

/-- What an option for a path names: a path, or nothing that could be one. -/
inductive Place
  | path (p : Path)
  | nowhere

/-- The place that an argument names. -/
def Argument.place : Argument → Place
  | text t => .path (.ofText t)
  | _ => .nowhere

/-- The place that an option is given last. -/
def place? (name : String) (given : List (String × Argument)) : Option Place :=
  (allOf name given).getLast?.map Argument.place

namespace Place

/-- The path of a place. -/
def path? : Place → Option Path
  | path p => some p
  | nowhere => none

/-- The text of a place. -/
def text : Place → Text
  | path p => p.text
  | nowhere => "[]"

/-- The path of a place, of which something is asked by name. -/
def asked (part : String) : Place → Except Fault Path
  | path p => .ok p
  | nowhere => .error (.part "list" part)

end Place

end TapeSheet.CommandLine
