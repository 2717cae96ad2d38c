import TapeSheet.Accuracy
import TapeSheet.Command.Session
import TapeSheet.Preset

/-!
# Verifying sheets

The program that compares what the rules of a grid light with the evolution of the preset root rows. The compiler is a
parameter, so that a broken one can be checked as well.
-/

namespace TapeSheet

open CommandLine

/-- A compiler of sheets from rows, columns and cap. -/
abbrev Compiler := Value → Value → Value → Except Fault Sheet

/-- What the program is asked for. -/
structure VerifyOptions where
  rows : Value
  cols : Value
  cap : Value
  presets : List Value
  seed : Int
  shows : Bool

namespace VerifyOptions

/-- Name of the program in messages. -/
def program : String := "verify.py"

/-- The options that the program knows. -/
def known : List Opt :=
  [option "--rows" .number, option "--cols" .number, option "--cap" .number,
   option "--preset" (.choice Preset.sortedKeys), option "--seed" .number, option "--show" .nothing]

/-- The seed that a value stands for; an empty list of words is the seed zero. -/
def seedOf (v : Value) : Int := v.number?.getD 0

/-- The options that are given. Without presets all of them are asked for. -/
def ofGiven (given : List (String × Argument)) : VerifyOptions :=
  { rows := (value? "--rows" given).getD (.int 4)
    cols := (value? "--cols" given).getD (.int 24)
    cap := (value? "--cap" given).getD (.int maxCompiledRow)
    presets := match allOf "--preset" given with
      | [] => Preset.keys.map Value.ofString
      | chosen => chosen.map Argument.value
    seed := (value? "--seed" given).elim defaultSeed seedOf
    shows := isGiven "--show" given }

end VerifyOptions

/-- Checks one preset and says how right it is; the answer tells whether all cells are right. -/
def verifyPreset (s : Sheet) (seed : Int) (shows : Bool) (key : Value) : Session Bool := do
  let root ← Session.orDie (presetRow key s.cols seed)
  let score ← Session.orDie (s.scoreOn root)
  Session.say (Text.ofString "-" ++ key.plain ++ Text.ofString (": accuracy " ++ score.double.fixed 4))
  if shows then
    let grid ← Session.orDie (s.litGrid root)
    Session.say (gridText "#" "." root grid)
  pure score.isPerfect

/-- The last line on a sheet that was verified on some tapes, if its deepest row has not too many digits. -/
def checkedLine (s : Sheet) (tapes : Nat) : Except Fault Text :=
  Decimal.ifWritable [s.maxRow] ("-Checked " ++ Decimal.ofNat tapes ++ " tapes against "
    ++ Decimal.grouped s.rules.length ++ " rules (rows 1-" ++ Decimal.ofInt s.maxRow ++ ")")

/-- The program that verifies a sheet. -/
def verifyCommand (compiler : Compiler) (tokens : List Text) : Session Unit := do
  let o := VerifyOptions.ofGiven (← Session.options VerifyOptions.program VerifyOptions.known tokens)
  let s ← Session.orReport (compiler o.rows o.cols o.cap)
  let s ← Session.orDie s.checkNote
  let perfect ← o.presets.mapM (verifyPreset s o.seed o.shows)
  Session.say (← Session.orDie (checkedLine s o.presets.length))
  let failures := perfect.count false
  if failures ≠ 0 then Session.fail ("-" ++ Decimal.ofNat failures ++ " tapes rendered incorrectly")

end TapeSheet
