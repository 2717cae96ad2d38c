import TapeSheet.Proofs.BlockReading

/-!
# Reading sheets

A reader for whole style sheets. Behind the header, the lines up to the first empty one are rules and all that follows
is the note, so a note may hold anything, also lines that look like rules. Reading the style sheet of any sheet gives
its sizes, its rules and its note (`contents_of_sheet`). There is a style sheet unless one of its numbers has too many
digits (`css_text`).
-/

namespace TapeSheet.SheetReading
open TapeSheet.Names TapeSheet.SelectorReading TapeSheet.BlockReading

/-! ## Rules -/

def number (text : List Char) : Int :=
  if text.head? = some '-' then -(Nat.ofDigitChars 10 text.tail 0 : Int) else Nat.ofDigitChars 10 text 0

/-- The predicate that a word is the selector of. -/
def predicateOfWord? : List Char → Option Predicate
  | '#' :: 't' :: '_' :: text =>
    some ⟨number (text.takeWhile (· ≠ ':')), text.dropWhile (· ≠ ':') = ":checked".toList⟩
  | _ => none

def targetOfWord? : List Char → Option Target
  | '.' :: 'r' :: '_' :: text =>
    match text.splitOn '_' with
    | [row, _, col] => some ⟨number row, number col⟩
    | _ => none
  | _ => none

/-- The rule whose selector has some words. -/
def ruleOfWords? : List (List Char) → Option SheetRule
  | word :: ['~'] :: rest =>
    (predicateOfWord? word).bind fun p => (ruleOfWords? rest).map fun rule => ⟨p :: rule.predicates, rule.target⟩
  | [_, cell] => (targetOfWord? cell).map (⟨[], ·⟩)
  | _ => none

/-- The rule that a line of a style sheet describes. -/
def ruleOfLine? (line : List Char) : Option SheetRule := ruleOfWords? (words (line.takeWhile (· ≠ '\x7b')))

theorem number_ofInt (n : Int) : number (Decimal.ofInt n).toList = n := by
  cases n with
  | ofNat n =>
    have noSign : (Nat.repr n).toList.head? ≠ some '-' := by
      intro sign
      exact absurd (repr_digits n '-' (List.mem_of_head? sign)) (by decide)
    rw [Decimal.ofInt, number, if_neg noSign, Nat.toList_repr, Nat.ofDigitChars_ten_toDigits]
    rfl
  | negSucc n =>
    have sign : "-".toList = ['-'] := by decide
    rw [Decimal.ofInt, String.toList_append, sign, List.singleton_append, number, List.head?_cons, if_pos rfl,
      List.tail_cons, Nat.toList_repr, Nat.ofDigitChars_ten_toDigits]
    rfl

theorem span_at_first {d : Char} {chars : List Char} (first : d ∉ chars) (rest : List Char) :
    (chars ++ d :: rest).takeWhile (· ≠ d) = chars ∧ (chars ++ d :: rest).dropWhile (· ≠ d) = d :: rest := by
  have different : ∀ c ∈ chars, decide (c ≠ d) = true := by
    intro c member
    exact decide_eq_true fun same => first (same ▸ member)
  rw [List.takeWhile_append_of_pos different, List.dropWhile_append_of_pos different]
  simp

theorem splitOn_none {d : Char} {chars : List Char} (none : d ∉ chars) : chars.splitOn d = [chars] := by
  apply List.splitOnP_eq_singleton
  intro c member
  exact beq_false_of_ne fun same => none (same ▸ member)

theorem predicate_of_selector (p : Predicate) : predicateOfWord? p.selector.toList = some p := by
  have spelled : ∃ state, (if p.asserted then ":checked" else ":not(:checked)").toList = ':' :: state ∧
      decide (':' :: state = ":checked".toList) = p.asserted := by
    cases p.asserted
    · exact ⟨"not(:checked)".toList, rfl, by decide⟩
    · exact ⟨"checked".toList, rfl, by decide⟩
  obtain ⟨state, spelled, asserted⟩ := spelled
  have word : p.selector.toList = '#' :: 't' :: '_' :: ((Decimal.ofInt p.index).toList ++ ':' :: state) := by
    have start : "#".toList ++ "t_".toList = ['#', 't', '_'] := by decide
    rw [Predicate.selector, String.toList_append, String.toList_append, inputName, String.toList_append, spelled,
      ← List.append_assoc, start]
    simp
  obtain ⟨index, rest⟩ := span_at_first (ofInt_free p.index (by decide : ':'.isDigit = false) (by decide)) state
  rw [word, predicateOfWord?, index, rest, number_ofInt, asserted]

theorem target_of_className (t : Target) : targetOfWord? ('.' :: t.className.toList) = some t := by
  have row := ofInt_free t.row (by decide : '_'.isDigit = false) (by decide)
  have col := ofInt_free t.col (by decide : '_'.isDigit = false) (by decide)
  have name : t.className.toList =
      'r' :: '_' :: ((Decimal.ofInt t.row).toList ++ '_' :: (['c'] ++ '_' :: (Decimal.ofInt t.col).toList)) := by
    have start : "r_".toList = ['r', '_'] := by decide
    have middle : "_c_".toList = ['_', 'c', '_'] := by decide
    simp [Target.className, start, middle]
  have parts : ((Decimal.ofInt t.row).toList ++ '_' :: (['c'] ++ '_' :: (Decimal.ofInt t.col).toList)).splitOn '_' =
      [(Decimal.ofInt t.row).toList, ['c'], (Decimal.ofInt t.col).toList] := by
    rw [splitOn_first row, splitOn_first (by decide), splitOn_none col]
  rw [name, targetOfWord?, parts]
  simp only [number_ofInt]

theorem rule_of_words (predicates : List Predicate) (t : Target) :
    ruleOfWords? (predicates.flatMap (fun p => [p.selector.toList, ['~']]) ++
      [".grid".toList, '.' :: t.className.toList]) = some ⟨predicates, t⟩ := by
  induction predicates with
  | nil =>
    rw [List.flatMap_nil, List.nil_append, ruleOfWords?, target_of_className]
    · rfl
    -- The selector of a class is no combinator.
    · intro first
      cases first
  | cons p more ih =>
    rw [List.flatMap_cons, List.append_assoc, List.cons_append, List.singleton_append, ruleOfWords?,
      predicate_of_selector, Option.bind_some, ih]
    rfl

theorem rule_of_css (rule : SheetRule) : ruleOfLine? rule.css.toList = some rule := by
  have opening : " \x7b ".toList = [' ', '\x7b', ' '] := by decide
  have line : rule.css.toList =
      (rule.selector.toList ++ [' ']) ++ '\x7b' :: ' ' :: (SheetRule.litStyle.toList ++ " \x7d".toList) := by
    simp [SheetRule.css, opening]
  have first : '\x7b' ∉ rule.selector.toList ++ [' '] := by
    intro member
    rcases List.mem_append.mp member with inSelector | blank
    · exact (selector_plain rule _ inSelector).2.1 rfl
    · exact absurd blank (by decide)
  rw [ruleOfLine?, line, (span_at_first first _).1, words_blank_end space_isBlank, words_selector]
  exact rule_of_words rule.predicates rule.target

/-! ## Headers -/

/-- The sizes that a line of the header names. -/
def sizesOfLine? (line : List Char) : Option (Int × Int) :=
  match words line with
  | [_, _, cols, _, _, '1' :: '-' :: maxRow, _, _, _, _, _] => some (number cols, number maxRow)
  | _ => none

/-- A line with two sizes between three texts. -/
def lineAround (start middle close : List Char) (cols maxRow : Int) : List Char :=
  start ++ ' ' :: ((Decimal.ofInt cols).toList ++ ' ' :: (middle ++
    ' ' :: ('1' :: '-' :: (Decimal.ofInt maxRow).toList ++ ' ' :: close)))

def sizesLine (cols maxRow : Int) : List Char :=
  lineAround " * Grid:".toList "columns, rows".toList "compiled from the input tape.".toList cols maxRow

theorem words_sides {c : Char} (blank : c.isWhitespace = true) (text rest : List Char) :
    words (text ++ c :: rest) = words text ++ words rest := by
  unfold words
  rw [List.splitOnP_append_cons text rest blank, List.filter_append]

theorem ofInt_noBlank (n : Int) (c : Char) (member : c ∈ (Decimal.ofInt n).toList) : c.isWhitespace = false :=
  (wordChar_plain (nameChar_ofWord (ofInt_isName n c member))).1

theorem words_around (start middle close : List Char) (cols maxRow : Int) :
    words (lineAround start middle close cols maxRow) =
      words start ++ (Decimal.ofInt cols).toList :: (words middle ++
        ('1' :: '-' :: (Decimal.ofInt maxRow).toList) :: words close) := by
  have noBlank : ∀ c ∈ '1' :: '-' :: (Decimal.ofInt maxRow).toList, c.isWhitespace = false := by
    intro c member
    rcases List.mem_cons.mp member with rfl | member
    · decide
    · rcases List.mem_cons.mp member with rfl | member
      · decide
      · exact ofInt_noBlank maxRow c member
  rw [lineAround, words_sides space_isBlank, words_word (ofInt_notEmpty cols) (ofInt_noBlank cols) space_isBlank,
    words_sides space_isBlank, words_word (by simp) noBlank space_isBlank]

theorem lineAround_noNewline {start middle close : List Char} (inStart : '\n' ∉ start) (inMiddle : '\n' ∉ middle)
    (inClose : '\n' ∉ close) (cols maxRow : Int) : '\n' ∉ lineAround start middle close cols maxRow := by
  have first := ofInt_free cols (by decide : '\n'.isDigit = false) (by decide)
  have last := ofInt_free maxRow (by decide : '\n'.isDigit = false) (by decide)
  simp [lineAround, inStart, inMiddle, inClose, first, last]

theorem sizes_of_line (cols maxRow : Int) : sizesOfLine? (sizesLine cols maxRow) = some (cols, maxRow) := by
  have start : words " * Grid:".toList = [['*'], "Grid:".toList] := by decide +kernel
  have middle : words "columns, rows".toList = ["columns,".toList, "rows".toList] := by decide +kernel
  have close : words "compiled from the input tape.".toList =
      ["compiled".toList, "from".toList, "the".toList, "input".toList, "tape.".toList] := by decide +kernel
  have line : words (sizesLine cols maxRow) =
      [['*'], "Grid:".toList, (Decimal.ofInt cols).toList, "columns,".toList, "rows".toList,
        '1' :: '-' :: (Decimal.ofInt maxRow).toList, "compiled".toList, "from".toList, "the".toList, "input".toList,
        "tape.".toList] := by
    have around :=
      words_around " * Grid:".toList "columns, rows".toList "compiled from the input tape.".toList cols maxRow
    rw [start, middle, close] at around
    exact around
  rw [sizesOfLine?, line]
  simp only [number_ofInt]

def leadLines : List (List Char) := ["/*".toList, " * GENERATED RULE 110 LOGIC".toList, " *".toList]

/-- The lines of the header behind the one with the sizes. -/
def commonLines : List (List Char) :=
  [" * Each rule targets one cell for one combination of the tape inputs".toList,
    " * it depends on; a cell is active when any of its rules match.".toList, " */".toList, [],
    "/* Default State */".toList, ".cell \x7b background-color: #1a1a25; \x7d".toList,
    ".cell.active \x7b background-color: var(--primary-color); box-shadow: 0 0 5px var(--primary-color); \x7d".toList,
    []]

theorem header_lines (cols maxRow : Int) :
    (sheetHeader cols maxRow).toList = (leadLines ++ sizesLine cols maxRow :: commonLines).flatMap (· ++ ['\n']) := by
  have lead : "/*\n * GENERATED RULE 110 LOGIC\n *\n * Grid: ".toList =
      leadLines.flatMap (· ++ ['\n']) ++ " * Grid: ".toList := by
    unfold leadLines
    iterate 5 rw [String.toList_ofList]
    decide +kernel
  have sizes : " compiled from the input tape.\n".toList =
      ' ' :: ("compiled from the input tape.".toList ++ ['\n']) := by decide +kernel
  have common : " * Each rule targets one cell for one combination of the tape inputs\n".toList ++
      (" * it depends on; a cell is active when any of its rules match.\n */\n\n".toList ++
      ("/* Default State */\n.cell \x7b background-color: #1a1a25; \x7d\n".toList ++
      (".cell.active \x7b background-color: var(--primary-color); ".toList ++
        "box-shadow: 0 0 5px var(--primary-color); \x7d\n\n".toList))) = commonLines.flatMap (· ++ ['\n']) := by
    unfold commonLines
    iterate 11 rw [String.toList_ofList]
    decide +kernel
  have start : " * Grid: ".toList = " * Grid:".toList ++ [' '] := by decide +kernel
  have middle : " columns, rows 1-".toList = ' ' :: ("columns, rows".toList ++ [' ', '1', '-']) := by decide +kernel
  unfold sheetHeader sizesLine lineAround
  simp only [String.toList_append, List.append_assoc, List.flatMap_append, List.flatMap_cons, List.cons_append,
    List.nil_append, lead, start, middle, sizes, common]

/-! ## Whole sheets -/

/-- What a style sheet tells of a sheet, where no note is an empty one. -/
structure Contents where
  cols : Int
  maxRow : Int
  rules : List SheetRule
  note : Text
  deriving DecidableEq

def contentsOf (s : Sheet) : Contents := ⟨s.cols, s.maxRow, s.rules, s.note.getD ""⟩

def charsOf (line : List Letter) : List Char := line.filterMap Letter.char?

/-- The note in the last part of a style sheet: what is left without ten letters in front and four at the end. -/
def noteIn (ending : List Letter) : Text := ⟨(ending.drop 10).take (ending.length - 14)⟩

/-- Reads the lines behind a header: rules up to an empty line, and the note in the rest. -/
def contentsFrom? (sizes : Int × Int) (body : List (List Letter)) : Option Contents :=
  ((body.takeWhile (· ≠ [])).mapM fun line => ruleOfLine? (charsOf line)).map fun rules =>
    ⟨sizes.1, sizes.2, rules, noteIn ([.char '\n'].intercalate (body.dropWhile (· ≠ [])))⟩

/-- Reads a style sheet line by line; the fourth line of the twelve of the header names the sizes. -/
def contents? (text : Text) : Option Contents :=
  match text.letters.splitOn (.char '\n') with
  | _ :: _ :: _ :: sizes :: _ :: _ :: _ :: _ :: _ :: _ :: _ :: _ :: body =>
    (sizesOfLine? (charsOf sizes)).bind fun sizes => contentsFrom? sizes body
  | _ => none

theorem charsOf_chars (chars : List Char) : charsOf (chars.map .char) = chars := by
  rw [charsOf, List.filterMap_map]
  exact List.filterMap_some

theorem mapM_of_map_some {α β : Type} {f : α → Option β} {xs : List α} {ys : List β} (same : xs.map f = ys.map some) :
    xs.mapM f = some ys := by
  induction xs generalizing ys with
  | nil =>
    obtain rfl := List.map_eq_nil_iff.mp same.symm
    rfl
  | cons x xs ih =>
    cases ys with
    | nil => cases same
    | cons y ys =>
      obtain ⟨first, rest⟩ := List.cons.inj same
      rw [List.mapM_cons, first, ih rest]
      rfl

theorem rule_noNewline (rule : SheetRule) : '\n' ∉ rule.css.toList := by
  have style : '\n' ∉ SheetRule.litStyle.toList := by
    unfold SheetRule.litStyle
    rw [String.toList_ofList]
    decide +kernel
  simp only [SheetRule.css, String.toList_append, List.mem_append, not_or]
  refine ⟨?_, ⟨by decide, style⟩, by decide⟩
  intro member
  rcases selector_chars rule _ member with ofWord | comb
  · exact absurd ofWord (by decide)
  · exact absurd comb (by decide)

/-- The lines of a style sheet in front of its note. -/
def sheetLines (s : Sheet) : List (List Char) :=
  (leadLines ++ sizesLine s.cols s.maxRow :: commonLines) ++ s.rules.map (·.css.toList)

theorem sheetLines_noNewline (s : Sheet) : ∀ line ∈ sheetLines s, '\n' ∉ line := by
  have lead : ∀ line ∈ leadLines, '\n' ∉ line := by
    unfold leadLines
    iterate 3 rw [String.toList_ofList]
    decide +kernel
  have common : ∀ line ∈ commonLines, '\n' ∉ line := by
    unfold commonLines
    iterate 6 rw [String.toList_ofList]
    decide +kernel
  intro line member
  simp only [sheetLines, List.mem_append, List.mem_cons, List.mem_map] at member
  rcases member with (ofLead | rfl | ofCommon) | ⟨rule, _, rfl⟩
  · exact lead line ofLead
  · exact lineAround_noNewline (by decide) (by decide) (by decide) s.cols s.maxRow
  · exact common line ofCommon
  · exact rule_noNewline rule

theorem text_letters (s : Sheet) : s.cssText.text.letters =
    ((sheetLines s).map (·.map Letter.char)).flatMap (· ++ [.char '\n']) ++ (sheetNote s.note).letters := by
  have lines : s.cssText.lines.toList = (sheetLines s).flatMap (· ++ ['\n']) := by
    rw [sheetLines, List.flatMap_append, List.flatMap_map, Sheet.cssText, linesAfter_toList, header_lines]
  have letters : s.cssText.text.letters = s.cssText.lines.toList.map .char ++ (sheetNote s.note).letters := rfl
  rw [letters, lines, List.map_flatMap, List.flatMap_map]
  simp only [List.map_append, List.map_cons, List.map_nil]

/-- No note is written as an empty one is. -/
theorem sheetNote_getD (note : Option Text) : sheetNote note = sheetNote (some (note.getD "")) := by
  cases note <;> rfl

theorem isEmpty_iff (t : Text) : t.isEmpty = true ↔ t = Text.ofString "" := by
  rw [Text.isEmpty, List.isEmpty_iff]
  constructor
  · intro empty
    exact congrArg Text.mk empty
  · rintro rfl
    rfl

theorem ending_parts (note : Text) : ∃ parts, (sheetNote (some note)).letters.splitOn (.char '\n') = [] :: parts := by
  by_cases empty : note.isEmpty = true
  · rw [sheetNote, if_pos empty]
    exact ⟨[], rfl⟩
  · rw [sheetNote, if_neg empty]
    exact ⟨_, splitOn_first List.not_mem_nil _⟩

theorem noteIn_ending (note : Text) : noteIn (sheetNote (some note)).letters = note := by
  by_cases empty : note.isEmpty = true
  · rw [sheetNote, if_pos empty, (isEmpty_iff note).mp empty]
    rfl
  · have start : (Text.ofString "\n/* Note: ").letters.length = 10 := by decide
    have close : (Text.ofString " */\n").letters.length = 4 := by decide
    have letters : (Text.ofString "\n/* Note: " ++ note ++ Text.ofString " */\n").letters =
        (Text.ofString "\n/* Note: ").letters ++ (note.letters ++ (Text.ofString " */\n").letters) :=
      List.append_assoc ..
    have size : ((Text.ofString "\n/* Note: ").letters ++
        (note.letters ++ (Text.ofString " */\n").letters)).length - 14 = note.letters.length := by
      simp only [List.length_append, start, close]
      omega
    rw [sheetNote, if_neg empty, noteIn, letters, size, List.drop_left' start, List.take_left]

def ruleLines (rules : List SheetRule) : List (List Letter) := rules.map (·.css.toList.map .char)

theorem ruleLines_notEmpty (rules : List SheetRule) (line : List Letter) (member : line ∈ ruleLines rules) :
    decide (line ≠ []) = true := by
  obtain ⟨rule, _, rfl⟩ := List.mem_map.mp member
  simp [SheetRule.css]

theorem rules_of_lines (rules : List SheetRule) :
    (ruleLines rules).mapM (fun line => ruleOfLine? (charsOf line)) = some rules := by
  apply mapM_of_map_some
  rw [ruleLines, List.map_map]
  apply List.map_congr_left
  intro rule _
  rw [Function.comp_apply, charsOf_chars, rule_of_css]

theorem contents_of_body (sizes : Int × Int) (rules : List SheetRule) (note : Text) :
    contentsFrom? sizes (ruleLines rules ++ (sheetNote (some note)).letters.splitOn (.char '\n')) =
      some ⟨sizes.1, sizes.2, rules, note⟩ := by
  -- The empty line at the start of the last part ends the rules also where there is no note.
  obtain ⟨parts, ending⟩ := ending_parts note
  have found : noteIn ([.char '\n'].intercalate ([] :: parts)) = note := by
    rw [← ending, List.intercalate_splitOn, noteIn_ending]
  have first : (ruleLines rules ++ [] :: parts).takeWhile (· ≠ []) = ruleLines rules := by
    rw [List.takeWhile_append_of_pos (ruleLines_notEmpty rules), List.takeWhile_cons_of_neg (by simp), List.append_nil]
  have rest : (ruleLines rules ++ [] :: parts).dropWhile (· ≠ []) = [] :: parts := by
    rw [List.dropWhile_append_of_pos (ruleLines_notEmpty rules), List.dropWhile_cons_of_neg (by simp)]
  rw [ending, contentsFrom?, first, rest, found, rules_of_lines]
  rfl

theorem contents_of_sheet (s : Sheet) : contents? s.cssText.text = some (contentsOf s) := by
  have noNewline : ∀ line ∈ (sheetLines s).map (·.map Letter.char), Letter.char '\n' ∉ line := by
    intro line member
    obtain ⟨chars, ofSheet, rfl⟩ := List.mem_map.mp member
    simpa using sheetLines_noNewline s chars ofSheet
  -- Of the header only the line with the sizes is read.
  have header : ∃ a b c d e f g h i j k,
      (leadLines ++ sizesLine s.cols s.maxRow :: commonLines).map (·.map Letter.char) =
        [a, b, c, (sizesLine s.cols s.maxRow).map .char, d, e, f, g, h, i, j, k] :=
    ⟨_, _, _, _, _, _, _, _, _, _, _, rfl⟩
  obtain ⟨a, b, c, d, e, f, g, h, i, j, k, header⟩ := header
  have rules : (s.rules.map (·.css.toList)).map (·.map Letter.char) = ruleLines s.rules := List.map_map
  have body := contents_of_body (s.cols, s.maxRow) s.rules (s.note.getD "")
  rw [contents?, text_letters, splitOn_lines noNewline, sheetLines, List.map_append, header, rules, sheetNote_getD]
  simp only [List.cons_append, List.nil_append]
  rw [charsOf_chars, sizes_of_line]
  exact body

/-- Sheets that agree in what a style sheet tells are spelled alike. -/
theorem cssText_congr {a b : Sheet} (cols : a.cols = b.cols) (maxRow : a.maxRow = b.maxRow) (rules : a.rules = b.rules)
    (notes : a.note.getD "" = b.note.getD "") : a.cssText = b.cssText := by
  rw [Sheet.cssText, Sheet.cssText, sheetNote_getD a.note, sheetNote_getD b.note, cols, maxRow, rules, notes]

theorem css_text (s : Sheet) : s.css.map Writing.text =
    if Decimal.isWritable s.cols && (Decimal.isWritable s.maxRow && s.rules.all SheetRule.isWritable) then
      .ok s.cssText.text
    else .error (.range .unwritableNumber) := by
  have each : s.ruleNumbers.all Decimal.isWritable = s.rules.all SheetRule.isWritable := List.all_flatMap
  rw [Sheet.css, Decimal.ifWritable, List.all_cons, List.all_cons, each]
  split <;> rfl

/-- The text of a style sheet tells the sizes, the rules and the note of its sheet, so sheets are written alike exactly
    if they agree in these. A sheet has a text exactly if all its numbers can be written. -/
theorem css_text_loses_nothing (a b : Sheet) :
    contents? a.cssText.text = some ⟨a.cols, a.maxRow, a.rules, a.note.getD ""⟩ ∧
    (a.cssText.text = b.cssText.text ↔
      a.cols = b.cols ∧ a.maxRow = b.maxRow ∧ a.rules = b.rules ∧ a.note.getD "" = b.note.getD "") ∧
    (a.css.map Writing.text =
      if Decimal.isWritable a.cols && (Decimal.isWritable a.maxRow && a.rules.all SheetRule.isWritable) then
        .ok a.cssText.text
      else .error (.range .unwritableNumber)) ∧
    ∀ text, a.css.map Writing.text = .ok text →
      contents? text = some ⟨a.cols, a.maxRow, a.rules, a.note.getD ""⟩ ∧
      (b.css.map Writing.text = .ok text ↔
        a.cols = b.cols ∧ a.maxRow = b.maxRow ∧ a.rules = b.rules ∧ a.note.getD "" = b.note.getD "") := by
  have spelled : a.cssText.text = b.cssText.text ↔
      a.cols = b.cols ∧ a.maxRow = b.maxRow ∧ a.rules = b.rules ∧ a.note.getD "" = b.note.getD "" := by
    constructor
    · intro same
      have contents := Option.some.inj ((contents_of_sheet a).symm.trans ((congrArg contents? same).trans
        (contents_of_sheet b)))
      exact Contents.mk.inj contents
    · rintro ⟨cols, maxRow, rules, notes⟩
      rw [cssText_congr cols maxRow rules notes]
  refine ⟨contents_of_sheet a, spelled, css_text a, fun text isText => ?_⟩
  have written := css_text a
  split at written
  · rename_i few
    obtain rfl : a.cssText.text = text := Except.ok.inj (written.symm.trans isText)
    refine ⟨contents_of_sheet a, fun same => spelled.mp ?_, ?_⟩
    · have other := css_text b
      split at other
      · exact Except.ok.inj (same.symm.trans other)
      · cases same.symm.trans other
    · rintro ⟨cols, maxRow, rules, notes⟩
      rw [css_text b, ← cols, ← maxRow, ← rules, if_pos few, cssText_congr cols maxRow rules notes]
  · cases written.symm.trans isText

/-- A rule about an input with a negative number, for a cell in such a row. -/
def withNegatives : Sheet := ⟨1, -3, 2, [⟨[⟨-1, true⟩], ⟨-2, 10⟩⟩], none⟩

/-- Only the sizes that no style sheet tells differ, and an empty note is none. -/
theorem css_text_loses_nothing_negative :
    ∃ text, withNegatives.css.map Writing.text = .ok text ∧
      contents? text = some ⟨-3, 2, [⟨[⟨-1, true⟩], ⟨-2, 10⟩⟩], ""⟩ ∧
      { withNegatives with rows := 7, note := some "" }.css.map Writing.text = .ok text := by
  obtain ⟨_, _, spelled, told⟩ := css_text_loses_nothing withNegatives { withNegatives with rows := 7, note := some "" }
  rw [if_pos (by decide +kernel)] at spelled
  obtain ⟨contents, alike⟩ := told _ spelled
  exact ⟨_, spelled, contents, alike.mpr ⟨rfl, rfl, rfl, rfl⟩⟩

end TapeSheet.SheetReading
