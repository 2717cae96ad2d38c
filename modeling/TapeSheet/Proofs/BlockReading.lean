import TapeSheet.Proofs.Compilation
import TapeSheet.Proofs.Encoding
import TapeSheet.Proofs.SelectorReading
import TapeSheet.Stylesheet

/-!
# Reading style sheets

A reader for blocks of declarations with comments between them. Reading the style sheet of compiled sizes gives the
common blocks and a block for each rule, with the words of its selector (`blocks_of_sheet`).
-/

namespace TapeSheet.BlockReading
open TapeSheet.Names TapeSheet.Compilation TapeSheet.Cover TapeSheet.Encoding TapeSheet.SelectorReading

/-- A block of declarations with the words in front of it. -/
structure Block where
  selector : List (List Char)
  body : List (List Char)
  deriving DecidableEq

/-- Where a reader stands: in the text, behind a slash, in a comment, or behind a star in a comment. -/
inductive Mode
  | text
  | slash
  | comment
  | star
  deriving DecidableEq

/-- The part of a text that is being read, its last character first, the selector in front of it if it is a body, and
    the blocks before. -/
structure Reader where
  mode : Mode
  part : List Char
  selector : Option (List Char)
  blocks : List Block
  deriving DecidableEq

namespace Reader

/-- A character outside comments. -/
def put (r : Reader) (c : Char) : Reader :=
  match r.selector with
  | none =>
    if c = '\x7b' then { r with part := [], selector := some r.part.reverse } else { r with part := c :: r.part }
  | some selector =>
    if c = '\x7d' then
      { r with part := [], selector := none, blocks := r.blocks ++ [⟨words selector, words r.part.reverse⟩] }
    else { r with part := c :: r.part }

def next (r : Reader) (c : Char) : Reader :=
  match r.mode with
  | .text => if c = '/' then { r with mode := .slash } else r.put c
  | .slash =>
    if c = '*' then { r with mode := .comment }
    else if c = '/' then r.put c
    else { (r.put '/').put c with mode := .text }
  | .comment => if c = '*' then { r with mode := .star } else r
  | .star => if c = '/' then { r with mode := .text } else if c = '*' then r else { r with mode := .comment }

theorem read_append {s t : List Char} {r u v : Reader} (first : s.foldl next r = u) (second : t.foldl next u = v) :
    (s ++ t).foldl next r = v := by
  rw [List.foldl_append, first, second]

/-- Reading the characters of a literal. -/
theorem read_literal {chars : List Char} {r u : Reader} (run : chars.foldl next r = u) :
    (String.ofList chars).toList.foldl next r = u := by
  rw [String.toList_ofList, run]

/-- Characters that bound neither comments nor blocks extend the part that is being read. -/
theorem next_plain (text : List Char) (plain : ∀ c ∈ text, c ≠ '/' ∧ c ≠ '\x7b' ∧ c ≠ '\x7d') (part : List Char)
    (selector : Option (List Char)) (blocks : List Block) :
    text.foldl next ⟨.text, part, selector, blocks⟩ = ⟨.text, text.reverse ++ part, selector, blocks⟩ := by
  induction text generalizing part with
  | nil => simp
  | cons c text ih =>
    obtain ⟨slash, opening, closing⟩ := plain c (by simp)
    have step : next ⟨.text, part, selector, blocks⟩ c = ⟨.text, c :: part, selector, blocks⟩ := by
      cases selector <;> simp [next, put, slash, opening, closing]
    rw [List.foldl_cons, step, ih (fun d member => plain d (by simp [member]))]
    simp

/-- A comment is skipped as long as no star comes. -/
theorem next_comment (text : List Char) (noStar : '*' ∉ text) (r : Reader) (inside : r.mode = .comment) :
    text.foldl next r = r := by
  induction text with
  | nil => rfl
  | cons c text ih =>
    have different : c ≠ '*' := fun same => noStar (same ▸ List.mem_cons_self)
    have step : next r c = r := by simp [next, inside, different]
    rw [List.foldl_cons, step]
    exact ih (fun member => noStar (List.mem_cons_of_mem _ member))

end Reader

/-- The blocks of a style sheet. -/
def blocks (text : List Char) : List Block := (text.foldl Reader.next ⟨.text, [], none, []⟩).blocks

/-- The declarations of a lit cell. -/
def litBody : List (List Char) := words SheetRule.litStyle.toList

/-- Styles that hold for all grids. -/
def commonBlocks : List Block :=
  [⟨words ".cell".toList, words "background-color: #1a1a25;".toList⟩,
    ⟨words ".cell.active".toList,
      words "background-color: var(--primary-color); box-shadow: 0 0 5px var(--primary-color);".toList⟩]

theorem ofInt_noStar (n : Int) : '*' ∉ (Decimal.ofInt n).toList := ofInt_free n (by decide) (by decide)

/-- Reading the header leaves the common blocks, whatever the sizes in its comment are. -/
theorem header_read (cols maxRow : Int) :
    (sheetHeader cols maxRow).toList.foldl Reader.next ⟨.text, [], none, []⟩ =
      ⟨.text, ['\n', '\n'], none, commonBlocks⟩ := by
  unfold sheetHeader
  simp only [String.toList_append, List.append_assoc]
  -- The comment with the sizes.
  refine Reader.read_append (u := ⟨.comment, [], none, []⟩) (Reader.read_literal (by decide +kernel)) ?_
  refine Reader.read_append (Reader.next_comment _ (ofInt_noStar cols) _ rfl) ?_
  refine Reader.read_append (u := ⟨.comment, [], none, []⟩) (Reader.read_literal (by decide +kernel)) ?_
  refine Reader.read_append (Reader.next_comment _ (ofInt_noStar maxRow) _ rfl) ?_
  refine Reader.read_append (u := ⟨.comment, [], none, []⟩) (Reader.read_literal (by decide +kernel)) ?_
  refine Reader.read_append (u := ⟨.comment, [], none, []⟩) (Reader.read_literal (by decide +kernel)) ?_
  refine Reader.read_append (u := ⟨.text, ['\n', '\n'], none, []⟩) (Reader.read_literal (by decide +kernel)) ?_
  -- The blocks behind it; their literals are spelled out before anything is evaluated.
  unfold commonBlocks
  iterate 7 rw [String.toList_ofList]
  decide +kernel

/-- No common block has the declarations of a lit cell. -/
theorem common_not_lit : ∀ block ∈ commonBlocks, block.body ≠ litBody := by
  unfold commonBlocks litBody SheetRule.litStyle
  iterate 5 rw [String.toList_ofList]
  decide +kernel

/-- What a rule is read as. -/
def blockOf (rule : SheetRule) : Block := ⟨words rule.selector.toList, litBody⟩

theorem chain_chars (predicates : List Predicate) (c : Char) (member : c ∈ (SheetRule.chain predicates).toList) :
    isWordChar c = true ∨ c ∈ " ~ ".toList := by
  induction predicates with
  | nil => cases member
  | cons p more ih =>
    simp only [SheetRule.chain, String.toList_append, List.mem_append] at member
    rcases member with ofPredicate | comb | rest
    · exact .inl (predicate_chars p c ofPredicate)
    · exact .inr comb
    · exact ih rest

/-- Selectors consist of words with blanks and combinators between them. -/
theorem selector_chars (rule : SheetRule) (c : Char) (member : c ∈ rule.selector.toList) :
    isWordChar c = true ∨ c ∈ " ~ ".toList := by
  have letters : ∀ c ∈ ".grid .".toList, isWordChar c = true ∨ c ∈ " ~ ".toList :=
    List.all_iff_forall_prop.mp (by decide)
  simp only [SheetRule.selector, String.toList_append, List.mem_append] at member
  rcases member with chain | grid | name
  · exact chain_chars rule.predicates c chain
  · exact letters c grid
  · exact .inl (nameChar_ofWord (className_isName _ c name))

theorem selector_plain (rule : SheetRule) (c : Char) (member : c ∈ rule.selector.toList) :
    c ≠ '/' ∧ c ≠ '\x7b' ∧ c ≠ '\x7d' := by
  have letters : ∀ c ∈ " ~ ".toList, c ≠ '/' ∧ c ≠ '\x7b' ∧ c ≠ '\x7d' :=
    List.all_iff_forall_prop.mp (by decide)
  rcases selector_chars rule c member with ofWord | comb
  · exact (wordChar_plain ofWord).2
  · exact letters c comb

theorem litStyle_plain : ∀ c ∈ SheetRule.litStyle.toList, c ≠ '/' ∧ c ≠ '\x7b' ∧ c ≠ '\x7d' := by
  unfold SheetRule.litStyle
  rw [String.toList_ofList]
  exact List.all_iff_forall_prop.mp (by decide +kernel)

/-- Reading the line of a rule adds its block. -/
theorem rule_read (rule : SheetRule) {lead : List Char} (blank : ∀ c ∈ lead, c.isWhitespace = true)
    (before : List Block) :
    (rule.css.toList ++ ['\n']).foldl Reader.next ⟨.text, lead, none, before⟩ =
      ⟨.text, ['\n'], none, before ++ [blockOf rule]⟩ := by
  have opening : " \x7b ".toList = [' ', '\x7b', ' '] := by decide
  have closing : " \x7d".toList = [' ', '\x7d'] := by decide
  have selectorWords : words (' ' :: (rule.selector.toList.reverse ++ lead)).reverse = words rule.selector.toList := by
    rw [List.reverse_cons, words_blank_end space_isBlank, List.reverse_append, List.reverse_reverse, words_blanks]
    intro c member
    exact blank c (List.mem_reverse.mp member)
  have bodyWords : words (' ' :: (SheetRule.litStyle.toList.reverse ++ [' '])).reverse = litBody := by
    rw [List.reverse_cons, words_blank_end space_isBlank, List.reverse_append, List.reverse_reverse,
      List.reverse_singleton, List.singleton_append, words_blank space_isBlank, litBody]
  simp only [SheetRule.css, String.toList_append, opening, closing, List.append_assoc]
  refine Reader.read_append (Reader.next_plain _ (selector_plain rule) lead none before) ?_
  refine Reader.read_append (u := ⟨.text, [' '], some (' ' :: (rule.selector.toList.reverse ++ lead)).reverse, before⟩)
    rfl ?_
  refine Reader.read_append (Reader.next_plain _ litStyle_plain [' '] _ before) ?_
  rw [blockOf, ← selectorWords, ← bodyWords]
  rfl

/-- Reading the lines of rules adds their blocks in order. -/
theorem rules_read (rules : List SheetRule) (lead : List Char) (blank : ∀ c ∈ lead, c.isWhitespace = true)
    (before : List Block) :
    ∃ part, (rules.flatMap fun rule => rule.css.toList ++ ['\n']).foldl Reader.next ⟨.text, lead, none, before⟩ =
      ⟨.text, part, none, before ++ rules.map blockOf⟩ := by
  induction rules generalizing lead before with
  | nil => exact ⟨lead, by simp⟩
  | cons rule more ih =>
    obtain ⟨part, read⟩ := ih ['\n'] (List.all_iff_forall_prop.mp (by decide)) (before ++ [blockOf rule])
    refine ⟨part, ?_⟩
    rw [List.flatMap_cons]
    refine (Reader.read_append (rule_read rule blank before) read).trans ?_
    rw [List.map_cons, List.append_assoc, List.singleton_append]

/-! ## Written sheets -/

theorem linesAfter_toList {α : Type} (before : String) (line : α → String) (items : List α) :
    (linesAfter before line items).toList =
      before.toList ++ items.flatMap fun item => (line item).toList ++ ['\n'] := by
  unfold linesAfter
  induction items generalizing before with
  | nil => simp
  | cons item more ih =>
    have newline : "\n".toList = ['\n'] := by decide
    rw [List.foldl_cons, ih, List.flatMap_cons, String.toList_append, String.toList_append, newline]
    simp only [List.append_assoc]

theorem splitOn_first {α : Type} [BEq α] [LawfulBEq α] {d : α} {part : List α} (first : d ∉ part) (rest : List α) :
    (part ++ d :: rest).splitOn d = part :: rest.splitOn d := by
  have different : ∀ c ∈ part, (c == d) = false := by
    intro c member
    exact beq_false_of_ne fun same => first (same ▸ member)
  exact List.splitOnP_append_cons_of_forall_mem different d (beq_self_eq_true d) rest

/-- A text that starts with lines is split at newlines into these and the parts of its rest. -/
theorem splitOn_lines {α : Type} [BEq α] [LawfulBEq α] {newline : α} {lines : List (List α)}
    (noNewline : ∀ line ∈ lines, newline ∉ line) (rest : List α) :
    ((lines.flatMap fun line => line ++ [newline]) ++ rest).splitOn newline = lines ++ rest.splitOn newline := by
  induction lines with
  | nil => rfl
  | cons line lines ih =>
    have tail := ih fun other member => noNewline other (by simp [member])
    rw [List.flatMap_cons, List.append_assoc, List.append_assoc, List.singleton_append,
      splitOn_first (noNewline line (by simp)), tail]
    rfl

/-- The lines of a sheet are read as the common blocks and those of its rules. -/
theorem lines_read (s : Sheet) : ∃ part, s.cssText.lines.toList.foldl Reader.next ⟨.text, [], none, []⟩ =
    ⟨.text, part, none, commonBlocks ++ s.rules.map blockOf⟩ := by
  obtain ⟨part, read⟩ := rules_read s.rules ['\n', '\n'] (List.all_iff_forall_prop.mp (by decide)) commonBlocks
  refine ⟨part, ?_⟩
  rw [Sheet.cssText, linesAfter_toList]
  exact Reader.read_append (header_read s.cols s.maxRow) read

theorem ofString_append (s t : String) : Text.ofString s ++ Text.ofString t = Text.ofString (s ++ t) := by
  have letters : s.toList.map Letter.char ++ t.toList.map Letter.char = (s ++ t).toList.map Letter.char := by
    rw [String.toList_append, List.map_append]
  exact congrArg Text.mk letters

theorem cutNote_noStar (rows cap : Int) : '*' ∉ (cutNote rows cap).toList := by
  unfold cutNote
  simp only [String.toList_append, List.mem_append, not_or]
  refine ⟨⟨⟨⟨⟨⟨?_, ofInt_noStar _⟩, ?_⟩, ofInt_noStar _⟩, ?_⟩, ofInt_noStar _⟩, ?_⟩
  all_goals
    rw [String.toList_ofList]
    decide +kernel

/-- The comment around a note without stars is skipped. -/
theorem note_read {note : String} (noStar : '*' ∉ note.toList) (part : List Char) (before : List Block) :
    ("\n/* Note: " ++ note ++ " */\n").toList.foldl Reader.next ⟨.text, part, none, before⟩ =
      ⟨.text, '\n' :: '\n' :: part, none, before⟩ := by
  rw [String.toList_append, String.toList_append]
  refine Reader.read_append (u := ⟨.comment, '\n' :: part, none, before⟩) ?_ (Reader.read_literal rfl)
  exact Reader.read_append (Reader.read_literal rfl) (Reader.next_comment _ noStar _ rfl)

/-- The ending of a compiled sheet can be written, and it has no blocks. -/
theorem ending_read (rows cols cap : Nat) (part : List Char) (before : List Block) :
    ∃ ending, (sheetOf rows cols cap).cssText.ending.encode = .ok ending ∧
      (ending.toList.foldl Reader.next ⟨.text, part, none, before⟩).blocks = before := by
  by_cases cut : rows > cap
  · have notEmpty : (Text.ofString (cutNote rows cap)).isEmpty = false := by
      simp [Text.isEmpty, Text.ofString, Text.ofChars, cutNote]
    have ending : (sheetOf rows cols cap).cssText.ending =
        Text.ofString ("\n/* Note: " ++ cutNote rows cap ++ " */\n") := by
      rw [← ofString_append, ← ofString_append, Sheet.cssText, sheetOf, if_pos cut]
      simp only [sheetNote, notEmpty, Bool.false_eq_true, ↓reduceIte]
    rw [ending, encode_ofString]
    exact ⟨_, rfl, by rw [note_read (cutNote_noStar rows cap)]⟩
  · have ending : (sheetOf rows cols cap).cssText.ending = Text.ofString "" := by
      rw [Sheet.cssText, sheetOf, if_neg cut]
      rfl
    rw [ending, encode_ofString]
    exact ⟨_, rfl, rfl⟩

/-- The style sheet of compiled sizes can be written, and it is read as the common blocks and one block for each
    rule. -/
theorem blocks_of_sheet (rows cols cap : Nat) :
    ∃ text, (sheetOf rows cols cap).cssText.encode = .ok text ∧
      blocks text.toList = commonBlocks ++ (sheetOf rows cols cap).rules.map blockOf := by
  obtain ⟨part, lines⟩ := lines_read (sheetOf rows cols cap)
  obtain ⟨ending, written, read⟩ := ending_read rows cols cap part
    (commonBlocks ++ (sheetOf rows cols cap).rules.map blockOf)
  refine ⟨(sheetOf rows cols cap).cssText.lines ++ ending, by rw [Writing.encode, written], ?_⟩
  rw [blocks, String.toList_append, List.foldl_append, lines, read]

/-! ## Numbers of compiled sheets -/

theorem isWritable_deepest : Decimal.isWritable maxCompiledRow = true := by decide +kernel

/-- The numbers of a compiled sheet are at most as long as its number of columns, or not longer than those of its
    deepest row. -/
theorem sheetOf_numbers {rows cols cap : Nat} (capBound : cap ≤ maxCompiledRow) (few : Decimal.isWritable cols = true) :
    (sheetOf rows cols cap).ruleNumbers.all Decimal.isWritable = true := by
  rw [List.all_eq_true]
  intro n member
  obtain ⟨rule, isRule, ofRule⟩ := List.mem_flatMap.mp member
  obtain ⟨⟨above, rowInside, col, colInside, target⟩, inside, _⟩ := sheetOf_rule isRule
  rw [SheetRule.numbers, target] at ofRule
  rcases List.mem_cons.mp ofRule with rfl | ofRule
  · exact isWritable_of_smaller (by simp only [maxCompiledRow] at *; omega) isWritable_deepest
  rcases List.mem_cons.mp ofRule with rfl | ofRule
  · exact isWritable_of_smaller (by simp only; omega) few
  · obtain ⟨p, isPredicate, rfl⟩ := List.mem_map.mp ofRule
    have bounds := inside p isPredicate
    exact isWritable_of_smaller (by omega) few

theorem sheetOf_depth (rows cols : Nat) {cap : Nat} (capBound : cap ≤ maxCompiledRow) :
    Decimal.isWritable (sheetOf rows cols cap).maxRow = true := by
  have isDepth : (sheetOf rows cols cap).maxRow = (min rows cap : Nat) := rfl
  exact isWritable_of_smaller (by omega) isWritable_deepest

theorem sheetOf_records (rows : Nat) {cols cap : Nat} (capBound : cap ≤ maxCompiledRow)
    (few : Decimal.isWritable cols = true) :
    (sheetOf rows cols cap).records = .ok (sheetOf rows cols cap).recordsText :=
  Decimal.ifWritable_ok.mpr ⟨sheetOf_numbers capBound few, rfl⟩

/-- A compiled sheet is written as a style sheet exactly if its number of columns is. -/
theorem sheetOf_css {rows cols cap : Nat} (capBound : cap ≤ maxCompiledRow) {text : String}
    (spelled : (sheetOf rows cols cap).cssText.encode = .ok text) :
    (sheetOf rows cols cap).written .css = .ok text ↔ Decimal.isWritable cols = true := by
  have width : (sheetOf rows cols cap).cols = cols := rfl
  rw [Sheet.written_css, and_iff_left spelled, List.all_cons, List.all_cons, width, sheetOf_depth rows cols capBound,
    Bool.true_and, Bool.and_eq_true, and_iff_left_of_imp (sheetOf_numbers capBound)]

end TapeSheet.BlockReading
