import TapeSheet.Proofs.Names
import TapeSheet.Proofs.Page

/-!
# Reading selectors

A reader for the part of the language of selectors that sheets are written in: names, classes and the state of inputs
with the combinators for later siblings and for descendants. Reading what is written for a rule gives the chain of its
predicates (`selector_of_rule`).
-/

namespace TapeSheet.SelectorReading
open TapeSheet.Names TapeSheet.Page

/-! ## Words -/

/-- The words of a text with blanks between them. -/
def words (text : List Char) : List (List Char) := (text.splitOnP Char.isWhitespace).filter fun word => !word.isEmpty

theorem words_blank {c : Char} (blank : c.isWhitespace = true) (text : List Char) : words (c :: text) = words text := by
  unfold words
  rw [List.splitOnP_cons_eq_if_modifyHead, if_pos blank]
  rfl

/-- A word ends at the first blank. -/
theorem words_word {word : List Char} (some : word ≠ []) (noBlank : ∀ c ∈ word, c.isWhitespace = false) {c : Char}
    (blank : c.isWhitespace = true) (text : List Char) : words (word ++ c :: text) = word :: words text := by
  unfold words
  rw [List.splitOnP_append_cons_of_forall_mem noBlank c blank]
  simp [some]

theorem words_single {word : List Char} (some : word ≠ []) (noBlank : ∀ c ∈ word, c.isWhitespace = false) :
    words word = [word] := by
  unfold words
  rw [List.splitOnP_eq_singleton noBlank]
  simp [some]

theorem words_blanks {lead : List Char} (blank : ∀ c ∈ lead, c.isWhitespace = true) (text : List Char) :
    words (lead ++ text) = words text := by
  induction lead with
  | nil => rfl
  | cons c lead ih =>
    rw [List.cons_append, words_blank (blank c (by simp)), ih (fun d member => blank d (by simp [member]))]

theorem words_blank_end {c : Char} (blank : c.isWhitespace = true) (text : List Char) :
    words (text ++ [c]) = words text := by
  unfold words
  rw [List.splitOnP_append_cons text [] blank]
  simp

/-! ## Selectors -/

/-- A name with the kind of condition that it stands for, and the text behind it. -/
def named? (kind : String → Simple) (text : List Char) : Option (Simple × List Char) :=
  if (text.takeWhile isNameChar).isEmpty then none
  else some (kind (String.ofList (text.takeWhile isNameChar)), text.dropWhile isNameChar)

/-- The condition at the start of a text, and the text behind it. -/
def simple? : List Char → Option (Simple × List Char)
  | '#' :: text => named? .name text
  | '.' :: text => named? .cls text
  | ':' :: text =>
    if text.take 7 = "checked".toList then some (.checked true, text.drop 7)
    else if text.take 13 = "not(:checked)".toList then some (.checked false, text.drop 13)
    else none
  | _ => none

theorem named_shorter {kind : String → Simple} {text rest : List Char} {simple : Simple}
    (found : named? kind text = some (simple, rest)) : rest.length ≤ text.length := by
  unfold named? at found
  split at found
  · cases found
  · cases found
    exact (List.dropWhile_suffix _).length_le

theorem simple_shorter {text rest : List Char} {simple : Simple} (found : simple? text = some (simple, rest)) :
    rest.length < text.length := by
  unfold simple? at found
  split at found
  · exact Nat.lt_succ_of_le (named_shorter found)
  · exact Nat.lt_succ_of_le (named_shorter found)
  · split at found
    · cases found
      simp only [List.length_drop, List.length_cons]
      omega
    · split at found
      · cases found
        simp only [List.length_drop, List.length_cons]
        omega
      · cases found
  · cases found

/-- The conditions that a word consists of. -/
def compound? (text : List Char) : Option Compound :=
  match _found : simple? text with
  | none => none
  | some (simple, rest) => if rest.isEmpty then some [simple] else (compound? rest).map (simple :: ·)
termination_by text.length
decreasing_by exact simple_shorter _found

/-- The selector that goes on with some words. -/
def selectorFrom (before : Selector) : List (List Char) → Option Selector
  | [] => some before
  | ['~'] :: word :: rest => (compound? word).bind fun part => selectorFrom (.later before part) rest
  | word :: rest => (compound? word).bind fun part => selectorFrom (.inside before part) rest

/-- The selector of some words. -/
def selector? : List (List Char) → Option Selector
  | [] => none
  | word :: rest => (compound? word).bind fun part => selectorFrom (.only part) rest

theorem compound_of_simple {text rest : List Char} {simple : Simple} (found : simple? text = some (simple, rest)) :
    compound? text = if rest.isEmpty then some [simple] else (compound? rest).map (simple :: ·) := by
  rw [compound?]
  split
  · rename_i none
    rw [none] at found
    cases found
  · rename_i other tail same
    rw [same] at found
    cases found
    rfl

/-- A name ends at the first character that no name has. -/
theorem named_append (kind : String → Simple) {name : String} (some : name.toList ≠ [])
    (isName : ∀ c ∈ name.toList, isNameChar c = true) {rest : List Char}
    (stop : ∀ c, rest.head? = .some c → isNameChar c = false) :
    named? kind (name.toList ++ rest) = .some (kind name, rest) := by
  have restNames : rest.takeWhile isNameChar = [] ∧ rest.dropWhile isNameChar = rest := by
    cases rest with
    | nil => exact ⟨rfl, rfl⟩
    | cons c rest => simp [stop c rfl]
  unfold named?
  rw [List.takeWhile_append_of_pos isName, List.dropWhile_append_of_pos isName, restNames.1, restNames.2,
    List.append_nil, String.ofList_toList]
  simp [some]

/-! ## The selector of a rule -/

/-- The conditions of a predicate. -/
def partOf (p : Predicate) : Compound := [.name (inputName p.index), .checked p.asserted]

/-- The chain of a rule's predicates, the grid behind them and the cell in it. -/
def selectorOf (rule : SheetRule) : Selector :=
  .inside (chain [.cls "grid"] (rule.predicates.map partOf)) [.cls rule.target.className]

theorem compound_of_state (asserted : Bool) :
    compound? (if asserted then ":checked" else ":not(:checked)").toList = some [.checked asserted] := by
  cases asserted with
  | false =>
    have state : simple? ":not(:checked)".toList = some (.checked false, []) := by decide
    exact (compound_of_simple state).trans rfl
  | true =>
    have state : simple? ":checked".toList = some (.checked true, []) := by decide
    exact (compound_of_simple state).trans rfl

theorem compound_of_predicate (p : Predicate) : compound? p.selector.toList = some (partOf p) := by
  have spelled : p.selector.toList =
      '#' :: ((inputName p.index).toList ++ (if p.asserted then ":checked" else ":not(:checked)").toList) := by
    rw [Predicate.selector, String.toList_append, String.toList_append]
    rfl
  have notEmpty : (inputName p.index).toList ≠ [] := by
    rw [inputName, String.toList_append]
    simp
  have name : simple? p.selector.toList =
      some (.name (inputName p.index), (if p.asserted then ":checked" else ":not(:checked)").toList) := by
    rw [spelled]
    apply named_append .name notEmpty (inputName_isName p.index)
    intro c head
    have colon : c = ':' := by
      cases asserted : p.asserted
      · rw [asserted] at head
        exact (Option.some.inj head).symm
      · rw [asserted] at head
        exact (Option.some.inj head).symm
    rw [colon]
    decide
  have more : (if p.asserted then ":checked" else ":not(:checked)").toList.isEmpty = false := by
    cases p.asserted <;> rfl
  rw [compound_of_simple name, more, compound_of_state]
  rfl

theorem compound_of_class {name : String} (some : name.toList ≠ []) (isName : ∀ c ∈ name.toList, isNameChar c = true) :
    compound? ('.' :: name.toList) = .some [.cls name] := by
  have stop : ∀ c, ([] : List Char).head? = .some c → isNameChar c = false := by
    intro c head
    cases head
  have found : simple? ('.' :: name.toList) = .some (.cls name, []) := by
    have whole := named_append .cls some isName stop
    rwa [List.append_nil] at whole
  rw [compound_of_simple found]
  rfl

/-- A character of a word in a selector. -/
def isWordChar (c : Char) : Bool := isNameChar c || "#.:()".toList.contains c

/-- The characters of words are no blanks and do not bound comments or blocks. -/
theorem wordChar_plain {c : Char} (ofWord : isWordChar c = true) :
    c.isWhitespace = false ∧ c ≠ '/' ∧ c ≠ '\x7b' ∧ c ≠ '\x7d' := by
  refine ⟨?_, ?_, ?_, ?_⟩
  · by_contra blank
    simp only [Bool.not_eq_false, Char.isWhitespace, Bool.or_eq_true, decide_eq_true_eq] at blank
    rcases blank with ((rfl | rfl) | rfl) | rfl <;> exact absurd ofWord (by decide)
  · rintro rfl
    exact absurd ofWord (by decide)
  · rintro rfl
    exact absurd ofWord (by decide)
  · rintro rfl
    exact absurd ofWord (by decide)

theorem nameChar_ofWord {c : Char} (isName : isNameChar c = true) : isWordChar c = true := by
  rw [isWordChar, isName, Bool.true_or]

theorem predicate_chars (p : Predicate) (c : Char) (member : c ∈ p.selector.toList) : isWordChar c = true := by
  have letters : ∀ c ∈ "#".toList ++ (":checked".toList ++ ":not(:checked)".toList), isWordChar c = true :=
    List.all_iff_forall_prop.mp (by decide)
  rw [Predicate.selector, String.toList_append, String.toList_append] at member
  rcases List.mem_append.mp member with member | state
  · rcases List.mem_append.mp member with start | name
    · exact letters c (List.mem_append_left _ start)
    · exact nameChar_ofWord (inputName_isName p.index c name)
  · apply letters c (List.mem_append_right _ _)
    cases asserted : p.asserted
    · rw [asserted] at state
      exact List.mem_append_right _ state
    · rw [asserted] at state
      exact List.mem_append_left _ state

theorem className_notEmpty (t : Target) : t.className.toList ≠ [] := by
  simp [Target.className]

theorem space_isBlank : Char.isWhitespace ' ' = true := by decide

theorem words_chain (predicates : List Predicate) (rest : List Char) :
    words ((SheetRule.chain predicates).toList ++ rest) =
      predicates.flatMap (fun p => [p.selector.toList, ['~']]) ++ words rest := by
  induction predicates with
  | nil => rfl
  | cons p more ih =>
    have spelled : (SheetRule.chain (p :: more)).toList ++ rest =
        p.selector.toList ++ ' ' :: (['~'] ++ ' ' :: ((SheetRule.chain more).toList ++ rest)) := by
      have comb : " ~ ".toList = [' ', '~', ' '] := by decide
      simp [SheetRule.chain, comb]
    have notEmpty : p.selector.toList ≠ [] := by simp [Predicate.selector]
    rw [spelled, words_word notEmpty (fun c member => (wordChar_plain (predicate_chars p c member)).1) space_isBlank,
      words_word (by decide) (List.all_iff_forall_prop.mp (by decide)) space_isBlank, ih]
    rfl

theorem words_cell (t : Target) :
    words (".grid .".toList ++ t.className.toList) = [".grid".toList, '.' :: t.className.toList] := by
  have grid : ".grid .".toList ++ t.className.toList = ".grid".toList ++ ' ' :: '.' :: t.className.toList := rfl
  rw [grid, words_word (by decide) (List.all_iff_forall_prop.mp (by decide)) space_isBlank, words_single (by simp)]
  intro c member
  rcases List.mem_cons.mp member with rfl | name
  · decide
  · exact (wordChar_plain (nameChar_ofWord (className_isName t c name))).1

/-- The words of a rule's selector. -/
theorem words_selector (rule : SheetRule) : words rule.selector.toList =
    rule.predicates.flatMap (fun p => [p.selector.toList, ['~']]) ++
      [".grid".toList, '.' :: rule.target.className.toList] := by
  rw [SheetRule.selector, String.toList_append, String.toList_append, words_chain, words_cell]

theorem selectorFrom_later (before : Selector) (word : List Char) (rest : List (List Char)) :
    selectorFrom before (['~'] :: word :: rest) =
      (compound? word).bind fun part => selectorFrom (.later before part) rest := rfl

theorem selectorFrom_last (before : Selector) (t : Target) :
    selectorFrom before ['.' :: t.className.toList] = some (.inside before [.cls t.className]) := by
  have cell := compound_of_class (className_notEmpty t) (className_isName t)
  rw [selectorFrom, cell]
  · rfl
  · intro word rest first
    cases first

theorem compound_of_grid : compound? ".grid".toList = some [.cls "grid"] := by
  have some : "grid".toList ≠ [] := by decide
  exact compound_of_class some (List.all_iff_forall_prop.mp (by decide))

/-- A chain goes on with the words of more predicates, up to the grid and the cell in it. -/
theorem selectorFrom_chain (before : Selector) (predicates : List Predicate) (t : Target) :
    selectorFrom before (['~'] :: (predicates.flatMap (fun p => [p.selector.toList, ['~']]) ++
        [".grid".toList, '.' :: t.className.toList])) =
      some (.inside (.later ((predicates.map partOf).foldl .later before) [.cls "grid"]) [.cls t.className]) := by
  induction predicates generalizing before with
  | nil =>
    rw [List.flatMap_nil, List.nil_append, selectorFrom_later, compound_of_grid]
    exact selectorFrom_last _ t
  | cons p more ih =>
    rw [List.flatMap_cons, List.append_assoc, List.cons_append, selectorFrom_later, compound_of_predicate]
    exact ih (.later before (partOf p))

/-- Reading the selector of a rule gives the chain of its predicates. -/
theorem selector_of_rule (rule : SheetRule) : selector? (words rule.selector.toList) = some (selectorOf rule) := by
  rw [words_selector, selectorOf]
  cases rule.predicates with
  | nil =>
    rw [List.flatMap_nil, List.nil_append, selector?, compound_of_grid]
    exact selectorFrom_last _ rule.target
  | cons p more =>
    rw [List.flatMap_cons, List.append_assoc, List.cons_append, selector?, compound_of_predicate]
    exact selectorFrom_chain (.only (partOf p)) more rule.target

end TapeSheet.SelectorReading
