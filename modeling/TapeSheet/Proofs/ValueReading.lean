import TapeSheet.Proofs.SheetReading
import TapeSheet.Proofs.JsonReading
import Mathlib.Data.List.DropRight

/-!
# Reading printed values

Every value that has a JSON text is read back from it, whatever stands behind that text.
-/

namespace TapeSheet.ValueReading
open TapeSheet.Names TapeSheet.JsonReading TapeSheet.SheetReading TapeSheet.Json

/-! ## Numbers with fractions and exponents -/

/-- At least one decimal digit. -/
def Digits (text : List Char) : Prop := text ≠ [] ∧ ∀ c ∈ text, c.isDigit = true

/-- The fraction of a number, or none. -/
def IsFraction (text : List Char) : Prop := text = [] ∨ ∃ digits, Digits digits ∧ text = '.' :: digits

/-- The exponent of a number, or none. -/
def IsExponent (text : List Char) : Prop :=
  text = [] ∨ ∃ sign digits, (sign = '+' ∨ sign = '-') ∧ Digits digits ∧ text = 'e' :: sign :: digits

/-- A number without a sign: digits, with no zero in front of others, and maybe a fraction and an exponent. -/
def IsNumeral (text : List Char) : Prop :=
  ∃ whole fraction exponent, Digits whole ∧ (1 < whole.length → whole.head? ≠ some '0') ∧ IsFraction fraction ∧
    IsExponent exponent ∧ text = whole ++ (fraction ++ exponent)

theorem readExponent_of_exponent {exponent : List Char} (isExponent : IsExponent exponent) :
    ∃ size, ∀ rest, Stops rest → readExponent (exponent ++ rest) = some (size, rest) := by
  obtain rfl | ⟨sign, digits, isSign, ⟨notEmpty, all⟩, rfl⟩ := isExponent
  · exact ⟨none, fun rest stops => readExponent_stops stops⟩
  · refine ⟨some (if sign = '-' then -(Binary64.digitsValue digits : Int) else Binary64.digitsValue digits),
      fun rest stops => ?_⟩
    have read := readDigits_append all fun c head => (stops c head).1
    obtain ⟨c, more, rfl⟩ := List.exists_cons_of_ne_nil notEmpty
    rw [List.cons_append] at read
    obtain rfl | rfl := isSign
    · simp [readExponent, read]
    · simp [readExponent, read]

theorem exponent_head {exponent rest : List Char} (isExponent : IsExponent exponent) (stops : Stops rest) (c : Char)
    (head : (exponent ++ rest).head? = some c) : c.isDigit = false ∧ c ≠ '.' := by
  obtain rfl | ⟨sign, digits, _, _, rfl⟩ := isExponent
  · exact ⟨(stops c head).1, (stops c head).2.1⟩
  · obtain rfl := Option.some.inj head
    decide

/-- The number of digits with a fraction and an exponent. -/
def numberOf (negative : Bool) (whole fraction : List Char) (exponent : Option Int) : Value :=
  if fraction.isEmpty ∧ exponent.isNone then
    .int (if negative then -(Binary64.digitsValue whole : Int) else Binary64.digitsValue whole)
  else .float (Binary64.ofParts negative whole fraction (exponent.getD 0))

theorem readNumber_of_numeral {text : List Char} (isNumeral : IsNumeral text) (negative : Bool) :
    ∃ v, ∀ rest, Stops rest → readNumber negative (text ++ rest) = some (v, rest) := by
  obtain ⟨whole, fraction, exponent, ⟨notEmpty, all⟩, noZero, isFraction, isExponent, rfl⟩ := isNumeral
  obtain ⟨size, readSize⟩ := readExponent_of_exponent isExponent
  have behind : ∀ rest, Stops rest → ∀ c, (fraction ++ exponent ++ rest).head? = some c → c.isDigit = false := by
    intro rest stops c head
    obtain rfl | ⟨digits, _, rfl⟩ := isFraction
    · exact (exponent_head isExponent stops c head).1
    · obtain rfl := Option.some.inj head
      decide
  have noZeros : ¬ (whole.length > 1 ∧ whole.head? = some '0') := fun ⟨long, zero⟩ => noZero long zero
  have opened : ∀ rest, Stops rest → readDigits (whole ++ (fraction ++ exponent) ++ rest) =
      (whole, fraction ++ exponent ++ rest) := by
    intro rest stops
    rw [List.append_assoc, readDigits_append all (behind rest stops)]
  obtain ⟨d, more, rfl⟩ := List.exists_cons_of_ne_nil notEmpty
  obtain rfl | ⟨digits, ⟨someDigits, digitsAll⟩, rfl⟩ := isFraction
  · refine ⟨numberOf negative (d :: more) [] size, fun rest stops => ?_⟩
    have readSize := readSize rest stops
    have head := exponent_head isExponent stops
    unfold readNumber numberOf
    rw [opened rest stops, List.nil_append]
    cases behind : exponent ++ rest with
    | nil =>
      rw [behind] at readSize
      simp only [if_neg noZeros, readSize]
      split <;> rfl
    | cons c others =>
      rw [behind] at readSize head
      simp only [if_neg noZeros, List.cons.injEq, (head c rfl).2, false_and, imp_self, implies_true, readSize]
      split <;> rfl
  · obtain ⟨first, others, rfl⟩ := List.exists_cons_of_ne_nil someDigits
    refine ⟨numberOf negative (d :: more) (first :: others) size, fun rest stops => ?_⟩
    have readFraction := readDigits_append digitsAll fun c head => (exponent_head isExponent stops c head).1
    unfold readNumber numberOf
    rw [opened rest stops, List.append_assoc, List.cons_append]
    simp only [if_neg noZeros, readFraction, readSize rest stops]
    split <;> rfl

/-! ## Doubles -/

section Doubles
open Binary64

theorem readingBack_pos {units point : Nat} {exponent : Int} (some : 0 < units)
    (found : readingBack? units exponent = .some point) : 0 < point := by
  have reads : ofDecimal false point exponent = .finite false units := by
    unfold readingBack? at found
    have members := fun n (member : n ∈ (neighbours units exponent).filter fun point =>
      decide (ofDecimal false point exponent = .finite false units)) =>
      of_decide_eq_true (List.mem_filter.mp member).2
    split at found
    · cases found
    · rename_i only
      rw [only] at members
      cases found
      exact members point (by simp)
    · rename_i low high others both
      rw [both] at members
      have either := Option.some.inj found
      split at either <;> subst either
      · exact members _ (by simp)
      · exact members _ (by simp)
  rcases Nat.eq_zero_or_pos point with zero | pos
  · rw [zero] at reads
    simp only [ofDecimal, ↓reduceIte, finite.injEq] at reads
    omega
  · exact pos

theorem shortest_pos {units : Nat} (some : 0 < units) : 0 < (shortest units).1 := by
  have positive : ∀ fuel count leading, 0 < (shortestFrom units leading fuel count).1 := by
    intro fuel
    induction fuel with
    | zero => exact fun _ _ => some
    | succ fuel ih =>
      intro count leading
      simp only [shortestFrom]
      cases found : readingBack? units (leading - count + 1) with
      | none => exact ih (count + 1) leading
      | some point => exact readingBack_pos some found
  exact positive 20 1 (decimalExponent units)

theorem padded_digits (width n : Nat) : Digits (Decimal.padded width n).toList := by
  have text : (Decimal.padded width n).toList =
      List.replicate (width - (Decimal.ofNat n).length) '0' ++ n.repr.toList := by
    simp [Decimal.padded, Decimal.ofNat]
  obtain ⟨d, more, digits, _⟩ := repr_cons n
  constructor
  · rw [text, digits]
    simp
  · intro c member
    rw [text] at member
    rcases List.mem_append.mp member with zero | digit
    · rw [List.eq_of_mem_replicate zero]
      decide
    · exact repr_digits n c digit

/-- The digits of a number without the zeros at its end. -/
theorem significant_digits {n : Nat} (some : 0 < n) (exponent : Int) :
    Digits (significant n exponent).1 ∧ (significant n exponent).1.head? ≠ .some '0' := by
  have digits : (significant n exponent).1 = (Nat.toDigits 10 n).rdropWhile (· = '0') := by
    rw [← Nat.toList_repr]
    rfl
  have head := toDigits_head some
  obtain ⟨d, more, found⟩ := List.exists_cons_of_ne_nil (Nat.toDigits_ne_nil (n := n) (b := 10))
  obtain ⟨zeros, whole⟩ := List.rdropWhile_prefix (· = '0') (l := Nat.toDigits 10 n)
  have notEmpty : (Nat.toDigits 10 n).rdropWhile (· = '0') ≠ [] := by
    intro empty
    have all := List.rdropWhile_eq_nil_iff.mp empty d (by simp [found])
    rw [found] at head
    exact head (congrArg Option.some (of_decide_eq_true all))
  rw [digits]
  refine ⟨⟨notEmpty, fun c member => ?_⟩, ?_⟩
  · have inWhole : c ∈ n.repr.toList := by
      rw [Nat.toList_repr, ← whole]
      exact List.mem_append_left zeros member
    exact repr_digits n c inWhole
  · rwa [← whole, List.head?_append_of_ne_nil _ notEmpty] at head

/-- The digits before the point: as many as the leading exponent asks for, filled up with zeros. -/
theorem whole_digits {digits : List Char} (isDigits : Digits digits) (noZero : digits.head? ≠ some '0') (count : Nat) :
    Digits (digits.take (count + 1) ++ List.replicate (count + 1 - digits.length) '0') ∧
      (digits.take (count + 1) ++ List.replicate (count + 1 - digits.length) '0').head? ≠ some '0' := by
  obtain ⟨d, more, rfl⟩ := List.exists_cons_of_ne_nil isDigits.1
  refine ⟨⟨by simp, fun c member => ?_⟩, by simpa using noZero⟩
  rcases List.mem_append.mp member with inTake | zero
  · exact isDigits.2 c (List.mem_of_mem_take inTake)
  · rw [List.eq_of_mem_replicate zero]
    decide

theorem zeros_digits {digits : List Char} (isDigits : Digits digits) (count : Nat) :
    Digits (List.replicate count '0' ++ digits) := by
  refine ⟨by simp [isDigits.1], fun c member => ?_⟩
  rcases List.mem_append.mp member with zero | digit
  · rw [List.eq_of_mem_replicate zero]
    decide
  · exact isDigits.2 c digit

theorem zero_digit : Digits ['0'] := ⟨List.cons_ne_nil '0' [], fun _ member => List.mem_singleton.mp member ▸ rfl⟩

theorem positional_isNumeral {digits : List Char} (isDigits : Digits digits) (noZero : digits.head? ≠ some '0')
    {leading : Int} (inRange : -4 ≤ leading ∧ leading < 16) : IsNumeral (layout digits leading).toList := by
  unfold layout
  rw [if_pos inRange]
  split
  · exact ⟨['0'], '.' :: (List.replicate (-leading - 1).toNat '0' ++ digits), [], zero_digit, by simp,
      .inr ⟨_, zeros_digits isDigits _, rfl⟩, .inl rfl, by simp⟩
  · obtain ⟨wholeDigits, wholeHead⟩ := whole_digits isDigits noZero leading.toNat
    simp only
    cases fraction : digits.drop (leading.toNat + 1) with
    | nil =>
      exact ⟨_, ['.', '0'], [], wholeDigits, fun _ => wholeHead, .inr ⟨['0'], zero_digit, rfl⟩, .inl rfl, by simp⟩
    | cons c more =>
      have behind : Digits (c :: more) :=
        ⟨by simp, fun digit member => isDigits.2 digit (List.mem_of_mem_drop (fraction ▸ member))⟩
      exact ⟨_, '.' :: c :: more, [], wholeDigits, fun _ => wholeHead, .inr ⟨_, behind, rfl⟩, .inl rfl, by simp⟩

theorem scientific_isNumeral {digits : List Char} (isDigits : Digits digits)
    {leading : Int} (outside : ¬ (-4 ≤ leading ∧ leading < 16)) : IsNumeral (layout digits leading).toList := by
  have exponent : IsExponent ('e' :: (if leading < 0 then '-' else '+') :: (Decimal.padded 2 leading.natAbs).toList) := by
    refine .inr ⟨_, _, ?_, padded_digits 2 leading.natAbs, rfl⟩
    split <;> simp
  unfold layout
  rw [if_neg outside]
  match digits, isDigits with
  | [d], isDigits =>
    refine ⟨[d], [], _, isDigits, by simp, .inl rfl, exponent, ?_⟩
    by_cases sign : leading < 0 <;> simp [sign]
  | d :: e :: rest, isDigits =>
    have single : Digits [d] := ⟨by simp, fun c member => isDigits.2 c (by simp at member; simp [member])⟩
    have behind : Digits (e :: rest) := ⟨by simp, fun c member => isDigits.2 c (List.mem_cons_of_mem d member)⟩
    refine ⟨[d], '.' :: e :: rest, _, single, by simp, .inr ⟨_, behind, rfl⟩, exponent, ?_⟩
    by_cases sign : leading < 0 <;> simp [sign]

theorem layout_isNumeral {digits : List Char} (isDigits : Digits digits) (noZero : digits.head? ≠ some '0')
    (leading : Int) : IsNumeral (layout digits leading).toList := by
  by_cases inRange : -4 ≤ leading ∧ leading < 16
  · exact positional_isNumeral isDigits noZero inRange
  · exact scientific_isNumeral isDigits inRange

theorem text_isNumeral (negative : Bool) (units : Nat) :
    ∃ numeral, IsNumeral numeral ∧
      (Binary64.finite negative units).text.toList = if negative then '-' :: numeral else numeral := by
  have signed : ∀ magnitude : String, (if negative then "-" ++ magnitude else magnitude).toList =
      if negative then '-' :: magnitude.toList else magnitude.toList := by
    intro magnitude
    cases negative <;> simp
  unfold text
  by_cases none : units = 0
  · refine ⟨"0.0".toList, ⟨['0'], ['.', '0'], [], zero_digit, by simp, .inr ⟨['0'], zero_digit, rfl⟩, .inl rfl,
      by decide⟩, ?_⟩
    simp only [if_pos none]
    exact signed "0.0"
  · obtain ⟨isDigits, noZero⟩ := significant_digits (shortest_pos (Nat.pos_of_ne_zero none)) (shortest units).2
    refine ⟨_, layout_isNumeral isDigits noZero (significant (shortest units).1 (shortest units).2).2, ?_⟩
    simp only [if_neg none]
    exact signed _

end Doubles

/-! ## Strings -/

/-- If a text goes on with a code of four digits, these are digits. -/
def Coded (text : List Char) : Prop :=
  ∀ a b c d rest, text = '\\' :: 'u' :: a :: b :: c :: d :: rest → ∃ code, hex4? a b c d = some code

theorem readText_code {a b c d : Char} {code : Nat} (named : hex4? a b c d = some code) (noPair : code < 0xd800)
    {more : List Char} (coded : Coded more) (acc : List Letter) :
    readText acc ('\\' :: 'u' :: a :: b :: c :: d :: more) = readText (letter code :: acc) more := by
  by_cases other : ∃ e f g h rest, more = '\\' :: 'u' :: e :: f :: g :: h :: rest
  · obtain ⟨e, f, g, h, rest, rfl⟩ := other
    obtain ⟨low, isLow⟩ := coded e f g h rest rfl
    have single : isPair code low = false := by simp [isPair]; omega
    rw [readText]
    simp only [named, isLow, single, Bool.false_eq_true, ↓reduceIte]
  · rw [readText]
    · simp only [named]
    · intro e f g h rest same
      exact other ⟨e, f, g, h, rest, same⟩

theorem letter_of_char (c : Char) : letter c.toNat = .char c := by
  have valid : c.toNat.isValidChar := c.valid
  unfold letter Letter.ofCode?
  rw [dif_pos valid]
  rfl

theorem hex_control (n : Nat) (control : n < 0x20) :
    ∃ a b c d, Text.hex 4 n = [a, b, c, d] ∧ hex4? a b c d = some n ∧ '\n' ∉ [a, b, c, d] := by
  refine ⟨_, _, _, _, rfl, ?_⟩
  interval_cases n <;> decide

/-- The ways in which a character is written inside of quotes: as itself, by a letter, or by its code. -/
theorem escaped_cases (c : Char) :
    (escaped c = [c] ∧ isPlain c = true) ∨
    (∃ short, escaped c = ['\\', short] ∧ simpleEscape? short = some c ∧ short ≠ 'u') ∨
    (escaped c = '\\' :: 'u' :: Text.hex 4 c.toNat ∧ c.toNat < 0x20) := by
  unfold escaped
  by_cases quote : c = '"'
  · exact .inr (.inl ⟨'"', by rw [if_pos quote], by rw [quote]; rfl, by decide⟩)
  rw [if_neg quote]
  by_cases escape : c = '\\'
  · exact .inr (.inl ⟨'\\', by rw [if_pos escape], by rw [escape]; rfl, by decide⟩)
  rw [if_neg escape]
  by_cases newline : c = '\n'
  · exact .inr (.inl ⟨'n', by rw [if_pos newline], by rw [newline]; rfl, by decide⟩)
  rw [if_neg newline]
  by_cases back : c = '\r'
  · exact .inr (.inl ⟨'r', by rw [if_pos back], by rw [back]; rfl, by decide⟩)
  rw [if_neg back]
  by_cases tab : c = '\t'
  · exact .inr (.inl ⟨'t', by rw [if_pos tab], by rw [tab]; rfl, by decide⟩)
  rw [if_neg tab]
  by_cases backspace : c = '\x08'
  · exact .inr (.inl ⟨'b', by rw [if_pos backspace], by rw [backspace]; rfl, by decide⟩)
  rw [if_neg backspace]
  by_cases feed : c = '\x0c'
  · exact .inr (.inl ⟨'f', by rw [if_pos feed], by rw [feed]; rfl, by decide⟩)
  rw [if_neg feed]
  by_cases control : c.toNat < 0x20
  · exact .inr (.inr ⟨if_pos control, control⟩)
  · exact .inl ⟨if_neg control, by simp [isPlain, quote, escape]; omega⟩

theorem coded_escaped (c : Char) (more : List Char) : Coded (escaped c ++ more) := by
  intro e f g h rest same
  obtain ⟨itself, plain⟩ | ⟨short, byLetter, _, notCode⟩ | ⟨byCode, control⟩ := escaped_cases c
  · rw [itself] at same
    rw [(List.cons.inj same).1] at plain
    exact absurd plain (by decide)
  · rw [byLetter] at same
    exact absurd (List.cons.inj (List.cons.inj same).2).1 notCode
  · obtain ⟨a, b, c', d, digits, named, _⟩ := hex_control c.toNat control
    rw [byCode, digits] at same
    simp only [List.cons_append, List.nil_append, List.cons.injEq, true_and] at same
    obtain ⟨rfl, rfl, rfl, rfl, _⟩ := same
    exact ⟨_, named⟩

theorem escaped_noNewline (c : Char) : '\n' ∉ escaped c := by
  obtain ⟨itself, plain⟩ | ⟨short, byLetter, means, _⟩ | ⟨byCode, control⟩ := escaped_cases c
  · rw [itself, List.mem_singleton]
    rintro rfl
    exact absurd plain (by decide)
  · rw [byLetter]
    simp only [List.mem_cons, List.not_mem_nil, or_false, not_or]
    refine ⟨by decide, ?_⟩
    rintro rfl
    cases means
  · obtain ⟨_, _, _, _, digits, _, noNewline⟩ := hex_control c.toNat control
    rw [byCode, digits]
    simp only [List.mem_cons, noNewline, or_false, not_or]
    decide

theorem readText_step (c : Char) {more : List Char} (coded : Coded more) (acc : List Letter) :
    readText acc (escaped c ++ more) = readText (.char c :: acc) more := by
  obtain ⟨itself, plain⟩ | ⟨short, byLetter, means, notCode⟩ | ⟨byCode, control⟩ := escaped_cases c
  · rw [itself, List.singleton_append, readText_itself plain]
  · rw [byLetter, List.cons_append, List.singleton_append, readText]
    · rw [means]
    all_goals
      intros
      simp_all
  · obtain ⟨a, b, c', d, digits, named, _⟩ := hex_control c.toNat control
    rw [byCode, digits]
    exact (readText_code named (by omega) coded acc).trans (by rw [letter_of_char])

/-- What is written between quotes is read up to the closing one. -/
theorem readText_escaped (chars : List Char) (acc : List Letter) (rest : List Char) :
    readText acc (chars.flatMap escaped ++ '"' :: rest) = some (⟨acc.reverse ++ chars.map .char⟩, rest) := by
  induction chars generalizing acc with
  | nil => rw [List.flatMap_nil, List.nil_append, readText, List.map_nil, List.append_nil]
  | cons c chars ih =>
    have coded : Coded (chars.flatMap escaped ++ '"' :: rest) := by
      cases chars with
      | nil =>
        intro a b c d rest same
        exact absurd (List.cons.inj same).1 (by decide)
      | cons c chars =>
        rw [List.flatMap_cons, List.append_assoc]
        exact coded_escaped c _
    rw [List.flatMap_cons, List.append_assoc, readText_step c coded, ih]
    simp

theorem quoted_chars (s : Text) :
    charsOf (quoted s).letters = '"' :: ((charsOf s.letters).flatMap escaped ++ ['"']) := by
  have inside : ∀ letters : List Letter,
      charsOf (letters.flatMap escapedLetter) = (charsOf letters).flatMap escaped := by
    intro letters
    induction letters with
    | nil => rfl
    | cons l letters ih =>
      have append : charsOf (escapedLetter l ++ letters.flatMap escapedLetter) =
          charsOf (escapedLetter l) ++ charsOf (letters.flatMap escapedLetter) := List.filterMap_append
      rw [List.flatMap_cons, append, ih]
      cases l with
      | char c => exact congrArg (· ++ _) (charsOf_chars (escaped c))
      | half unit => rfl
  have whole : charsOf (quoted s).letters = '"' :: charsOf (s.letters.flatMap escapedLetter ++ [.char '"']) := rfl
  rw [whole, ← inside]
  exact congrArg _ List.filterMap_append

/-! ## Values -/

/-- Characters on one line that are read as a value, whatever stands behind them. -/
structure Reads (chars : List Char) (v : Value) : Prop where
  start : ∃ c more, chars = c :: more ∧ isBlank c = false ∧ c ≠ ']'
  read : ∀ fuel rest, chars.length ≤ fuel → Stops rest → readValue (fuel + 1) (chars ++ rest) = some (v, rest)
  oneLine : '\n' ∉ chars

theorem readValue_blank {lead : List Char} (blank : ∀ c ∈ lead, isBlank c = true) (fuel : Nat) (text : List Char) :
    readValue fuel (lead ++ text) = readValue fuel text := by
  cases fuel with
  | zero => rfl
  | succ fuel =>
    rw [readValue, readValue]
    rw [List.dropWhile_append_of_pos blank]

theorem blank_before : ∀ c ∈ [' '], isBlank c = true := fun _ member => List.mem_singleton.mp member ▸ rfl

theorem nothing_before : ∀ c ∈ ([] : List Char), isBlank c = true := fun _ member => by cases member

theorem reads_word {chars : List Char} {v : Value} {c : Char} {more : List Char} (word : chars = c :: more)
    (noBlank : isBlank c = false) (noBracket : c ≠ ']') (oneLine : '\n' ∉ chars)
    (read : ∀ fuel rest, readValue (fuel + 1) (chars ++ rest) = some (v, rest)) : Reads chars v :=
  ⟨⟨c, more, word, noBlank, noBracket⟩, fun fuel rest _ _ => read fuel rest, oneLine⟩

theorem reads_null : Reads "null".toList .null :=
  reads_word rfl (by decide) (by decide) (by decide) fun fuel rest => by rw [readValue]; rfl

theorem reads_bool (b : Bool) : Reads (boolText b).toList (.bool b) := by
  cases b with
  | false => exact reads_word rfl (by decide) (by decide) (by decide) fun fuel rest => by rw [readValue]; rfl
  | true => exact reads_word rfl (by decide) (by decide) (by decide) fun fuel rest => by rw [readValue]; rfl

theorem reads_int (n : Int) : Reads (Decimal.ofInt n).toList (.int n) where
  start := by
    obtain ⟨c, more, spelled, start⟩ := ofInt_cons n
    exact ⟨c, more, spelled, number_starts start⟩
  read := fun fuel rest _ stops => readValue_ofInt fuel n stops
  oneLine := ofInt_free n (by decide) (by decide)

theorem reads_text (s : Text) : Reads (charsOf (quoted s).letters) (.text (.ofChars (charsOf s.letters))) where
  start := ⟨'"', _, quoted_chars s, by decide, by decide⟩
  read := by
    intro fuel rest _ _
    rw [quoted_chars, List.cons_append, List.append_assoc, List.singleton_append, readValue]
    rw [skip_none (by decide)]
    simp only
    rw [readText_escaped]
    rfl
  oneLine := by
    rw [quoted_chars]
    simp [escaped_noNewline]

theorem numeral_chars {text : List Char} (isNumeral : IsNumeral text) :
    (∃ c more, text = c :: more ∧ c.isDigit = true) ∧ '\n' ∉ text := by
  obtain ⟨whole, fraction, exponent, ⟨notEmpty, all⟩, _, isFraction, isExponent, rfl⟩ := isNumeral
  have free : ∀ digits, Digits digits → '\n' ∉ digits := fun _ isDigits member => absurd (isDigits.2 _ member) (by decide)
  refine ⟨?_, ?_⟩
  · obtain ⟨c, more, rfl⟩ := List.exists_cons_of_ne_nil notEmpty
    exact ⟨c, _, rfl, all c (by simp)⟩
  · simp only [List.mem_append, not_or]
    refine ⟨free whole ⟨notEmpty, all⟩, ?_, ?_⟩
    · obtain rfl | ⟨digits, isDigits, rfl⟩ := isFraction
      · simp
      · simp [free digits isDigits]
    · obtain rfl | ⟨sign, digits, rfl | rfl, isDigits, rfl⟩ := isExponent
      · simp
      · simp [free digits isDigits]
      · simp [free digits isDigits]

theorem reads_numeral {text : List Char} (isNumeral : IsNumeral text) (negative : Bool) :
    ∃ v, Reads (if negative then '-' :: text else text) v := by
  obtain ⟨v, read⟩ := readNumber_of_numeral isNumeral negative
  obtain ⟨⟨c, more, rfl, digit⟩, oneLine⟩ := numeral_chars isNumeral
  obtain ⟨noBlank, noBracket⟩ := number_starts (.inl digit)
  refine ⟨v, ?_⟩
  cases negative with
  | false =>
    refine ⟨⟨c, more, rfl, noBlank, noBracket⟩, fun fuel rest _ stops => ?_, oneLine⟩
    exact (readValue_digit digit fuel (more ++ rest)).1.trans (read rest stops)
  | true =>
    refine ⟨⟨'-', c :: more, rfl, by decide, by decide⟩, fun fuel rest _ stops => ?_, by simp [oneLine]⟩
    exact (readValue_digit digit fuel (more ++ rest)).2.trans (read rest stops)

theorem reads_float (x : Binary64) : ∃ v, Reads (floatText x).toList v := by
  cases x with
  | nan =>
    exact ⟨_, reads_word rfl (by decide) (by decide) (by decide) fun fuel rest => by rw [readValue]; rfl⟩
  | infinite negative =>
    cases negative with
    | false =>
      exact ⟨_, reads_word rfl (by decide) (by decide) (by decide) fun fuel rest => by rw [readValue]; rfl⟩
    | true =>
      exact ⟨_, reads_word rfl (by decide) (by decide) (by decide) fun fuel rest => by rw [readValue]; rfl⟩
  | finite negative units =>
    obtain ⟨numeral, isNumeral, text⟩ := text_isNumeral negative units
    rw [floatText, text]
    · exact reads_numeral isNumeral negative
    all_goals
      intros
      simp_all

/-! ## Lists and mappings -/

theorem charsOf_append (s t : List Letter) : charsOf (s ++ t) = charsOf s ++ charsOf t := List.filterMap_append

theorem glued_chars (p q : Text) (rest : List Text) :
    charsOf (Text.glued ", " (p :: q :: rest)).letters =
      charsOf p.letters ++ ',' :: ' ' :: charsOf (Text.glued ", " (q :: rest)).letters := by
  have letters : (Text.glued ", " (p :: q :: rest)).letters =
      p.letters ++ .char ',' :: .char ' ' :: (Text.glued ", " (q :: rest)).letters := rfl
  rw [letters, charsOf_append]
  rfl

theorem enclosed_chars (left right : Char) (parts : List Text) :
    charsOf (enclosed left right parts).letters = left :: (charsOf (Text.glued ", " parts).letters ++ [right]) := by
  have letters : (enclosed left right parts).letters =
      .char left :: ((Text.glued ", " parts).letters ++ [.char right]) := rfl
  have inside := charsOf_append (Text.glued ", " parts).letters [.char right]
  rw [letters]
  exact congrArg (left :: ·) inside

/-- The texts of parts are read as values, each as its own. -/
abbrev ReadsAll (parts : List Text) (values : List Value) : Prop :=
  List.Forall₂ (fun part v => Reads (charsOf part.letters) v) parts values

/-- The text of an entry is a key in quotes, a colon and the text of a value. -/
def ReadsEntry (chars : List Char) (entry : Text × Value) : Prop :=
  ∃ key value, chars = '"' :: (key.flatMap escaped ++ '"' :: ':' :: ' ' :: value) ∧ entry.1 = .ofChars key ∧
    Reads value entry.2

theorem entry_oneLine {chars : List Char} {entry : Text × Value} (reads : ReadsEntry chars entry) : '\n' ∉ chars := by
  obtain ⟨key, value, rfl, _, read⟩ := reads
  simp [escaped_noNewline, read.oneLine]

abbrev ReadsEntries (parts : List Text) (entries : List (Text × Value)) : Prop :=
  List.Forall₂ (fun part entry => ReadsEntry (charsOf part.letters) entry) parts entries

theorem readItems_item {fuel : Nat} {lead chars rest : List Char} {v : Value} (blank : ∀ c ∈ lead, isBlank c = true)
    (reads : Reads chars v) (enough : chars.length < fuel) (items : List Value) (stops : Stops rest) :
    readItems (fuel + 1) items (lead ++ (chars ++ rest)) =
      match rest.dropWhile isBlank with
      | ',' :: more => readItems fuel (v :: items) more
      | ']' :: more => some (.list (v :: items).reverse, more)
      | _ => none := by
  obtain ⟨fuel, rfl⟩ : ∃ less, fuel = less + 1 := ⟨fuel - 1, by omega⟩
  rewrite [readItems, readValue_blank blank, reads.read fuel rest (by omega) stops]
  rfl

/-- The items of a list are read up to its closing bracket. -/
theorem readItems_parts {part : Text} {parts : List Text} {v : Value} {values : List Value}
    (first : Reads (charsOf part.letters) v) (others : ReadsAll parts values) {fuel : Nat}
    (enough : (charsOf (Text.glued ", " (part :: parts)).letters).length + 2 ≤ fuel) {lead : List Char}
    (blank : ∀ c ∈ lead, isBlank c = true) (items : List Value) (rest : List Char) :
    readItems fuel items (lead ++ (charsOf (Text.glued ", " (part :: parts)).letters ++ ']' :: rest)) =
      some (.list (items.reverse ++ v :: values), rest) := by
  induction others generalizing part v fuel lead items with
  | nil =>
    obtain ⟨fuel, rfl⟩ : ∃ less, fuel = less + 1 := ⟨fuel - 1, by omega⟩
    have single : Text.glued ", " [part] = part := rfl
    rw [single] at enough ⊢
    rw [readItems_item blank first (by omega) items (stops_bracket rest), skip_none (by decide), List.reverse_cons]
    rfl
  | @cons next w parts values second others ih =>
    obtain ⟨fuel, rfl⟩ : ∃ less, fuel = less + 1 := ⟨fuel - 1, by omega⟩
    rw [glued_chars] at enough ⊢
    simp only [List.length_append, List.length_cons] at enough
    rw [List.append_assoc, List.cons_append, readItems_item blank first (by omega) items (stops_comma _),
      skip_none (by decide)]
    exact (ih second (by omega : _ ≤ fuel) blank_before (v :: items)).trans (by simp)

theorem readEntries_item {fuel : Nat} {lead chars rest : List Char} {entry : Text × Value}
    (blank : ∀ c ∈ lead, isBlank c = true) (reads : ReadsEntry chars entry) (enough : chars.length ≤ fuel)
    (entries : List (Value × Value)) (stops : Stops rest) :
    readEntries (fuel + 1) entries (lead ++ (chars ++ rest)) =
      match rest.dropWhile isBlank with
      | ',' :: more => readEntries fuel (Value.insert (.text entry.1) entry.2 entries) more
      | '\x7d' :: more => some (.map (Value.insert (.text entry.1) entry.2 entries), more)
      | _ => none := by
  obtain ⟨key, value, rfl, named, read⟩ := reads
  simp only [List.length_cons, List.length_append] at enough
  obtain ⟨fuel, rfl⟩ : ∃ less, fuel = less + 1 := ⟨fuel - 1, by omega⟩
  rw [readEntries, List.dropWhile_append_of_pos blank, List.cons_append, skip_none (by decide)]
  simp only
  rw [List.append_assoc, List.cons_append, readText_escaped]
  simp only
  rw [List.cons_append, skip_none (by decide)]
  simp only
  rw [List.cons_append]
  have behind := readValue_blank blank_before (fuel + 1) (value ++ rest)
  rw [List.singleton_append, read.read fuel rest (by omega) stops] at behind
  rw [behind, named]
  rfl

/-- The entries that a mapping gets one after the other. -/
def inserted (entries : List (Value × Value)) (more : List (Text × Value)) : List (Value × Value) :=
  more.foldl (fun entries entry => Value.insert (.text entry.1) entry.2 entries) entries

/-- The entries of a mapping are read up to its closing brace. -/
theorem readEntries_parts {part : Text} {parts : List Text} {entry : Text × Value} {entries : List (Text × Value)}
    (first : ReadsEntry (charsOf part.letters) entry) (others : ReadsEntries parts entries) {fuel : Nat}
    (enough : (charsOf (Text.glued ", " (part :: parts)).letters).length < fuel) {lead : List Char}
    (blank : ∀ c ∈ lead, isBlank c = true) (before : List (Value × Value)) (rest : List Char) :
    readEntries fuel before (lead ++ (charsOf (Text.glued ", " (part :: parts)).letters ++ '\x7d' :: rest)) =
      some (.map (inserted before (entry :: entries)), rest) := by
  induction others generalizing part entry fuel lead before with
  | nil =>
    obtain ⟨fuel, rfl⟩ : ∃ less, fuel = less + 1 := ⟨fuel - 1, by omega⟩
    have single : Text.glued ", " [part] = part := rfl
    rw [single] at enough ⊢
    rw [readEntries_item blank first (by omega) before (stops_cons (by decide) rest), skip_none (by decide)]
    rfl
  | @cons next other parts entries second others ih =>
    obtain ⟨fuel, rfl⟩ : ∃ less, fuel = less + 1 := ⟨fuel - 1, by omega⟩
    rw [glued_chars] at enough ⊢
    simp only [List.length_append, List.length_cons] at enough
    rw [List.append_assoc, List.cons_append, readEntries_item blank first (by omega) before (stops_comma _),
      skip_none (by decide)]
    exact ih second (by omega : _ < fuel) blank_before (Value.insert (.text entry.1) entry.2 before)

theorem glued_noNewline {parts : List Text} (each : ∀ part ∈ parts, '\n' ∉ charsOf part.letters) :
    '\n' ∉ charsOf (Text.glued ", " parts).letters := by
  induction parts with
  | nil => exact List.not_mem_nil
  | cons p parts ih =>
    have later := ih fun part member => each part (by simp [member])
    cases parts with
    | nil => exact each p (by simp)
    | cons q parts =>
      rw [glued_chars]
      simp only [List.mem_append, List.mem_cons, each p (by simp), later, or_false, false_or, not_or]
      decide

theorem reads_list {parts : List Text} {values : List Value} (each : ReadsAll parts values) :
    Reads (charsOf (enclosed '[' ']' parts).letters) (.list values) where
  start := ⟨'[', _, enclosed_chars '[' ']' parts, by decide, by decide⟩
  read := by
    intro fuel rest enough _
    rw [enclosed_chars] at enough ⊢
    cases each with
    | nil =>
      rw [readValue]
      rfl
    | @cons part v parts values first others =>
      obtain ⟨c, more, starts, noBlank, noBracket⟩ := first.start
      have head : ∃ more, charsOf (Text.glued ", " (part :: parts)).letters = c :: more := by
        cases parts with
        | nil => exact ⟨more, starts⟩
        | cons q parts => exact ⟨_, by rw [glued_chars, starts, List.cons_append]⟩
      obtain ⟨behind, glued⟩ := head
      simp only [List.length_cons, List.length_append, List.length_nil] at enough
      have read := readItems_parts first others (by omega) nothing_before [] rest
      rw [glued] at read
      rw [glued, List.cons_append, List.append_assoc, List.cons_append, readValue_bracket noBlank noBracket]
      exact read
  oneLine := by
    rw [enclosed_chars]
    have oneLine := ((List.forall₂_and_left parts values).mp (each.imp fun _ _ reads => ⟨reads.oneLine, reads⟩)).1
    simp [glued_noNewline oneLine]

theorem reads_map {parts : List Text} {entries : List (Text × Value)} (each : ReadsEntries parts entries) :
    Reads (charsOf (enclosed '\x7b' '\x7d' parts).letters) (.map (inserted [] entries)) where
  start := ⟨'\x7b', _, enclosed_chars '\x7b' '\x7d' parts, by decide, by decide⟩
  read := by
    intro fuel rest enough _
    rw [enclosed_chars] at enough ⊢
    cases each with
    | nil =>
      rw [readValue]
      rfl
    | @cons part entry parts entries first others =>
      have head : ∃ more, charsOf (Text.glued ", " (part :: parts)).letters = '"' :: more := by
        obtain ⟨key, value, starts, _⟩ := first
        cases parts with
        | nil => exact ⟨_, starts⟩
        | cons q parts => exact ⟨_, by rw [glued_chars, starts, List.cons_append]⟩
      obtain ⟨behind, glued⟩ := head
      simp only [List.length_cons, List.length_append] at enough
      have read := readEntries_parts first others (by omega : _ < fuel) nothing_before [] rest
      rw [glued] at read
      rw [glued, List.cons_append, List.append_assoc, List.cons_append, readValue_brace]
      exact read
  oneLine := by
    rw [enclosed_chars]
    have oneLine :=
      ((List.forall₂_and_left parts entries).mp (each.imp fun _ _ reads => ⟨entry_oneLine reads, reads⟩)).1
    simp [glued_noNewline oneLine]

/-! ## Whatever has a text -/

theorem ofString_chars (s : String) : charsOf (Text.ofString s).letters = s.toList := charsOf_chars s.toList

theorem entry_chars (key : Text) (value : Text) :
    charsOf (quoted key ++ (Text.ofString ": " ++ value)).letters =
      '"' :: ((charsOf key.letters).flatMap escaped ++ '"' :: ':' :: ' ' :: charsOf value.letters) := by
  have letters : (quoted key ++ (Text.ofString ": " ++ value)).letters =
      (quoted key).letters ++ (.char ':' :: .char ' ' :: value.letters) := rfl
  rw [letters, charsOf_append, quoted_chars, List.cons_append, List.append_assoc]
  rfl

theorem reads_intText {n : Int} {t : Text} (printed : (intText n).map Text.ofString = .ok t) :
    Reads (charsOf t.letters) (.int n) := by
  unfold intText at printed
  split at printed
  · cases printed
    rw [ofString_chars]
    exact reads_int n
  · cases printed

/-- A number that has a text has not too many digits. -/
theorem writable_of_intText {n : Int} {t : Text} (printed : (intText n).map Text.ofString = .ok t) :
    Decimal.isWritable n = true := by
  cases writable : Decimal.isWritable n with
  | true => rfl
  | false =>
    rw [intText, writable, if_neg Bool.false_ne_true] at printed
    cases printed

/-! ## Printed values -/

section Printed
variable {room : Nat} {t : Text} {parts : List Text}

theorem mapped_ok {ε α β : Type} {f : α → β} {result : Except ε α} {b : β} :
    result.map f = .ok b ↔ ∃ a, result = .ok a ∧ b = f a := by
  cases result <;> simp [Except.map, eq_comm]

/-- A list is printed if there is room for it and its items are. -/
theorem printed_list {items : List Value} : printWithin room (.list items) = .ok t ↔
    ∃ below parts, room = below + 1 ∧ printItems below items = .ok parts ∧ t = enclosed '[' ']' parts := by
  cases room <;> simp [printWithin, mapped_ok]

/-- A pair is printed like a list. -/
theorem printed_pair {a b : Value} : printWithin room (.pair a b) = .ok t ↔
    ∃ below first second, room = below + 1 ∧ printWithin below a = .ok first ∧ printWithin below b = .ok second ∧
      t = enclosed '[' ']' [first, second] := by
  cases room with
  | zero => simp [printWithin]
  | succ below => cases first : printWithin below a <;> simp [printWithin, first, mapped_ok]

/-- A mapping is printed if there is room for it and its entries are. -/
theorem printed_map {entries : List (Value × Value)} : printWithin room (.map entries) = .ok t ↔
    ∃ below parts, room = below + 1 ∧ printEntries below entries = .ok parts ∧ t = enclosed '\x7b' '\x7d' parts := by
  cases room <;> simp [printWithin, mapped_ok]

theorem printed_item {x : Value} {xs : List Value} : printItems room (x :: xs) = .ok parts ↔
    ∃ first others, printWithin room x = .ok first ∧ printItems room xs = .ok others ∧ parts = first :: others := by
  cases first : printWithin room x <;> simp [printItems, first, mapped_ok]

theorem printed_entry {k v : Value} {rest : List (Value × Value)} : printEntries room ((k, v) :: rest) = .ok parts ↔
    ∃ key value others, keyText k = .ok key ∧ printWithin room v = .ok value ∧ printEntries room rest = .ok others ∧
      parts = (quoted key ++ (Text.ofString ": " ++ value)) :: others := by
  cases named : keyText k with
  | error _ => simp [printEntries, named]
  | ok key => cases value : printWithin room v <;> simp [printEntries, named, value, mapped_ok]

end Printed

mutual

/-- A value that has a JSON text can be read from it. -/
theorem reads_printed (room : Nat) : ∀ (v : Value) (t : Text), printWithin room v = .ok t →
    ∃ read, Reads (charsOf t.letters) read
  | .null => by
    intro t printed
    cases printed
    exact ⟨_, reads_null⟩
  | .bool b => by
    intro t printed
    cases printed
    rw [ofString_chars]
    exact ⟨_, reads_bool b⟩
  | .int n => by
    intro t printed
    exact ⟨_, reads_intText printed⟩
  | .float x => by
    intro t printed
    cases printed
    rw [ofString_chars]
    exact reads_float x
  | .text s => by
    intro t printed
    cases printed
    exact ⟨_, reads_text s⟩
  | .list items => by
    intro t printed
    obtain ⟨below, parts, rfl, inside, rfl⟩ := printed_list.mp printed
    obtain ⟨values, each⟩ := reads_printedItems below items parts inside
    exact ⟨_, reads_list each⟩
  | .pair a b => by
    intro t printed
    obtain ⟨below, left, right, rfl, first, second, rfl⟩ := printed_pair.mp printed
    obtain ⟨x, readsLeft⟩ := reads_printed below a left first
    obtain ⟨y, readsRight⟩ := reads_printed below b right second
    exact ⟨_, reads_list (.cons readsLeft (.cons readsRight .nil))⟩
  | .map entries => by
    intro t printed
    obtain ⟨below, parts, rfl, inside, rfl⟩ := printed_map.mp printed
    obtain ⟨read, each⟩ := reads_printedEntries below entries parts inside
    exact ⟨_, reads_map each⟩
  | .bytes _ | .set _ | .date _ | .moment _ | .listAgain | .mapAgain => by
    intro t printed
    cases printed

theorem reads_printedItems (room : Nat) : ∀ (items : List Value) (parts : List Text),
    printItems room items = .ok parts → ∃ values, ReadsAll parts values
  | [] => by
    intro parts printed
    cases printed
    exact ⟨[], .nil⟩
  | x :: xs => by
    intro parts printed
    obtain ⟨part, others, first, later, rfl⟩ := printed_item.mp printed
    obtain ⟨v, reads⟩ := reads_printed room x part first
    obtain ⟨values, each⟩ := reads_printedItems room xs others later
    exact ⟨v :: values, .cons reads each⟩

theorem reads_printedEntries (room : Nat) : ∀ (entries : List (Value × Value)) (parts : List Text),
    printEntries room entries = .ok parts → ∃ read, ReadsEntries parts read
  | [] => by
    intro parts printed
    cases printed
    exact ⟨[], .nil⟩
  | (k, v) :: rest => by
    intro parts printed
    obtain ⟨key, value, others, _, first, later, rfl⟩ := printed_entry.mp printed
    obtain ⟨w, reads⟩ := reads_printed room v value first
    obtain ⟨read, each⟩ := reads_printedEntries room rest others later
    exact ⟨(.ofChars (charsOf key.letters), w) :: read,
      .cons ⟨charsOf key.letters, charsOf value.letters, entry_chars key value, rfl, reads⟩ each⟩

end

end TapeSheet.ValueReading
