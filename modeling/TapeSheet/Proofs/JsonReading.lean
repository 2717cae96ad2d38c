import TapeSheet.Proofs.Names
import TapeSheet.Json.Reader
import Mathlib.Data.List.TakeDrop
import Mathlib.Tactic.IntervalCases

/-!
# Reading JSON texts

What the reader makes of decimal texts, of plain strings and of lists of whole numbers, each with any text behind it
that does not go on with a number.
-/

namespace TapeSheet.JsonReading
open TapeSheet.Names TapeSheet.Json

/-! ## Numbers -/

theorem isDigit_eq (c : Char) : ('0' ≤ c && c ≤ '9') = c.isDigit := by
  rw [Bool.eq_iff_iff]
  simp [Char.isDigit, Char.le_def]

theorem digit_mem {c : Char} (digit : c.isDigit = true) : c ∈ ['0', '1', '2', '3', '4', '5', '6', '7', '8', '9'] := by
  have bounds : 48 ≤ c.toNat ∧ c.toNat ≤ 57 := by
    simp only [Char.isDigit, Bool.and_eq_true, decide_eq_true_eq, ge_iff_le, UInt32.le_iff_toNat_le] at digit
    exact digit
  obtain ⟨low, high⟩ := bounds
  rw [← Char.ofNat_toNat c]
  interval_cases c.toNat <;> decide

/-- A text does not go on with the digits, the fraction or the exponent of a number. -/
def Stops (rest : List Char) : Prop := ∀ c, rest.head? = some c → c.isDigit = false ∧ c ≠ '.' ∧ c ≠ 'e' ∧ c ≠ 'E'

theorem stops_cons {c : Char} (stop : c.isDigit = false ∧ c ≠ '.' ∧ c ≠ 'e' ∧ c ≠ 'E') (rest : List Char) :
    Stops (c :: rest) := by
  intro d head
  rw [← Option.some.inj head]
  exact stop

theorem readDigits_append {digits rest : List Char} (all : ∀ c ∈ digits, c.isDigit = true)
    (noDigit : ∀ c, rest.head? = some c → c.isDigit = false) : readDigits (digits ++ rest) = (digits, rest) := by
  have none : rest.takeWhile Char.isDigit = [] ∧ rest.dropWhile Char.isDigit = rest := by
    cases rest with
    | nil => exact ⟨rfl, rfl⟩
    | cons c rest => simp [noDigit c rfl]
  rw [readDigits]
  simp only [isDigit_eq]
  rw [List.span_eq_takeWhile_dropWhile, List.takeWhile_append_of_pos all, List.dropWhile_append_of_pos all, none.1,
    none.2, List.append_nil]

theorem digitsValue_toDigits (n : Nat) : Binary64.digitsValue (Nat.toDigits 10 n) = n := by
  have value := @Nat.ofDigitChars_ten_toDigits n
  rw [Nat.ofDigitChars_eq_foldl] at value
  simpa only [Binary64.digitsValue, Nat.mul_comm] using value

theorem digitChar_ne_zero {d : Nat} (some : 0 < d) (digit : d < 10) : d.digitChar ≠ '0' := by
  interval_cases d <;> decide

theorem toDigits_head {n : Nat} (some : 0 < n) : (Nat.toDigits 10 n).head? ≠ .some '0' := by
  induction n using Nat.strongRecOn with
  | ind n ih =>
    by_cases single : n < 10
    · rw [Nat.toDigits_of_lt_base single]
      intro head
      exact digitChar_ne_zero some single (Option.some.inj head)
    · rw [Nat.toDigits_of_base_le (by decide) (by omega), List.head?_append_of_ne_nil _ Nat.toDigits_ne_nil]
      exact ih (n / 10) (by omega) (by omega)

theorem readExponent_stops {rest : List Char} (stops : Stops rest) : readExponent rest = some (none, rest) := by
  cases rest with
  | nil => rfl
  | cons c rest =>
    obtain ⟨_, _, small, capital⟩ := stops c rfl
    simp [readExponent, small, capital]

theorem readNumber_repr (negative : Bool) (n : Nat) {rest : List Char} (stops : Stops rest) :
    readNumber negative (n.repr.toList ++ rest) = some (.int (if negative then -(n : Int) else n), rest) := by
  have digits : readDigits (n.repr.toList ++ rest) = (Nat.toDigits 10 n, rest) := by
    rw [readDigits_append (repr_digits n) fun c head => (stops c head).1, Nat.toList_repr]
  have noZeros : ¬ ((Nat.toDigits 10 n).length > 1 ∧ (Nat.toDigits 10 n).head? = some '0') := by
    rintro ⟨long, zero⟩
    by_cases some : 0 < n
    · exact toDigits_head some zero
    · obtain rfl : n = 0 := by omega
      exact absurd long (by decide)
  unfold readNumber
  rw [digits]
  match found : Nat.toDigits 10 n with
  | [] => exact absurd found Nat.toDigits_ne_nil
  | d :: more =>
    rw [found] at noZeros
    have value := digitsValue_toDigits n
    rw [found] at value
    simp only [if_neg noZeros, value]
    cases rest with
    | nil => rfl
    | cons c rest => simp [(stops c rfl).2.1, readExponent_stops stops]

/-- A digit starts a number, also behind a minus sign. -/
theorem readValue_digit {c : Char} (digit : c.isDigit = true) (fuel : Nat) (rest : List Char) :
    readValue (fuel + 1) (c :: rest) = readNumber false (c :: rest) ∧
    readValue (fuel + 1) ('-' :: c :: rest) = readNumber true (c :: rest) := by
  have digits := digit_mem digit
  simp only [List.mem_cons, List.not_mem_nil, or_false] at digits
  rw [readValue, readValue]
  rcases digits with rfl | rfl | rfl | rfl | rfl | rfl | rfl | rfl | rfl | rfl <;> exact ⟨rfl, rfl⟩

theorem readValue_ofInt (fuel : Nat) (n : Int) {rest : List Char} (stops : Stops rest) :
    readValue (fuel + 1) ((Decimal.ofInt n).toList ++ rest) = some (.int n, rest) := by
  cases n with
  | ofNat n =>
    obtain ⟨c, more, digits, digit⟩ := repr_cons n
    have number := readNumber_repr false n stops
    rw [digits, List.cons_append] at number
    rw [Decimal.ofInt, digits, List.cons_append, (readValue_digit digit fuel _).1, number]
    rfl
  | negSucc n =>
    obtain ⟨c, more, digits, digit⟩ := repr_cons (n + 1)
    have sign : "-".toList = ['-'] := by decide
    have number := readNumber_repr true (n + 1) stops
    rw [digits, List.cons_append] at number
    rw [Decimal.ofInt, String.toList_append, sign, digits, List.append_assoc, List.singleton_append, List.cons_append,
      (readValue_digit digit fuel _).2, number]
    rfl

/-! ## Strings -/

/-- A character that stands for itself inside of quotes. -/
def isPlain (c : Char) : Bool := c ≠ '"' && c ≠ '\\' && 0x20 ≤ c.toNat

/-- A plain character is read as itself. -/
theorem readText_itself {c : Char} (plain : isPlain c = true) (acc : List Letter) (rest : List Char) :
    readText acc (c :: rest) = readText (.char c :: acc) rest := by
  simp only [isPlain, Bool.and_eq_true, decide_eq_true_eq] at plain
  obtain ⟨⟨noQuote, noEscape⟩, printed⟩ := plain
  rw [readText]
  · rw [if_neg (by simp [noEscape]; omega)]
  all_goals
    intros
    simp_all

theorem readText_plain {chars : List Char} (plain : ∀ c ∈ chars, isPlain c = true) (acc : List Letter)
    (rest : List Char) :
    readText acc (chars ++ '"' :: rest) = some (⟨acc.reverse ++ chars.map .char⟩, rest) := by
  induction chars generalizing acc with
  | nil =>
    rw [List.nil_append, readText, List.map_nil, List.append_nil]
  | cons c chars ih =>
    rw [List.cons_append, readText_itself (plain c (by simp)), ih (fun d member => plain d (by simp [member]))]
    simp

/-! ## Lists of whole numbers -/

theorem joined_cons (n m : Int) (numbers : List Int) :
    (Text.joined "," ((n :: m :: numbers).map Decimal.ofInt)).toList =
      (Decimal.ofInt n).toList ++ ',' :: (Text.joined "," ((m :: numbers).map Decimal.ofInt)).toList := by
  have comma : ",".toList = [','] := by decide
  simp only [List.map_cons, Text.joined, String.toList_append, comma, List.append_assoc, List.singleton_append]

theorem joined_head (n : Int) (numbers : List Int) :
    ∃ c more, (Text.joined "," ((n :: numbers).map Decimal.ofInt)).toList = c :: more ∧
      (c.isDigit = true ∨ c = '-') := by
  obtain ⟨c, more, spelled, start⟩ := ofInt_cons n
  cases numbers with
  | nil => exact ⟨c, more, spelled, start⟩
  | cons m numbers => exact ⟨c, _, by rw [joined_cons, spelled, List.cons_append], start⟩

theorem skip_none {c : Char} (noBlank : isBlank c = false) (rest : List Char) :
    (c :: rest).dropWhile isBlank = c :: rest := List.dropWhile_cons_of_neg (by simp [noBlank])

/-- A list starts with its first item unless it ends at once. -/
theorem readValue_bracket {c : Char} (noBlank : isBlank c = false) (noBracket : c ≠ ']') (fuel : Nat)
    (rest : List Char) : readValue (fuel + 1) ('[' :: c :: rest) = readItems fuel [] (c :: rest) := by
  rw [readValue, skip_none (by decide)]
  simp only
  rw [skip_none noBlank]
  split
  · exact absurd (List.cons.inj ‹_›).1 noBracket
  · rfl

theorem number_starts {c : Char} (start : c.isDigit = true ∨ c = '-') : isBlank c = false ∧ c ≠ ']' := by
  rcases start with digit | rfl
  · have digits := digit_mem digit
    simp only [List.mem_cons, List.not_mem_nil, or_false] at digits
    rcases digits with rfl | rfl | rfl | rfl | rfl | rfl | rfl | rfl | rfl | rfl <;> decide
  · decide

theorem stops_comma (rest : List Char) : Stops (',' :: rest) := stops_cons (by decide) rest

theorem stops_bracket (rest : List Char) : Stops (']' :: rest) := stops_cons (by decide) rest

/-- The items of a list of whole numbers are read up to its closing bracket, if there is a step for each. -/
theorem readItems_ints (n : Int) (numbers : List Int) {fuel : Nat} (enough : numbers.length + 2 ≤ fuel)
    (items : List Value) (rest : List Char) :
    readItems fuel items ((Text.joined "," ((n :: numbers).map Decimal.ofInt)).toList ++ ']' :: rest) =
      some (.list (items.reverse ++ (n :: numbers).map .int), rest) := by
  -- The first number stands apart, since what follows it depends on whether there is another one.
  induction numbers generalizing n fuel items with
  | nil =>
    obtain ⟨fuel, rfl⟩ : ∃ less, fuel = less + 2 := ⟨fuel - 2, by simp at enough; omega⟩
    simp only [List.map_cons, List.map_nil, Text.joined]
    rw [readItems, readValue_ofInt fuel n (stops_bracket rest)]
    simp only
    rw [skip_none (by decide), List.reverse_cons]
    rfl
  | cons m numbers ih =>
    obtain ⟨fuel, rfl⟩ : ∃ less, fuel = less + 2 := ⟨fuel - 2, by omega⟩
    rw [joined_cons, List.append_assoc, List.cons_append, readItems, readValue_ofInt fuel n (stops_comma _)]
    simp only
    rw [skip_none (by decide)]
    simp only
    rw [ih m (by simp at enough; omega) (.int n :: items)]
    simp

theorem readValue_listText (numbers : List Int) {fuel : Nat} (enough : numbers.length + 2 ≤ fuel) (rest : List Char) :
    readValue fuel ((SheetRule.listText numbers).toList ++ rest) = some (.list (numbers.map .int), rest) := by
  obtain ⟨fuel, rfl⟩ : ∃ less, fuel = less + 1 := ⟨fuel - 1, by omega⟩
  have left : "[".toList = ['['] := by decide
  have right : "]".toList = [']'] := by decide
  have spelled : (SheetRule.listText numbers).toList ++ rest =
      '[' :: ((Text.joined "," (numbers.map Decimal.ofInt)).toList ++ ']' :: rest) := by
    simp only [SheetRule.listText, String.toList_append, left, right, List.append_assoc, List.cons_append,
      List.nil_append]
  rw [spelled]
  cases numbers with
  | nil =>
    rw [readValue]
    rfl
  | cons n numbers =>
    have items := readItems_ints n numbers (by simp at enough; omega : numbers.length + 2 ≤ fuel) [] rest
    obtain ⟨c, more, text, start⟩ := joined_head n numbers
    obtain ⟨noBlank, noBracket⟩ := number_starts start
    rw [text, List.cons_append] at items
    rw [text, List.cons_append, readValue_bracket noBlank noBracket, items]
    rfl

theorem length_le_listText (numbers : List Int) : numbers.length ≤ (SheetRule.listText numbers).toList.length := by
  have items : numbers.length ≤ (Text.joined "," (numbers.map Decimal.ofInt)).toList.length := by
    induction numbers with
    | nil => exact Nat.zero_le _
    | cons n numbers ih =>
      cases numbers with
      | nil =>
        obtain ⟨c, more, spelled, _⟩ := ofInt_cons n
        simp [Text.joined, spelled]
      | cons m numbers =>
        rw [joined_cons]
        simp only [List.length_cons, List.length_append] at ih ⊢
        omega
  rw [SheetRule.listText, String.toList_append, String.toList_append]
  simp only [List.length_append]
  omega

/-! ## Mappings -/

theorem same_text (s t : Text) : Value.same (.text s) (.text t) = decide (s = t) := by
  rw [Value.same]
  rfl

theorem lookup_text (key other : Text) (value : Value) (rest : List (Value × Value)) :
    Value.lookup (.text key) ((.text other, value) :: rest) =
      if key = other then some value else Value.lookup (.text key) rest := by
  by_cases same : key = other
  · simp [Value.lookup, same_text, same]
  · simp [Value.lookup, same_text, same]

theorem insert_nil (key value : Value) : Value.insert key value [] = [(key, value)] := rfl

theorem insert_text (key other : Text) (value old : Value) (rest : List (Value × Value)) :
    Value.insert (.text key) value ((.text other, old) :: rest) =
      if other = key then (.text other, value) :: rest
      else (.text other, old) :: Value.insert (.text key) value rest := by
  rw [Value.insert, same_text]
  simp only [decide_eq_true_eq]

theorem readValue_brace (fuel : Nat) (rest : List Char) :
    readValue (fuel + 1) ('\x7b' :: '"' :: rest) = readEntries fuel [] ('"' :: rest) := by
  rw [readValue]
  rfl

theorem readEntries_entry {fuel : Nat} {key text rest : List Char} {value : Value}
    (plain : ∀ c ∈ key, isPlain c = true) (read : readValue fuel text = some (value, rest))
    (entries : List (Value × Value)) :
    readEntries (fuel + 1) entries ('"' :: (key ++ '"' :: ':' :: text)) =
      match rest.dropWhile isBlank with
      | ',' :: more => readEntries fuel (Value.insert (.text (.ofChars key)) value entries) more
      | '\x7d' :: more => some (.map (Value.insert (.text (.ofChars key)) value entries), more)
      | _ => none := by
  rw [readEntries, skip_none (by decide)]
  simp only
  rw [readText_plain plain]
  simp only
  rw [skip_none (by decide)]
  simp only
  rw [read]
  rfl

theorem readEntries_more {fuel : Nat} {key text more : List Char} {value : Value}
    (plain : ∀ c ∈ key, isPlain c = true) (read : readValue fuel text = some (value, ',' :: more))
    (entries : List (Value × Value)) :
    readEntries (fuel + 1) entries ('"' :: (key ++ '"' :: ':' :: text)) =
      readEntries fuel (Value.insert (.text (.ofChars key)) value entries) more := by
  rw [readEntries_entry plain read, skip_none (by decide)]
  rfl

theorem readEntries_last {fuel : Nat} {key text more : List Char} {value : Value}
    (plain : ∀ c ∈ key, isPlain c = true) (read : readValue fuel text = some (value, '\x7d' :: more))
    (entries : List (Value × Value)) :
    readEntries (fuel + 1) entries ('"' :: (key ++ '"' :: ':' :: text)) =
      some (.map (Value.insert (.text (.ofChars key)) value entries), more) := by
  rw [readEntries_entry plain read, skip_none (by decide)]
  rfl

end TapeSheet.JsonReading
