import TapeSheet.Text
import Mathlib.Logic.Basic

/-!
# Texts without halves of characters

A text that is made of nothing but characters (`Whole`) is what files and the stream for lines take. It is put together
from texts of that kind, and written as its characters stand.
-/

namespace TapeSheet.Encoding

/-- All letters of a text are characters. -/
def Whole (t : Text) : Prop := ∀ l ∈ t.letters, l.isHalf = false

theorem whole_append {s t : Text} : Whole (s ++ t) ↔ Whole s ∧ Whole t := by
  have letters : (s ++ t).letters = s.letters ++ t.letters := rfl
  simp only [Whole, letters, List.mem_append, or_imp, forall_and]

theorem whole_ofString (s : String) : Whole (Text.ofString s) := by
  intro l member
  obtain ⟨c, _, rfl⟩ := List.mem_map.mp member
  rfl

theorem whole_parts {separator : Text} {parts : List Text} (whole : Whole (Text.glued separator parts)) {part : Text}
    (member : part ∈ parts) : Whole part := by
  induction parts with
  | nil => cases member
  | cons first parts ih =>
    cases parts with
    | nil => exact List.mem_singleton.mp member ▸ whole
    | cons second parts =>
      obtain ⟨inFirst, inRest⟩ := whole_append.mp whole
      rcases List.mem_cons.mp member with rfl | later
      · exact inFirst
      · exact ih (whole_append.mp inRest).2 later

theorem whole_glued {separator : Text} (between : Whole separator) {parts : List Text}
    (each : ∀ part ∈ parts, Whole part) : Whole (Text.glued separator parts) := by
  induction parts with
  | nil => exact fun l member => absurd member List.not_mem_nil
  | cons first parts ih =>
    have own := each first (List.mem_cons_self ..)
    have rest := ih fun part member => each part (List.mem_cons_of_mem first member)
    cases parts with
    | nil => exact own
    | cons second parts => exact whole_append.mpr ⟨own, whole_append.mpr ⟨between, rest⟩⟩

theorem misfitFrom_none {place : Nat} {letters : List Letter} :
    Text.misfitFrom Letter.isHalf place letters = none ↔ ∀ l ∈ letters, l.isHalf = false := by
  induction letters generalizing place with
  | nil => simp [Text.misfitFrom]
  | cons l letters ih =>
    rw [Text.misfitFrom]
    cases l with
    | char c => simpa [Letter.isHalf] using ih
    | half unit => simp [Letter.isHalf]

/-- Nothing but halves stands in the way of writing a text. -/
theorem misfit_none {t : Text} : t.misfit? = none ↔ Whole t := misfitFrom_none

/-- A text of characters is written as they stand. -/
theorem encode_ofString (s : String) : (Text.ofString s).encode = .ok s := by
  have fits : (Text.ofString s).misfit? = none := misfit_none.mpr (whole_ofString s)
  have chars : (Text.ofString s).letters.filterMap Letter.char? = s.toList := by
    simp [Text.ofString, Text.ofChars, List.filterMap_map, Function.comp_def, Letter.char?]
  rw [Text.encode, fits, chars, String.ofList_toList]

end TapeSheet.Encoding
