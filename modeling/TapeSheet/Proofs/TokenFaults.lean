import TapeSheet.Yaml.Token
import Mathlib.Tactic.SplitIfs

/-!
# What stops the reading of tokens

Scalars and tokens are refused with many faults, but with none of the configuration. Each function on the way says what
it gives, or that its reason to stop is a foreign one (`Gives`), and none but the last token of a text carries such a
reason (`endForeign_tokens`).
-/

namespace TapeSheet.TokenFaults
open TapeSheet.Yaml

/-! ## Results -/

/-- A reason to stop that is no fault of the configuration. -/
def Foreign : Stop → Prop
  | .malformed => True
  | .refused fault => ∀ cause, fault ≠ .config cause

/-- A result with a property, or a foreign reason to stop. -/
inductive Gives {α : Type} (P : α → Prop) : Except Stop α → Prop
  | ok {a : α} (holds : P a) : Gives P (.ok a)
  | stop {stop : Stop} (foreign : Foreign stop) : Gives P (.error stop)

/-- Any result, or a foreign reason to stop. -/
abbrev Stops {α : Type} (result : Except Stop α) : Prop := Gives (fun _ => True) result

section Results
variable {α β : Type} {P Q : α → Prop} {R : β → Prop} {result : Except Stop α}

@[simp] theorem foreign_malformed : Foreign .malformed := trivial

@[simp] theorem foreign_refused {fault : Fault} : Foreign (.refused fault) ↔ ∀ cause, fault ≠ .config cause := Iff.rfl

@[simp] theorem gives_ok {a : α} : Gives P (.ok a) ↔ P a := ⟨fun | .ok holds => holds, .ok⟩

@[simp] theorem gives_pure {a : α} : Gives P (pure a) ↔ P a := gives_ok

@[simp] theorem gives_error {stop : Stop} : Gives P (.error stop) ↔ Foreign stop :=
  ⟨fun | .stop foreign => foreign, .stop⟩

@[simp] theorem gives_throw {stop : Stop} : Gives P (throw stop) ↔ Foreign stop := gives_error

@[simp] theorem gives_map {f : α → β} : Gives R (result.map f) ↔ Gives (fun a => R (f a)) result := by
  cases result <;> simp [Except.map]

@[simp] theorem gives_functor_map {f : α → β} : Gives R (f <$> result) ↔ Gives (fun a => R (f a)) result := gives_map

@[simp] theorem gives_bind {f : α → Except Stop β} :
    Gives R (result >>= f) ↔ Gives (fun a => Gives R (f a)) result := by
  cases result <;> simp [bind, Except.bind]

@[simp] theorem gives_ite {p : Prop} [Decidable p] {other : Except Stop α} :
    Gives P (if p then result else other) ↔ (p → Gives P result) ∧ (¬ p → Gives P other) := by
  split_ifs with h <;> simp [h]

theorem Gives.foreign {stop : Stop} (gives : Gives P result) (stopped : result = .error stop) : Foreign stop := by
  rw [stopped] at gives
  exact gives_error.mp gives

theorem Gives.holds {a : α} (gives : Gives P result) (done : result = .ok a) : P a := by
  rw [done] at gives
  exact gives_ok.mp gives

theorem Gives.mono (gives : Gives Q result) (weaker : ∀ a, Q a → P a) : Gives P result := by
  cases gives with
  | ok holds => exact .ok (weaker _ holds)
  | stop foreign => exact .stop foreign

theorem Gives.bind {f : α → Except Stop β} (gives : Gives Q result) (next : ∀ a, Q a → Gives R (f a)) :
    Gives R (result >>= f) := gives_bind.mpr (gives.mono next)

theorem Gives.map {f : α → β} (gives : Gives Q result) (next : ∀ a, Q a → R (f a)) : Gives R (result.map f) :=
  gives_map.mpr (gives.mono next)

end Results

/-! ## Scalars -/

@[simp] theorem stops_quotedBreaks (fuel : Nat) (breaks : List Char) (c : Cursor) :
    Stops (quotedBreaks fuel breaks c) := by
  fun_induction quotedBreaks <;> simp_all

@[simp] theorem stops_quotedGap (c : Cursor) : Stops (quotedGap c) := by
  fun_cases quotedGap with
  | case2 _ _ _ _ _ _ c _ stop stopped => exact .stop ((stops_quotedBreaks _ _ _).foreign stopped)
  | _ => simp

@[simp] theorem stops_letterOf (code : Nat) : Stops (letterOf code) := by
  fun_cases letterOf <;> simp

@[simp] theorem stops_readEscape (c : Cursor) : Stops (readEscape c) := by
  fun_cases readEscape <;> simp

@[simp] theorem stops_quotedFrom (double : Bool) (fuel : Nat) (acc : List Letter) (c : Cursor) :
    Stops (quotedFrom double fuel acc c) := by
  fun_induction quotedFrom with
  | case3 _ _ c _ _ _ _ stopped => exact .stop ((stops_quotedGap c).foreign stopped)
  | case6 _ _ c _ _ _ _ _ _ _ stopped => exact .stop ((stops_readEscape c.next).foreign stopped)
  | _ => first | assumption | simp

@[simp] theorem stops_readQuoted (c : Cursor) : Stops (readQuoted c) := stops_quotedFrom ..

@[simp] theorem stops_indentationOf (c : Cursor) : Stops (indentationOf c) := by
  fun_cases indentationOf <;> simp

@[simp] theorem stops_blockHeader (c : Cursor) : Stops (blockHeader c) := by
  unfold blockHeader
  cases chompingOf? c.peek with
  | some chomping => simp
  | none =>
    simp only [gives_bind]
    refine (stops_indentationOf c).mono fun (indentation, c) _ => ?_
    cases indentation <;> cases chompingOf? c.peek <;> simp

@[simp] theorem stops_readBlock (folded : Bool) (outer : Int) (c : Cursor) : Stops (readBlock folded outer c) :=
  (stops_blockHeader c.next).bind fun _ _ => .ok trivial

/-! ## Tokens with names -/

/-- A token with which a text ends that cannot be read to its end. -/
inductive IsLast : Token → Prop
  | stopped (stop : Stop) : IsLast (.stopped stop)

@[simp] theorem isLast_iff {token : Token} : IsLast token ↔ ∃ stop, token = .stopped stop :=
  ⟨fun | .stopped stop => ⟨stop, rfl⟩, fun ⟨stop, same⟩ => same ▸ .stopped stop⟩

@[simp] theorem stops_readName (c : Cursor) : Stops (readName c) := by
  fun_cases readName <;> simp

@[simp] theorem stops_readAnchor (c : Cursor) : Stops (readAnchor c) := by
  simp [readAnchor]

@[simp] theorem stops_readHandle (c : Cursor) : Stops (readHandle c) := by
  fun_cases readHandle <;> simp

@[simp] theorem stops_readBytes (fuel : Nat) (bytes : ByteArray) (c : Cursor) : Stops (readBytes fuel bytes c) := by
  fun_induction readBytes <;> simp_all

@[simp] theorem stops_tagTextFrom (fuel : Nat) (acc : List Char) (c : Cursor) : Stops (tagTextFrom fuel acc c) := by
  fun_induction tagTextFrom with
  | case2 _ _ c _ _ stopped => exact .stop ((stops_readBytes _ _ c).foreign stopped)
  | _ => first | assumption | simp

@[simp] theorem stops_readTagText (c : Cursor) : Stops (readTagText c) := by
  simp [readTagText]

theorem gives_readTag (c : Cursor) : Gives (fun read => ¬ IsLast read.1) (readTag c) := by
  simp [readTag]

@[simp] theorem stops_readVersionPart (c : Cursor) : Stops (readVersionPart c) := by
  fun_cases readVersionPart <;> simp

@[simp] theorem stops_endOfLine (c : Cursor) : Stops (endOfLine c) := by
  simp [endOfLine]

theorem gives_readDirective (c : Cursor) : Gives (fun read => ¬ IsLast read.1) (readDirective c) := by
  simp [readDirective]

/-! ## The sequence of tokens -/

/-- None of the tokens so far is a last one. -/
def GoesOn (lx : Lexer) : Prop := ∀ token ∈ lx.backwards, ¬ IsLast token

/-- Last ones among tokens have foreign reasons to stop. -/
def EndForeign (tokens : List Token) : Prop := ∀ stop, .stopped stop ∈ tokens → Foreign stop

section Lexers
variable {lx : Lexer} {token : Token}

theorem goesOn_push (goesOn : GoesOn lx) (other : ¬ IsLast token) : GoesOn (lx.push token) :=
  List.forall_mem_cons.mpr ⟨other, goesOn⟩

theorem goesOn_insert (number : Nat) (goesOn : GoesOn lx) (other : ¬ IsLast token) :
    GoesOn (lx.insert number token) := by
  refine List.forall_mem_append.mpr ⟨fun token front => ?_, List.forall_mem_cons.mpr ⟨other, fun token behind => ?_⟩⟩
  · exact goesOn token (List.mem_of_mem_take front)
  · exact goesOn token (List.mem_of_mem_drop behind)

theorem goesOn_indentTo (column : Nat) (goesOn : GoesOn lx) : GoesOn (lx.indentTo column).2 := by
  unfold Lexer.indentTo
  split <;> exact goesOn

/-- Blocks are indented outside of brackets only. -/
theorem goesOn_indented (column : Nat) (goesOn : GoesOn lx) :
    GoesOn (if lx.depth = 0 then lx.indentTo column else (false, lx)).2 := by
  split
  · exact goesOn_indentTo column goesOn
  · exact goesOn

theorem goesOn_unwind (column : Int) (outer : List Int) (goesOn : GoesOn lx) : GoesOn (lx.unwind column outer) := by
  fun_induction Lexer.unwind with
  | case1 _ _ _ _ ih => exact ih (goesOn_push goesOn nofun)
  | _ => exact goesOn

theorem goesOn_unwindTo (column : Int) (goesOn : GoesOn lx) : GoesOn (lx.unwindTo column) := by
  unfold Lexer.unwindTo
  split
  · exact goesOn_unwind column lx.indents goesOn
  · exact goesOn

theorem goesOn_skipGap (fuel : Nat) (goesOn : GoesOn lx) : GoesOn (lx.skipGap fuel) := by
  fun_induction Lexer.skipGap with
  | case2 _ _ _ _ ih => exact ih goesOn
  | _ => exact goesOn

theorem gives_dropStale (goesOn : GoesOn lx) : Gives GoesOn lx.dropStale := by
  fun_cases Lexer.dropStale
  · exact .stop trivial
  · exact .ok goesOn

theorem gives_dropPending (goesOn : GoesOn lx) : Gives GoesOn lx.dropPending := by
  fun_cases Lexer.dropPending with
  | case1 => exact .stop trivial
  | _ => exact .ok goesOn

theorem gives_notePending (goesOn : GoesOn lx) : Gives GoesOn lx.notePending := by
  fun_cases Lexer.notePending with
  | case1 => exact (gives_dropPending goesOn).map fun _ own => own
  | case2 => exact .ok goesOn

theorem gives_leaveBlocks (goesOn : GoesOn lx) : Gives GoesOn lx.leaveBlocks :=
  (gives_dropPending (goesOn_unwindTo (-1) goesOn)).map fun _ own => own

theorem gives_openFlow (goesOn : GoesOn lx) (other : ¬ IsLast token) : Gives GoesOn (lx.openFlow token) :=
  (gives_notePending goesOn).map fun _ own => goesOn_push own other

theorem gives_closeFlow (goesOn : GoesOn lx) (other : ¬ IsLast token) : Gives GoesOn (lx.closeFlow token) :=
  (gives_dropPending goesOn).map fun _ own => goesOn_push own other

theorem gives_startItem (goesOn : GoesOn lx) (other : ¬ IsLast token) : Gives GoesOn (lx.startItem token) := by
  have indented := goesOn_indentTo lx.cursor.column goesOn
  unfold Lexer.startItem
  split
  · split
    · refine .ok ?_
      split
      · exact goesOn_push indented other
      · exact indented
    · exact .stop trivial
  · exact .ok goesOn

/-- An item of a block starts, and its mark follows. -/
theorem gives_item {block : Token} {allowed : Lexer → Bool} (goesOn : GoesOn lx) (start : ¬ IsLast block)
    (other : ¬ IsLast token) :
    Gives GoesOn (do
      let lx ← lx.startItem block
      let lx ← (lx.allowKey (allowed lx)).dropPending
      pure ((lx.advance 1).push token)) := by
  refine (gives_startItem goesOn start).bind fun lx own => ?_
  have kept : GoesOn (lx.allowKey (allowed lx)) := own
  exact (gives_dropPending kept).bind fun lx own => .ok (goesOn_push own other)

/-- A block that starts at a token that is a key already gets its own token there. -/
theorem goesOn_started (number : Nat) {started : Bool × Lexer} (goesOn : GoesOn started.2) (other : ¬ IsLast token) :
    GoesOn (if started.1 then started.2.insert number token else started.2) := by
  split
  · exact goesOn_insert number goesOn other
  · exact goesOn

theorem gives_readValue (goesOn : GoesOn lx) : Gives GoesOn lx.readValue := by
  unfold Lexer.readValue
  split
  · rename_i k _
    have withKey : GoesOn ({ lx with pending := lx.pending.filter (·.1 != lx.depth) }.insert k.token .key) :=
      goesOn_insert k.token goesOn nofun
    exact .ok (goesOn_push (goesOn_started k.token (goesOn_indented k.column withKey) nofun) nofun)
  · exact gives_item goesOn nofun nofun

theorem gives_pushNode {read : Cursor → Except Stop (Token × Cursor)} (goesOn : GoesOn lx)
    (other : ∀ c, Gives (fun read => ¬ IsLast read.1) (read c)) : Gives GoesOn (lx.pushNode read) := by
  refine (gives_notePending goesOn).bind fun lx own => ?_
  exact (other lx.cursor).bind fun _ another => .ok (goesOn_push own another)

theorem gives_readToken (goesOn : GoesOn lx) : Gives GoesOn lx.readToken := by
  have allowed : GoesOn (lx.allowKey true) := goesOn
  unfold Lexer.readToken
  simp only
  split
  · exact gives_openFlow goesOn nofun
  · exact gives_openFlow goesOn nofun
  · exact gives_closeFlow goesOn nofun
  · exact gives_closeFlow goesOn nofun
  · exact (gives_dropPending allowed).map fun _ own => goesOn_push own nofun
  -- the tests for what starts here, in order
  refine gives_ite.mpr ⟨fun _ => ?_, fun _ => ?_⟩
  · refine (gives_leaveBlocks goesOn).bind fun lx own => ?_
    exact (gives_readDirective lx.cursor).bind fun _ other => .ok (goesOn_push own other)
  refine gives_ite.mpr ⟨fun _ => (gives_leaveBlocks goesOn).map fun _ own => goesOn_push own nofun, fun _ => ?_⟩
  refine gives_ite.mpr ⟨fun _ => (gives_leaveBlocks goesOn).map fun _ own => goesOn_push own nofun, fun _ => ?_⟩
  refine gives_ite.mpr ⟨fun _ => gives_item goesOn nofun nofun, fun _ => ?_⟩
  refine gives_ite.mpr ⟨fun _ => gives_item goesOn nofun nofun, fun _ => ?_⟩
  refine gives_ite.mpr ⟨fun _ => gives_readValue goesOn, fun _ => ?_⟩
  refine gives_ite.mpr ⟨fun _ => gives_pushNode goesOn fun c => by simp, fun _ => ?_⟩
  refine gives_ite.mpr ⟨fun _ => gives_pushNode goesOn fun c => by simp, fun _ => ?_⟩
  refine gives_ite.mpr ⟨fun _ => gives_pushNode goesOn gives_readTag, fun _ => ?_⟩
  refine gives_ite.mpr ⟨fun _ => ?_, fun _ => ?_⟩
  · refine (gives_dropPending allowed).bind fun lx own => ?_
    exact (stops_readBlock ..).bind fun _ _ => .ok (goesOn_push own nofun)
  refine gives_ite.mpr ⟨fun _ => gives_pushNode goesOn fun c => by simp, fun _ => ?_⟩
  refine gives_ite.mpr ⟨fun _ => ?_, fun _ => .stop trivial⟩
  exact (gives_notePending goesOn).bind fun _ own => .ok (goesOn_push own nofun)

theorem endForeign_ended (number : Nat) {last : Token} (foreign : ∀ stop, last = .stopped stop → Foreign stop)
    (goesOn : GoesOn lx) : EndForeign (lx.ended number last) := by
  intro stop member
  obtain same | before := List.mem_cons.mp (List.mem_reverse.mp member)
  · exact foreign stop same.symm
  · exact absurd (.stopped stop) (goesOn _ (List.mem_of_mem_drop before))

theorem endForeign_stopped {stop : Stop} (foreign : Foreign stop) (goesOn : GoesOn lx) :
    EndForeign (lx.stopped stop) := by
  refine endForeign_ended _ ?_ goesOn
  rintro _ ⟨⟩
  exact foreign

theorem endForeign_readAll (fuel : Nat) (goesOn : GoesOn lx) : EndForeign (lx.readAll fuel) := by
  induction fuel generalizing lx with
  | zero => exact endForeign_stopped trivial goesOn
  | succ fuel ih =>
    have dropped : Gives GoesOn lx.toNextToken.dropStale := gives_dropStale (goesOn_skipGap _ goesOn)
    unfold Lexer.readAll
    cases found : lx.toNextToken.dropStale with
    | error stop => exact endForeign_stopped (dropped.foreign found) goesOn
    | ok next =>
      have own := goesOn_unwindTo next.cursor.column (dropped.holds found)
      simp only
      split
      · have left := gives_leaveBlocks own
        split
        · rename_i stop stopped
          exact endForeign_stopped (left.foreign stopped) goesOn
        · rename_i done
          exact endForeign_ended _ nofun (left.holds done)
      · have read := (gives_readToken own).bind fun _ => gives_dropStale
        split
        · rename_i stop stopped
          exact endForeign_stopped (read.foreign stopped) goesOn
        · rename_i done
          exact ih (read.holds done)

end Lexers

/-- The tokens of a text end in none of the faults of the configuration. -/
theorem endForeign_tokens (text : List Char) : EndForeign (tokens text) := endForeign_readAll _ nofun

end TapeSheet.TokenFaults
