import TapeSheet.Proofs.TokenFaults
import TapeSheet.Yaml.Document

/-!
# What stops the reading of documents

From the tokens of a text to the parts of its document, nothing is refused with a fault of the configuration: not while
nodes are read (`readsWith`), mappings are merged, scalars get their values (`stops_valueOfText`) or collections are
filled. So a text is malformed, or refused with a fault that is none of the configuration (`read_foreign`).
-/

namespace TapeSheet.DocumentFaults
open TapeSheet.Yaml TapeSheet.TokenFaults

section Results
variable {α β : Type} {P : α → Prop}

theorem stops_mapM {f : β → Except Stop α} (each : ∀ b, Stops (f b)) (items : List β) : Stops (items.mapM f) := by
  induction items with
  | nil => exact .ok trivial
  | cons item rest ih =>
    rw [List.mapM_cons]
    exact (each item).bind fun _ _ => ih.bind fun _ _ => .ok trivial

theorem stops_foldlM {f : α → β → Except Stop α} (step : ∀ a b, Stops (f a b)) (items : List β) (a : α) :
    Stops (items.foldlM f a) := by
  induction items generalizing a with
  | nil => exact .ok trivial
  | cons item rest ih =>
    rw [List.foldlM_cons]
    exact (step a item).bind fun a _ => ih a

end Results

/-! ## Nodes -/

/-- The tokens that a reader comes to end in a foreign reason to stop, if they end in one. -/
def Fine (r : Reader) : Prop := EndForeign r.tokens

/-- Something is read, or there is a foreign reason to stop, now or later. -/
abbrev Reads {α : Type} (result : Except Stop (α × Reader)) : Prop := Gives (fun read => Fine read.2) result

section Nodes
variable {r : Reader}

theorem endForeign_tail {token : Token} {rest : List Token} (foreign : EndForeign (token :: rest)) : EndForeign rest :=
  fun stop member => foreign stop (List.mem_cons_of_mem _ member)

theorem foreign_peek (fine : Fine r) {stop : Stop} (last : r.peek = .stopped stop) : Foreign stop := by
  unfold Reader.peek at last
  cases ahead : r.tokens with
  | nil =>
    rw [ahead] at last
    cases last
    trivial
  | cons token rest =>
    rw [ahead] at last
    refine fine stop ?_
    rw [ahead, ← last]
    exact List.mem_cons_self ..

theorem fine_next (fine : Fine r) : Fine r.next := fun stop member => fine stop (List.mem_of_mem_tail member)

theorem gives_expect (fine : Fine r) (matching : Token → Bool) : Gives Fine (r.expect matching) := by
  unfold Reader.expect Reader.unexpected
  split
  · exact .ok (fine_next fine)
  · split
    · rename_i last
      exact .stop (foreign_peek fine last)
    · exact .stop trivial

theorem gives_separator (first : Bool) (fine : Fine r) :
    Gives Fine (if first then .ok r else r.expect Token.isComma) :=
  gives_ite.mpr ⟨fun _ => .ok fine, fun _ => gives_expect fine _⟩

theorem stops_tagName {handle : Option String} {suffix : String} : Stops (r.tagName handle suffix) := by
  fun_cases Reader.tagName <;> simp

theorem reads_properties (fine : Fine r) : Reads (readProperties r) := by
  have behind := fine_next fine
  unfold readProperties
  split
  · exact stops_tagName.map fun _ _ => fine_next behind
  · rename_i last
    exact .stop (foreign_peek behind last)
  · exact stops_tagName.map fun _ _ => fine_next behind
  · exact .ok behind
  · exact stops_tagName.map fun _ _ => behind
  · exact .ok fine

theorem reads_add {p : Properties} {node : Node} (fine : Fine r) : Reads (p.add node r) := by
  unfold Properties.add
  simp only
  split
  · exact .ok fine
  · split
    · exact .stop trivial
    · exact .ok fine

theorem reads_nothing (p : Properties) (fine : Fine r) : Reads (readNothing p r) := by
  unfold readNothing
  split
  · exact reads_add fine
  · exact .stop trivial

theorem reads_addCollection {p : Properties} {own : Tag} {read : Reader → Except Stop (Content × Reader)}
    (fine : Fine r) (inside : ∀ r : Reader, Fine r → Reads (read r)) : Reads (p.addCollection own read r) := by
  have added : Reads (p.add ⟨p.collectionTag own, .scalar ""⟩ r) := reads_add fine
  unfold Properties.addCollection
  split
  · rename_i stop stopped
    exact .stop (added.foreign stopped)
  · rename_i number r done
    refine gives_ite.mpr ⟨fun _ => .stop (by simp), fun _ => ?_⟩
    exact (inside { r with depth := r.depth + 1 } (added.holds done)).map fun _ own => own

/-- What is read with an amount of fuel. -/
structure ReadsWith (fuel : Nat) : Prop where
  node {r : Reader} (place : Place) (fine : Fine r) : Reads (readNode fuel place r)
  content {r : Reader} (place : Place) (p : Properties) (fine : Fine r) : Reads (readContent fuel place p r)
  items {r : Reader} (indented : Bool) (fine : Fine r) : Reads (readItems fuel indented r)
  entries {r : Reader} (fine : Fine r) : Reads (readEntries fuel r)
  flowItems {r : Reader} (first : Bool) (fine : Fine r) : Reads (readFlowItems fuel first r)
  loneEntry {r : Reader} (fine : Fine r) : Reads (readLoneEntry fuel r)
  flowEntries {r : Reader} (first : Bool) (fine : Fine r) : Reads (readFlowEntries fuel first r)
  entry {r : Reader} (place : Place) (ends : Token → Bool) (fine : Fine r) : Reads (readEntry fuel place ends r)
  optional {r : Reader} (place : Place) (missing : Token → Bool) (fine : Fine r) :
    Reads (readUnless fuel place missing r)

section Step
variable {fuel : Nat} (inside : ReadsWith fuel)
include inside

theorem reads_node (place : Place) (fine : Fine r) : Reads (readNode (fuel + 1) place r) := by
  unfold readNode
  split
  · split
    · exact .ok (fine_next fine)
    · exact .stop trivial
  · have read := reads_properties fine
    split
    · rename_i stop stopped
      exact .stop (read.foreign stopped)
    · rename_i properties r done
      exact inside.content place properties (read.holds done)

theorem reads_content (place : Place) (p : Properties) (fine : Fine r) : Reads (readContent (fuel + 1) place p r) := by
  unfold readContent
  simp only
  split
  · rename_i stop last
    exact .stop (foreign_peek fine last)
  · exact reads_add (fine_next fine)
  · exact reads_addCollection fine fun r fine => (inside.flowItems true (fine_next fine)).map fun _ own => own
  · exact reads_addCollection fine fun r fine => (inside.flowEntries true (fine_next fine)).map fun _ own => own
  · split
    · exact reads_addCollection fine fun r fine => (inside.items false fine).map fun _ own => own
    · exact reads_nothing p fine
    · exact reads_addCollection fine fun r fine => (inside.items true (fine_next fine)).map fun _ own => own
    · exact reads_addCollection fine fun r fine => (inside.entries (fine_next fine)).map fun _ own => own
    · exact reads_nothing p fine

theorem reads_items (indented : Bool) (fine : Fine r) : Reads (readItems (fuel + 1) indented r) := by
  unfold readItems
  split
  · have read := inside.optional .block
      (fun t => t.isEntry || t.isBlockEnd || (!indented && (t.isKey || t.isValue))) (fine_next fine)
    split
    · rename_i stop stopped
      exact .stop (read.foreign stopped)
    · rename_i item r done
      exact (inside.items indented (read.holds done)).map fun _ own => own
  · split
    · exact (gives_expect fine _).map fun _ own => own
    · exact .ok fine

theorem reads_entries (fine : Fine r) : Reads (readEntries (fuel + 1) r) := by
  unfold readEntries
  split
  · have read := inside.entry .blockEntry (fun t => t.isKey || t.isValue || t.isBlockEnd) (fine_next fine)
    split
    · rename_i stop stopped
      exact .stop (read.foreign stopped)
    · rename_i entry r done
      exact (inside.entries (read.holds done)).map fun _ own => own
  · exact (gives_expect fine _).map fun _ own => own

theorem reads_flowItems (first : Bool) (fine : Fine r) : Reads (readFlowItems (fuel + 1) first r) := by
  have separated := gives_separator first fine
  unfold readFlowItems
  split
  · exact .ok (fine_next fine)
  split
  · rename_i stop stopped
    exact .stop (separated.foreign stopped)
  rename_i r done
  have fine := separated.holds done
  split
  · exact .ok (fine_next fine)
  have read : Reads (if r.peek.isKey then readLoneEntry fuel r.next else readNode fuel .flow r) :=
    gives_ite.mpr ⟨fun _ => inside.loneEntry (fine_next fine), fun _ => inside.node .flow fine⟩
  split
  · rename_i stop stopped
    exact .stop (read.foreign stopped)
  · rename_i item r done
    exact (inside.flowItems false (read.holds done)).map fun _ own => own

theorem reads_loneEntry (fine : Fine r) : Reads (readLoneEntry (fuel + 1) r) := by
  unfold readLoneEntry
  exact reads_addCollection fine fun r fine => (inside.entry .flow _ fine).map fun _ own => own

theorem reads_flowEntries (first : Bool) (fine : Fine r) : Reads (readFlowEntries (fuel + 1) first r) := by
  have separated := gives_separator first fine
  unfold readFlowEntries
  split
  · exact .ok (fine_next fine)
  split
  · rename_i stop stopped
    exact .stop (separated.foreign stopped)
  rename_i r done
  have fine := separated.holds done
  split
  · have read := inside.entry .flow (fun t => t.isValue || t.isComma || t.isCloseBrace) (fine_next fine)
    split
    · rename_i stop stopped
      exact .stop (read.foreign stopped)
    · rename_i entry r done
      exact (inside.flowEntries false (read.holds done)).map fun _ own => own
  split
  · exact .ok (fine_next fine)
  have read := inside.node .flow fine
  split
  · rename_i stop stopped
    exact .stop (read.foreign stopped)
  · rename_i key r done
    have fine : Fine r.addEmpty.2 := read.holds (a := (key, r)) done
    exact (inside.flowEntries false fine).map fun _ own => own

theorem reads_entry (place : Place) (ends : Token → Bool) (fine : Fine r) :
    Reads (readEntry (fuel + 1) place ends r) := by
  have read := inside.optional place ends fine
  unfold readEntry
  split
  · rename_i stop stopped
    exact .stop (read.foreign stopped)
  rename_i key r done
  have fine : Fine r := read.holds (a := (key, r)) done
  split
  · exact (inside.optional place _ (fine_next fine)).map fun _ own => own
  · exact .ok fine

theorem reads_unless (place : Place) (missing : Token → Bool) (fine : Fine r) :
    Reads (readUnless (fuel + 1) place missing r) := by
  unfold readUnless
  split
  · exact .ok fine
  · exact inside.node place fine

end Step

theorem readsWith (fuel : Nat) : ReadsWith fuel := by
  induction fuel with
  | zero => constructor <;> intros <;> exact .stop trivial
  | succ fuel inside =>
    exact {
      node := reads_node inside
      content := reads_content inside
      items := reads_items inside
      entries := reads_entries inside
      flowItems := reads_flowItems inside
      loneEntry := reads_loneEntry inside
      flowEntries := reads_flowEntries inside
      entry := reads_entry inside
      optional := reads_unless inside }

/-! ## Streams -/

theorem gives_readDirectives {tokens : List Token} (versioned : Bool) (handles : List (String × String))
    (foreign : EndForeign tokens) :
    Gives (fun read => EndForeign read.1) (readDirectives tokens versioned handles) := by
  fun_induction readDirectives with
  | case1 => exact .stop trivial
  | case2 _ _ _ _ _ ih => exact ih (endForeign_tail foreign)
  | case3 => exact .stop trivial
  | case4 _ _ _ _ _ _ ih => exact ih (endForeign_tail foreign)
  | case5 _ _ _ ih => exact ih (endForeign_tail foreign)
  | case6 => exact .ok foreign

theorem endForeign_skipDocumentEnds {tokens : List Token} (foreign : EndForeign tokens) :
    EndForeign (skipDocumentEnds tokens) := by
  fun_induction skipDocumentEnds with
  | case1 rest ih => exact ih (endForeign_tail foreign)
  | case2 => exact foreign

theorem gives_readStart {tokens : List Token} (foreign : EndForeign tokens) : Gives Fine (readStart tokens) := by
  refine (gives_readDirectives false [] foreign).bind fun (rest, declared) own => ?_
  have fine : Fine ⟨rest, #[], [], declared ++ defaultHandles, 0⟩ := own
  exact gives_expect fine _

theorem stops_endOfStream (fine : Fine r) : Stops (endOfStream r) := by
  have behind := endForeign_skipDocumentEnds fine
  unfold endOfStream
  split
  · exact .ok trivial
  · exact (gives_readStart behind).bind fun _ _ => .stop trivial

theorem stops_readOnly (fine : Fine r) : Stops (readOnly r) := by
  refine ((readsWith _).node .block fine).bind fun read own => ?_
  exact (stops_endOfStream own).bind fun _ _ => .ok trivial

theorem stops_readDocument {tokens : List Token} (foreign : EndForeign tokens) : Stops (readDocument tokens) := by
  unfold readDocument
  refine gives_ite.mpr ⟨fun _ => stops_readOnly foreign, fun _ => ?_⟩
  split
  · exact .ok trivial
  · refine (gives_readStart foreign).bind fun r fine => ?_
    refine gives_ite.mpr ⟨fun _ => ?_, fun _ => stops_readOnly fine⟩
    exact (stops_endOfStream fine).bind fun _ _ => .ok trivial

end Nodes

/-! ## Merging -/

section Merging
variable {flat : Graph → Nat → Except Stop Graph}

theorem stops_flattened (inner : ∀ g number, Stops (flat g number)) (g : Graph) (number : Nat) :
    Stops (Graph.flattened flat g number) := by
  unfold Graph.flattened
  split
  · exact (inner g number).map fun _ _ => trivial
  · exact .stop trivial

theorem stops_taken (inner : ∀ g number, Stops (flat g number)) (g : Graph) (value : Nat) :
    Stops (Graph.taken flat g value) := by
  unfold Graph.taken
  split
  · exact stops_foldlM (fun (g, found) item => (stops_flattened inner g item).map fun _ _ => trivial) ..
  · exact stops_flattened inner g value

theorem stops_flattenFrom (fuel room : Nat) (g : Graph) (number first : Nat) (found : List (Nat × Nat)) :
    Stops (g.flattenFrom fuel room number first found) := by
  induction fuel generalizing room g number first found with
  | zero => exact .stop trivial
  | succ fuel ih =>
    have inner : ∀ g other, Stops (if room = 0 then .error (.refused (.nesting .unfolding))
        else Graph.flattenFrom fuel (room - 1) g other 0 []) :=
      fun g other => gives_ite.mpr ⟨fun _ => .stop (by simp), fun _ => ih ..⟩
    unfold Graph.flattenFrom
    simp only
    split
    · exact .ok trivial
    · split
      · rename_i stopped
        exact .stop ((stops_taken inner ..).foreign stopped)
      · exact ih ..

end Merging

/-! ## Values -/

@[simp] theorem stops_refuse {α : Type} (fault : RangeFault) : Stops (refuse fault : Except Stop α) := by
  simp [refuse]

@[simp] theorem stops_numeral (base : Nat) (digits : List Letter) : Stops (Yaml.numeral base digits) := by
  unfold Yaml.numeral
  split <;> simp

theorem stops_intOf (text : Text) : Stops (intOf text) := by
  unfold intOf
  simp only
  refine gives_ite.mpr ⟨fun _ => by simp, fun _ => ?_⟩
  split
  · simp
  · exact .ok trivial
  · simp
  · simp
  · simp
  · refine gives_ite.mpr ⟨fun _ => ?_, fun _ => by simp⟩
    rw [bind_assoc]
    exact (stops_mapM (stops_numeral 10) _).bind fun _ _ => .ok trivial

theorem stops_decimal (letters : List Letter) : Stops (Yaml.decimal letters) := by
  unfold Yaml.decimal
  split <;> simp

theorem stops_finiteOnly (x : Binary64) : Stops (finiteOnly x) := by
  cases x <;> simp [finiteOnly]

theorem stops_doubleSixtieths (base : Nat) (sum : Binary64) (places : List Binary64) :
    Stops (doubleSixtieths base sum places) := by
  induction places generalizing base sum with
  | nil => exact .ok trivial
  | cons place rest ih => exact (stops_finiteOnly _).bind fun _ _ => ih ..

theorem stops_floatOf (text : Text) : Stops (floatOf text) := by
  unfold floatOf
  refine gives_ite.mpr ⟨fun _ => by simp, fun _ => ?_⟩
  simp only
  refine gives_ite.mpr ⟨fun _ => .ok trivial, fun _ => ?_⟩
  refine gives_ite.mpr ⟨fun _ => .ok trivial, fun _ => ?_⟩
  refine gives_ite.mpr ⟨fun _ => ?_, fun _ => ?_⟩
  · exact (stops_mapM stops_decimal _).bind fun _ _ => (stops_doubleSixtieths ..).bind fun _ _ => .ok trivial
  · exact (stops_decimal _).bind fun _ _ => .ok trivial

theorem stops_boolOf (text : Text) : Stops (boolOf text) := by
  unfold boolOf
  split <;> simp

@[simp] theorem stops_dateOf (year month day : Nat) : Stops (dateOf year month day) := by
  simp [dateOf]

theorem stops_timeOf (text : Text) : Stops (timeOf text) := by
  unfold timeOf
  split
  · simp
  · simp
  · rename_i clock _
    cases clock.offset <;> simp

theorem stops_bytesOf (text : Text) : Stops (bytesOf text) := by
  unfold bytesOf
  split
  · split <;> simp
  · simp

theorem stops_valueOfText (tag : Tag) (text : Text) : Stops (valueOfText tag text) := by
  cases tag with
  | bool => exact (stops_boolOf text).map fun _ own => own
  | int => exact (stops_intOf text).map fun _ own => own
  | float => exact (stops_floatOf text).map fun _ own => own
  | timestamp => exact stops_timeOf text
  | bytes => exact (stops_bytesOf text).map fun _ own => own
  | _ => simp [valueOfText]

/-! ## Parts -/

theorem stops_scalarText (g : Graph) (fuel number : Nat) : Stops (scalarText g fuel number) := by
  fun_induction scalarText with
  | case4 => assumption
  | _ => simp

theorem stops_scalarPart (g : Graph) (number : Nat) : Stops (scalarPart g number) := by
  refine (stops_scalarText ..).bind fun text _ => ?_
  refine Gives.bind (Q := fun _ => True) ?_ fun _ _ => .ok trivial
  unfold scalarValue
  split
  · simp
  · exact stops_valueOfText ..

section Building
variable (b : Builder)

theorem stops_make (number : Nat) : Stops (b.make number) := by
  unfold Builder.make
  split
  · exact .ok trivial
  · exact .ok trivial
  · split
    · exact .stop trivial
    · exact .stop trivial
    · exact .stop trivial
    · exact (stops_scalarPart ..).map fun _ _ => trivial

theorem stops_makeAll (numbers : List Nat) : Stops (b.makeAll numbers) := stops_foldlM stops_make numbers b

theorem stops_addEntry (done : List (Nat × Nat)) (entry : Nat × Nat) : Stops (b.addEntry done entry) := by
  refine (stops_make b entry.1).bind fun b _ => ?_
  split
  · exact (stops_make b entry.2).bind fun _ _ => .ok trivial
  · exact .stop trivial

theorem stops_ownEntries (number : Nat) : Stops (b.ownEntries number) := by
  unfold Builder.ownEntries
  split
  · exact (stops_flattenFrom ..).bind fun _ _ => stops_foldlM (fun (b, done) entry => stops_addEntry b done entry) ..
  · exact .stop trivial

theorem stops_ownItems (number : Nat) : Stops (b.ownItems number) := by
  unfold Builder.ownItems
  split
  · exact .ok trivial
  · exact .stop trivial

theorem stops_addPair (done : List (Nat × Nat)) (item : Nat) : Stops (b.addPair done item) := by
  have only : Stops (b.onlyEntry item) := by
    unfold Builder.onlyEntry
    split
    · exact .ok trivial
    · exact .stop trivial
  exact only.bind fun _ _ => (stops_makeAll ..).bind fun _ _ => .ok trivial

theorem stops_fill (number : Nat) : Stops (b.fill number) := by
  unfold Builder.fill
  split
  · exact (stops_ownItems ..).bind fun _ _ => (stops_makeAll ..).bind fun _ _ => .ok trivial
  · refine (stops_ownItems ..).bind fun items _ => ?_
    exact (stops_foldlM (fun (b, done) item => stops_addPair b done item) ..).bind fun _ _ => .ok trivial
  · exact (stops_ownEntries ..).bind fun _ _ => .ok trivial
  · exact (stops_ownEntries ..).bind fun _ _ => .ok trivial
  · exact .ok trivial

theorem stops_fillAll (depths : Nat) : Stops (b.fillAll depths) := by
  induction depths generalizing b with
  | zero => exact .ok trivial
  | succ depths ih =>
    have filled := stops_foldlM stops_fill b.waiting.reverse { b with waiting := [] }
    unfold Builder.fillAll
    refine gives_ite.mpr ⟨fun _ => .ok trivial, fun _ => ?_⟩
    split
    · rename_i stopped
      exact .stop (filled.foreign stopped)
    · exact ih ..

end Building

theorem stops_document (g : RootedGraph) : Stops g.document :=
  (stops_make ..).bind fun _ _ => (stops_fillAll ..).bind fun _ _ => .ok trivial

/-- A text that is refused while it is read is refused with a fault that is none of the configuration. -/
theorem read_foreign {text : String} {fault : Fault} (refused : Document.read text = .error (.refused fault))
    (cause : ConfigFault) : fault ≠ .config cause := by
  have stops : Stops (Document.read text) := by
    have nodes := stops_readDocument (endForeign_tokens (unifyBreaks text.toList))
    unfold Document.read
    refine gives_ite.mpr ⟨fun _ => ?_, fun _ => .stop trivial⟩
    split
    · rename_i stopped
      exact .stop (nodes.foreign stopped)
    · exact .ok trivial
    · exact (stops_document _).map fun _ own => own
  exact stops.foreign refused cause

end TapeSheet.DocumentFaults
