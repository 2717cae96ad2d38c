import TapeSheet.Proofs.Frames

/-!
# What the phases of a batch leave

Opening the summary makes it if it is not there, and gathers a header exactly then (`openSummary_ok`). Building a grid
leaves its file with the whole sheet, if nothing else is written there, and a line more in the log (`writeGrid_ok`).
-/

namespace TapeSheet.Building
open TapeSheet.Files TapeSheet.Sessions TapeSheet.Phases TapeSheet.Frames

/-! ## The summary -/

/-- The path of the summary in a directory. -/
def summaryPath (results : Path) : Path := results.join summaryName

/-- The header of a new summary as it is written. -/
def headerLine : String := "date_utc,grid,rows,cols,max_row,rule_count,min_accuracy,outfile\r\n"

theorem header_written : (Summary.record Summary.header).written = .ok headerLine := by rfl

section Summary
variable {o : BatchOptions} {a : Appender} {w after : World}

theorem holds_of_open {d after : Disk} {p : Path} {place : Location} (opened : d.openFile p = .ok (after, place)) :
    d.holds p = .ok (fileText? d place).isSome := by
  unfold Disk.openFile at opened
  unfold Disk.holds Disk.at? fileText?
  cases located : d.locate p with
  | error _ => rw [located] at opened; cases opened
  | ok found =>
    rw [located] at opened
    simp only at opened
    cases standing : d.entry? found with
    | none =>
      rw [standing] at opened
      cases opened
      simp [standing, Except.map]
    | some entry =>
      rw [standing] at opened
      cases entry with
      | directory => cases opened
      | file text =>
        cases opened
        simp [standing, Except.map]

theorem openSummary_ok (done : openSummary o w = .ok a after) :
    ∃ results, o.resultDirectory = .path results ∧ a.place = destination w.disk (summaryPath results) ∧
      Spares (· = a.place) w.disk after.disk ∧ after.disk.locate (summaryPath results) = .ok a.place ∧
      fileText? after.disk a.place = some (contents w.disk a.place) ∧
      a.gathered = if (fileText? w.disk a.place).isSome then "" else headerLine := by
  unfold openSummary at done
  obtain ⟨results, start, named, rest⟩ := bind_eq_ok done
  obtain ⟨asked, rfl⟩ := orDie_eq_ok named
  obtain ⟨_, made, makes, rest⟩ := bind_eq_ok rest
  have above := makeDirectories_spares w.disk results
  rw [onDisk_eq_ok makes] at above
  obtain ⟨d, same, look, rest⟩ := bind_eq_ok rest
  cases look
  obtain ⟨held, start, holds, rest⟩ := bind_eq_ok rest
  obtain ⟨isHeld, rfl⟩ := orDie_eq_ok holds
  have opens : ∀ header : String, (openForAdding (summaryPath results) >>= fun place =>
      (pure ⟨place, header⟩ : Session Appender)) made = .ok a after →
      made.disk.openFile (summaryPath results) = .ok (after.disk, a.place) ∧ a.gathered = header := by
    intro header run
    obtain ⟨place, opened, opening, ends⟩ := bind_eq_ok run
    cases ends
    exact ⟨openForAdding_ok opening, rfl⟩
  have both : made.disk.openFile (summaryPath results) = .ok (after.disk, a.place) ∧
      a.gathered = if held then "" else headerLine := by
    cases held with
    | true => exact opens "" rest
    | false =>
      obtain ⟨header, start, written, rest⟩ := bind_eq_ok rest
      obtain ⟨isHeader, rfl⟩ := orDie_eq_ok written
      obtain rfl := Except.ok.inj (header_written.symm.trans isHeader)
      exact opens headerLine rest
  obtain ⟨opened, gathered⟩ := both
  obtain ⟨isPlace, spares, located, standing⟩ := openFile_ok opened
  have isSome := Except.ok.inj ((holds_of_open opened).symm.trans isHeld)
  rw [above.files a.place id] at isSome
  refine ⟨results, asked_eq_ok asked, ?_, above.everywhere.trans spares, located, ?_, ?_⟩
  · exact isPlace.trans (destination_spares above _)
  · rw [standing, above.contents id]
  · rw [gathered, isSome]

end Summary

/-! ## Grids -/

section Grids
variable {now : Moment} {compiler : Compiler} {o : BatchOptions} {g : Grid} {s : Sheet} {outfile : Path}
  {w after : World}

theorem writeGrid_ok (done : writeGrid now compiler o g w = .ok (s, outfile) after) :
    ∃ log written, compiler (.int g.rows) (.int g.cols) (.int g.cap) = .ok s ∧ o.target g = .ok outfile ∧
      o.log = .path log ∧ w.disk.writeSheet outfile g.format s = (written, .ok ()) ∧
      written.logCompilation log now g.name s = (after.disk, .ok ()) := by
  obtain ⟨sheet, start, compiling, rest⟩ := bind_eq_ok done
  obtain ⟨compiled, rfl⟩ := orDie_eq_ok compiling
  obtain ⟨checked, start, checking, rest⟩ := bind_eq_ok rest
  obtain ⟨isChecked, rfl⟩ := orDie_eq_ok checking
  obtain ⟨path, start, aiming, rest⟩ := bind_eq_ok rest
  obtain ⟨target, rfl⟩ := orDie_eq_ok aiming
  obtain ⟨_, written, writing, rest⟩ := bind_eq_ok rest
  obtain ⟨_, logged, logging, ends⟩ := bind_eq_ok rest
  cases ends
  obtain rfl := checkNote_eq_ok isChecked
  obtain ⟨log, isLog, adds⟩ := addToLog_ok logging
  exact ⟨log, written.disk, compiled, target, isLog, onDisk_eq_ok writing, adds⟩

/-- A grid that was built was written, logged and recorded. -/
theorem buildGrid_ok {record : String} (done : buildGrid now compiler o g w = .ok record after) :
    ∃ s outfile between, writeGrid now compiler o g w = .ok (s, outfile) between ∧
      recordGrid now o g s outfile between = .ok record after ∧ after.disk = between.disk := by
  rw [buildGrid_eq] at done
  obtain ⟨⟨s, outfile⟩, between, written, recorded⟩ := bind_eq_ok done
  exact ⟨s, outfile, between, written, recorded, kept_ok (keeps_recordGrid now o g s outfile) recorded⟩

end Grids

end TapeSheet.Building
