import TapeSheet.Disk

/-!
# Adding to a file in pieces

A file that is kept open for adding records gets them in pieces: records are gathered until they are many bytes, and
then go to the end of the file, wherever that is by then. The order of the records stays the same; other changes of the
file may come before those that are still gathered.
-/

namespace TapeSheet

/-- A file kept open for adding records, with those that are gathered for it. -/
structure Appender where
  place : Location
  gathered : String

namespace Appender

/-- Number of bytes from which on gathered records go to the file. -/
def pieceSize : Nat := 8192

/-- Adds the gathered records to the file. -/
def flush (d : Disk) (a : Appender) : Disk × Appender := (d.append a.place a.gathered, { a with gathered := "" })

/-- Adds a record. -/
def add (d : Disk) (a : Appender) (record : String) : Disk × Appender :=
  let a := { a with gathered := a.gathered ++ record }
  if pieceSize ≤ a.gathered.utf8ByteSize then flush d a else (d, a)

end Appender

end TapeSheet
