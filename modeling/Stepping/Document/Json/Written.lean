import Stepping.Schedule

/-!
# Schedules in JSON

A schedule is written as compact JSON: its segments, and its chunk size if it
has one.  Counts are written as plain decimal numbers.
-/

namespace Stepping.Document.Json

/-- The decimal digits of a count. -/
def written (count : Count) : List Char :=
  Nat.toDigits 10 count.toNat

/-- A segment in JSON. -/
def writtenSegment (segment : Segment) : List Char :=
  "\x7b\"member\":".toList ++ written segment.member
    ++ ",\"steps\":".toList ++ written segment.steps ++ ['}']

/-- Segments in JSON, separated by commas. -/
def writtenSegments : List Segment → List Char
  | [] => []
  | [segment] => writtenSegment segment
  | segment :: segments => writtenSegment segment ++ ',' :: writtenSegments segments

/-- The chunk size in JSON, behind a comma. -/
def writtenChunk : Option Count → List Char
  | none => []
  | some size => ",\"chunk\":".toList ++ written size

/-- A schedule in JSON. -/
def write (schedule : Schedule) : String :=
  String.ofList
    ("\x7b\"segments\":[".toList ++ writtenSegments schedule.segments ++ ']'
      :: writtenChunk schedule.chunk ++ ['}'])

end Stepping.Document.Json
