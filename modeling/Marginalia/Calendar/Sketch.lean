import Marginalia.Calendar.Layout
import Marginalia.Text.Symbols
import Marginalia.Text.Digits

/-!
A sketch of a date whose layout is not known. The layout starts as the text itself, and each part of the
date that is found is replaced in it by the part of the example.
-/

namespace Marginalia

/-- Where a part of a date stands; place zero is also that of a part not yet found. -/
structure Part where
  start : Nat := 0
  length : Nat := 0
deriving Repr, Inhabited

/-- What the date part of a text looks like so far. -/
inductive DateShape where
  | start
  | digits
  | compact
  | yearDash
  | yearDashName
  | yearDashDash
  | yearDashDashTime
  | yearDashDashOffset
  | dayDash
  | dayDashName
  | dayDashNameDash
  | point
  | points
  | slash
  | yearSlash
  | daySlashName
  | colon
  | yearSign
  | yearSignTime
  | dayBlank
  | dayMonth
  | dayLongMonth
  | word
  | wordBlank
  | monthDay
  | monthDayComma
  | monthDayYear
  | monthDayYearTime
  | monthDayMaybeYear
  | longMonth
  | longMonthMore
  | longMonthYear
  | ordinal
  | weekdayMonth
  | weekdayMonthMaybeYear
  | monthPoint
  | weekdayComma
  | shortWeekdayComma
deriving DecidableEq, Repr

/-- What the time part of a text looks like so far. -/
inductive TimeShape where
  | absent
  | clock
  | offset
  | offsetColon
  | blank
  | name
  | nameBlank
  | nameOffset
  | nameOffsetBlank
  | nameOffsetYear
  | nameOffsetExtra
  | maybeHalfDay
  | halfDay
  | blankOffset
  | blankOffsetBlank
  | blankOffsetColon
  | blankYear
  | fraction
  | fractionOffset
  | fractionOffsetColon
  | fractionOffsetZone
  | fractionBlank
  | fractionName
  | fractionBlankOffset
  | fractionBlankOffsetName
  | fractionBlankOffsetColon
  | fractionBlankOffsetColonName
  | universal
  | finished
deriving DecidableEq, Repr

/-- A text, the layout found for it so far, and the places of the parts. -/
structure Sketch where
  text : Array UInt8
  /-- The layout; it is as long as what counts of the text. -/
  layout : Array UInt8
  dateShape : DateShape := .start
  timeShape : TimeShape := .absent
  year : Part := {}
  month : Part := {}
  day : Part := {}
  hour : Part := {}
  minute : Part := {}
  second : Part := {}
  fraction : Part := {}
  zone : Nat := 0
  offset : Nat := 0
  /-- How much at the beginning does not count. -/
  skipped : Nat := 0
  /-- The length of the first part. -/
  lead : Nat := 0
  /-- The length of a full name of a month at the beginning. -/
  fullMonth : Nat := 0

namespace Sketch

/-- The sketch of a text of which nothing is known. -/
def ofText (t : Text) : Sketch := { text := t.toArray, layout := t.toArray }

def size (s : Sketch) : Nat := s.text.size

/-- Does the octet `c` follow the place? -/
def nextIs (s : Sketch) (i : Nat) (c : UInt8) : Bool := (s.text.take s.layout.size)[i + 1]? == some c

/-- The text from one place to another. -/
def slice (s : Sketch) (i j : Nat) : Text := (s.text.extract i j).toList

/-- Writes an example at a place of the layout, if there is room for it. -/
def put (s : Sketch) (start : Nat) (sample : Text) : Sketch :=
  if s.layout.size < start + sample.length then s
  else { s with layout := s.layout.take start ++ sample.toArray ++ s.layout.drop (start + sample.length) }

def putMonth (s : Sketch) : Sketch :=
  match s.month.length with
  | 2 => s.put s.month.start "01"
  | 1 => s.put s.month.start "1"
  | _ => s

def putDay (s : Sketch) : Sketch :=
  match s.day.length with
  | 2 => s.put s.day.start "02"
  | 1 => s.put s.day.start "2"
  | _ => s

def putYear (s : Sketch) : Sketch :=
  match s.year.length with
  | 2 => s.put s.year.start "06"
  | 4 => s.put s.year.start "2006"
  | _ => s

/-- The name of a month at its place. -/
def putMonthName (s : Sketch) : Sketch := s.put s.month.start "Jan"

def endMonth (s : Sketch) (i : Nat) : Sketch := { s with month.length := i - s.month.start }

def endDay (s : Sketch) (i : Nat) : Sketch := { s with day.length := i - s.day.start }

def endYear (s : Sketch) (i : Nat) : Sketch := { s with year.length := i - s.year.start }

/-- Ends the parts of the date that are still open. -/
def closeDate (s : Sketch) (i : Nat) : Sketch :=
  let s := if 0 < s.year.start then (if s.year.length == 0 then s.endYear i else s).putYear else s
  let s := if 0 < s.month.start && s.month.length == 0 then (s.endMonth i).putMonth else s
  if 0 < s.day.start && s.day.length == 0 then (s.endDay i).putDay else s

/-- Ends the parts of the time that are still open. -/
def closeTime (s : Sketch) (i : Nat) : Sketch :=
  let s := if 0 < s.hour.start then
      match s.hour.length with
      | 2 => s.put s.hour.start "15"
      | 1 => s.put s.hour.start "3"
      | _ => s
    else s
  let s := if 0 < s.minute.start then
      let s := if s.minute.length == 0 then { s with minute.length := i - s.minute.start } else s
      s.put s.minute.start (if s.minute.length == 2 then "04" else "4")
    else s
  let s := if 0 < s.second.start then
      let s := if s.second.length == 0 then { s with second.length := i - s.second.start } else s
      s.put s.second.start (if s.second.length == 2 then "05" else "5")
    else s
  if 0 < s.fraction.start then s.put s.fraction.start (List.replicate s.fraction.length '0'.toUInt8) else s

/-- Drops the text and the layout from a place on. -/
def trimAt (s : Sketch) (i : Nat) : Sketch :=
  if 0 < i && i < s.layout.size then { s with layout := s.layout.take i } else s

end Sketch

/-- How a reading of a date goes on. -/
inductive Progress where
  /-- On to another place. -/
  | on (s : Sketch) (next : Nat)
  /-- The part is over. -/
  | halt (s : Sketch) (place : Nat)
  /-- The text is read again in another form. -/
  | restart (t : Text)
  | unknown

end Marginalia
