import Marginalia.Calendar.Basic

/-!
The written forms of moments: the internet date and time with and without a fraction, the form
shown to readers, the plain date, and the form of mail headers.
-/

namespace Marginalia

namespace Moment

/-- A year on at least four places, with a minus sign below zero. -/
def yearText (year : Int) : Text :=
  (if year < 0 then "-" else "") ++ Text.padNat 4 year.natAbs

/-- The calendar date, as in `2006-01-02`. -/
def dateText (m : Moment) : Text :=
  let c := m.civil
  yearText c.year ++ "-" ++ Text.padNat 2 c.month ++ "-" ++ Text.padNat 2 c.day

/-- Hour and minute, as in `15:04`. -/
def minuteText (m : Moment) : Text :=
  let c := m.civil
  Text.padNat 2 c.hour ++ ":" ++ Text.padNat 2 c.minute

/-- The time of day, as in `15:04:05`. -/
def timeText (m : Moment) : Text := m.minuteText ++ ":" ++ Text.padNat 2 m.civil.second

/-- The fraction of a second with a point in front and no zeros at the end; empty for a whole
second. -/
def fractionText (m : Moment) : Text :=
  if m.nano == 0 then [] else '.' :: Text.stripRight (· == '0') (Text.padNat 9 m.nano)

/-- The clock's distance from universal time as hours and minutes, with `sep` between them. -/
def offsetText (m : Moment) (sep : Text) : Text :=
  let minutes := m.offset.natAbs / 60
  (if m.offset < 0 then "-" else "+") ++ Text.padNat 2 (minutes / 60) ++ sep
    ++ Text.padNat 2 (minutes % 60)

/-- The distance from universal time, written `Z` where there is none. -/
def zoneText (m : Moment) : Text := if m.offset == 0 then "Z" else m.offsetText ":"

/-- The internet date and time, as in `2006-01-02T15:04:05.5+02:00`. -/
def internetText (m : Moment) : Text :=
  m.dateText ++ "T" ++ m.timeText ++ m.fractionText ++ m.zoneText

/-- The internet date and time in universal time to the second. -/
def isoText (m : Moment) : Text := m.utc.dateText ++ "T" ++ m.utc.timeText ++ "Z"

/-- The form shown to readers: date, hour and minute in universal time. -/
def readerText (m : Moment) : Text := m.utc.dateText ++ " " ++ m.utc.minuteText

/-- The first three letters of the name at a place of a list. -/
def shortName (names : List String) (k : Nat) : Text :=
  (Text.ofString ((names[k]?).getD "")).take 3

/-- The form of mail headers, as in `Mon, 02 Jan 2006 15:04:05 -0700`. -/
def mailText (m : Moment) : Text :=
  let c := m.civil
  shortName Calendar.weekdays m.weekday ++ ", " ++ Text.padNat 2 c.day ++ " "
    ++ shortName Calendar.months (c.month - 1) ++ " " ++ yearText c.year ++ " " ++ m.timeText
    ++ " " ++ m.offsetText ""

end Moment

end Marginalia
