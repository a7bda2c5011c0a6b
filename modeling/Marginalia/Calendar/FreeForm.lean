import Marginalia.Calendar.DateReading
import Marginalia.Calendar.TimeReading

/-!
Dates in free form. The layout is guessed from the text, and the text is then read along it. Digits alone
count the seconds since 1970 or parts of them, or are a date without signs.
-/

namespace Marginalia

namespace Sketch

/-- What reading a text to its end gives. -/
inductive Outcome where
  | moment (m : Moment)
  /-- The text is to be read along the layout of the sketch. -/
  | layout (s : Sketch)
  | again (t : Text)
  | unknown

/-- The whole number of a text of digits, if it fits in 64 bits with a sign. -/
def count? (t : Text) : Option Int :=
  match Layout.signed? t with
  | some n => if -Text.signedLimit ≤ n && n < Text.signedLimit then some n else none
  | none => none

/-- The moment that lies a number of nanoseconds after the beginning of 1970; the number is kept in 64
bits. -/
def ofNanos (n : Int) : Moment :=
  let n := Int.bmod n (2 * Text.signedLimit)
  ⟨Int.fdiv n 1000000000, (Int.fmod n 1000000000).toNat, 0⟩

/-- Digits alone: a count of some unit, or a date without signs, as their number tells. -/
def ofDigits (s : Sketch) : Outcome :=
  let t := s.text.toList
  let counted (f : Int → Moment) : Outcome :=
    match count? t with
    | some n => .moment (f n)
    | none => .unknown
  let written (layout : Text) : Outcome := .layout { s with layout := layout.toArray }
  match t.length with
  | 19 => counted ofNanos
  | 16 => counted fun n => ofNanos (n * 1000)
  | 14 => written "20060102150405"
  | 13 => counted fun n => ofNanos (n * 1000000)
  | 10 => counted fun n => ⟨n, 0, 0⟩
  | 8 => written "20060102"
  | 4 => written "2006"
  | _ => .unknown

/-- Decides by the shape of the date, at the end of a text, whether its layout is known. -/
def conclude (s : Sketch) (i : Nat) : Outcome :=
  match s.dateShape with
  | .digits => s.ofDigits
  | .yearDashDashOffset =>
    .layout (match s.layout.size - s.offset with
      | 5 => s.put s.offset "-0700"
      | 6 => s.put s.offset "-07:00"
      | _ => s)
  | .yearDashName => .layout (s.endDay i).putDay
  | .dayDashNameDash => .layout (s.readNamedDate s.size)
  | .point => .layout (s.endMonth i).putMonth
  | .dayLongMonth =>
    let layout : Text := if s.day.length == 2 then "02 January 2006" else "2 January 2006"
    .layout { s with layout := layout.toArray }
  | .longMonth | .monthDayYear => .layout (s.endYear i).putYear
  | .yearSign => .layout { s with layout := (Text.ofString "2006年01月02日").toArray }
  | .yearSignTime => .layout { s with layout := (Text.ofString "2006年01月02日 15:04:05").toArray }
  | .compact | .yearDash | .yearDashDash | .yearDashDashTime | .points | .dayMonth | .longMonthYear
  | .monthDayYearTime | .weekdayMonth | .weekdayMonthMaybeYear | .monthDay | .monthDayMaybeYear | .slash
  | .daySlashName | .yearSlash | .colon | .weekdayComma | .shortWeekdayComma => .layout s
  | .start | .dayDash | .dayDashName | .dayBlank | .word | .wordBlank | .monthDayComma | .ordinal
  | .longMonthMore | .monthPoint => .unknown

/-- Reads a text to its end. -/
def sketch (t : Text) : Outcome :=
  let fuel := 2 * t.length + 8
  match readDate fuel (ofText t) 0 with
  | .restart t => .again t
  | .unknown | .on .. => .unknown
  | .halt s i =>
    let s := s.closeDate i
    if s.timeShape != .clock then s.conclude i
    else
      let i := if i < s.size then i + 1 else i
      let blanks := ((s.slice i s.size).takeWhile fun c : UInt8 => c == ' ').length
      match readTime fuel s (i + blanks) with
      | .restart t => .again t
      | .unknown | .on .. => .unknown
      | .halt s i =>
        match s.endTime i with
        | some s => (s.closeTime i).conclude i
        | none => .unknown

/-- Reads the text of a sketch along its layout. -/
def read (s : Sketch) : Option Moment :=
  let custom := s.dateShape == .digits || s.dateShape == .dayLongMonth || s.dateShape == .yearSign ||
    s.dateShape == .yearSignTime
  let value := if custom then s.text.toList else s.slice 0 s.layout.size
  let layout := s.layout.toList
  let layout := if 0 < s.fullMonth && s.month.start == 0 then "January" ++ layout.drop s.fullMonth else layout
  if 0 < s.skipped && s.skipped < layout.length then
    Layout.read (layout.drop s.skipped) (value.drop s.skipped)
  else Layout.read layout value

end Sketch

namespace Moment

/-- Reads a text, and forms of it that are easier to read; each is shorter or has fewer commas. -/
def parseWithin : (fuel : Nat) → Text → Option Moment
  | 0, _ => none
  | fuel + 1, t =>
    match Sketch.sketch t with
    | .moment m => some m
    | .layout s => s.read
    | .again t => parseWithin fuel t
    | .unknown => none

/-- Reads a date in free form. Without a zone it is taken for universal time. -/
def parseFreeForm? (t : Text) : Option Moment := parseWithin (2 * t.length + 2) t

end Moment

end Marginalia
