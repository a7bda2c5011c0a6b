import Marginalia.Calendar.Basic

/-!
Reading the internet date and time, as in `2006-01-02T15:04:05.5+02:00`.
-/

namespace Marginalia

namespace Moment

/-- A number of `width` digits and the rest. -/
def digits? (width : Nat) (t : Text) : Option (Nat × Text) :=
  if (t.take width).length == width && (t.take width).all Text.isDigit then
    some (Text.digitsValue 10 (t.take width), t.drop width)
  else none

/-- One octet. -/
def octet? (c : UInt8) : Text → Option Text
  | [] => none
  | d :: t => if c == d then some t else none

/-- The nanoseconds that a run of digits behind the point writes; digits beyond the ninth do not
count. -/
def nanos (ds : Text) : Nat :=
  Text.digitsValue 10 ((ds ++ List.replicate 9 '0'.toUInt8).take 9)

/-- A fraction of a second, if one follows, and the rest. -/
def fraction (t : Text) : Nat × Text :=
  match t with
  | c :: d :: rest =>
    if (c == '.' || c == ',') && Text.isDigit d then
      (nanos ((d :: rest).takeWhile Text.isDigit), (d :: rest).dropWhile Text.isDigit)
    else (0, t)
  | _ => (0, t)

/-- The distance from universal time at the end of a text. -/
def zone? (t : Text) : Option Int :=
  match t with
  | [] => none
  | c :: rest =>
    if c == 'Z' then if rest.isEmpty then some 0 else none
    else if c == '+' || c == '-' then do
      let (hours, rest) ← digits? 2 rest
      let rest ← octet? ':' rest
      let (minutes, rest) ← digits? 2 rest
      if rest.isEmpty && hours ≤ 24 && minutes ≤ 60 then
        let size : Int := (hours * 60 + minutes) * 60
        some (if c == '-' then -size else size)
      else none
    else none

/-- An hour of one or two digits. -/
def hour? (t : Text) : Option (Nat × Text) := (digits? 2 t).orElse fun _ => digits? 1 t

/-- Reads an internet date and time. -/
def parseInternet? (t : Text) : Option Moment := do
  let (year, t) ← digits? 4 t
  let t ← octet? '-' t
  let (month, t) ← digits? 2 t
  let t ← octet? '-' t
  let (day, t) ← digits? 2 t
  let t ← octet? 'T' t
  let (hour, t) ← hour? t
  let t ← octet? ':' t
  let (minute, t) ← digits? 2 t
  let t ← octet? ':' t
  let (second, t) ← digits? 2 t
  let (nano, t) := fraction t
  let offset ← zone? t
  if 1 ≤ month && month ≤ 12 && 1 ≤ day && day ≤ Calendar.daysIn month year && hour < 24
      && minute < 60 && second < 60 then
    some ({ year, month, day, hour, minute, second, nano : Civil }.moment offset)
  else none

end Moment

end Marginalia
