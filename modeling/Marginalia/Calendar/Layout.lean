import Marginalia.Calendar.Internet

/-!
Layouts by example. A layout shows how the instant of 2 January 2006, five seconds past 15:04 in the zone
`MST` seven hours behind universal time, would be written; what is no part of that instant stands for
itself. A text is read by going along its layout.
-/

namespace Marginalia

namespace Layout

/-! ### Fields -/

/-- How a distance from universal time is written. -/
inductive OffsetForm where
  | hours
  | plain
  | colon
  | plainSeconds
  | colonSeconds
deriving DecidableEq

/-- A part of a layout that stands for a part of a date. Those that are fixed have all their digits. -/
inductive Field where
  | longMonth
  | shortMonth
  | month ( fixed : Bool)
  | longWeekday
  | shortWeekday
  | day ( fixed : Bool)
  | paddedDay
  | yearDay ( fixed : Bool)
  | hour
  | halfHour ( fixed : Bool)
  | minute ( fixed : Bool)
  | second ( fixed : Bool)
  | longYear
  | shortYear
  | halfDay (upper : Bool)
  | zone
  | offset (form : OffsetForm) (zed : Bool)
  | fraction (digits : Nat)
  | someFraction
deriving DecidableEq

/-- The fields that have one spelling each, longer spellings first. -/
def spellings : List (Text × Field) :=
  [("January", .longMonth), ("Monday", .longWeekday), ("MST", .zone), ("01", .month true), ("02", .day true),
    ("03", .halfHour true), ("04", .minute true), ("05", .second true), ("06", .shortYear),
    ("002", .yearDay true), ("15", .hour), ("1", .month false), ("2006", .longYear), ("2", .day false),
    ("__2", .yearDay false), ("3", .halfHour false), ("4", .minute false), ("5", .second false),
    ("PM", .halfDay true), ("pm", .halfDay false), ("-070000", .offset .plainSeconds false),
    ("-07:00:00", .offset .colonSeconds false), ("-0700", .offset .plain false), ("-07:00", .offset .colon false),
    ("-07", .offset .hours false), ("Z070000", .offset .plainSeconds true),
    ("Z07:00:00", .offset .colonSeconds true), ("Z0700", .offset .plain true), ("Z07:00", .offset .colon true),
    ("Z07", .offset .hours true)]

/-- The short names, which no lower case letter may follow. -/
def shortNames : List (Text × Field) := [("Jan", .shortMonth), ("Mon", .shortWeekday)]

/-- A point and a run of one digit, zeros or nines, that no other digit follows. -/
def fractionField? (t : Text) : Option (Field × Text) :=
  match t with
  | p :: d :: rest =>
    if (p == '.' || p == ',') && (d == '0' || d == '9') then
      let (same, rest) := Text.span (· == d) rest
      if rest.head?.any Text.isDigit then none
      else some (if d == '0' then .fraction (same.length + 1) else .someFraction, rest)
    else none
  | _ => none

/-- The field at the head of a layout, and the rest. -/
def field? (t : Text) : Option (Field × Text) :=
  let spelled : Option (Field × Text) := spellings.findSome? fun (s, f) => (Text.after? t s).map fun rest => (f, rest)
  let named : Option (Field × Text) := shortNames.findSome? fun (s, f) =>
    match Text.after? t s with
    | some rest => if rest.head?.any Text.isLower then none else some (f, rest)
    | none => none
  let padded : Option (Field × Text) :=
    match Text.after? t "_2", Text.after? t "_2006" with
    | some rest, none => some (.paddedDay, rest)
    | _, _ => none
  spelled.orElse fun _ => named.orElse fun _ => padded.orElse fun _ => fractionField? t

/-- What comes before the first field of a layout, the field, and the rest. -/
def nextField : Text → Text × Option (Field × Text)
  | [] => ([], none)
  | c :: t =>
    match field? (c :: t) with
    | some found => ([], some found)
    | none => let (before, found) := nextField t; (c :: before, found)

/-! ### Reading values -/

/-- What has been read of a date. -/
structure Parts where
  year : Int := 0
  month : Option Nat := none
  day : Option Nat := none
  yearDay : Option Nat := none
  hour : Nat := 0
  minute : Nat := 0
  second : Nat := 0
  nano : Nat := 0
  /-- Was the second half of the day named, or the first? -/
  afternoon : Option Bool := none
  universal : Bool := false
  offset : Option Int := none
  zone : Text := []

/-- Reads past what stands for itself; a run of blanks fits any run of blanks. The number bounds the length
of the layout. -/
def skipLiteral : (fuel : Nat) → (value literal : Text) → Option Text
  | 0, value, _ => some value
  | _ + 1, value, [] => some value
  | fuel + 1, value, c :: t =>
    if c == ' ' then
      if value.head?.any (fun d : UInt8 => d != ' ') then none
      else skipLiteral fuel (Text.skip ' ' value) (Text.skip ' ' t)
    else match value with
      | d :: value => if c == d then skipLiteral fuel value t else none
      | [] => none

/-- A number of two digits, or of one if need not be fixed. -/
def number? ( fixed : Bool) (t : Text) : Option (Nat × Text) :=
  match t with
  | a :: b :: rest =>
    if !Text.isDigit a then none
    else if Text.isDigit b then some (Text.digitsValue 10 [a, b], rest)
    else if fixed then none
    else some (Text.digitsValue 10 [a], b :: rest)
  | [a] => if Text.isDigit a && !fixed then some (Text.digitsValue 10 [a], []) else none
  | [] => none

/-- A number of up to three digits. -/
def longNumber? ( fixed : Bool) (t : Text) : Option (Nat × Text) :=
  let digits := (t.take 3).takeWhile Text.isDigit
  if digits.isEmpty || (fixed && digits.length != 3) then none
  else some (Text.digitsValue 10 digits, t.drop digits.length)

/-- The place of the first name of a list with which a text begins, in any letter case, and the rest. -/
def name? (names : List Text) (t : Text) : Option (Nat × Text) :=
  (names.zipIdx).findSome? fun (name, k) => (Text.afterIgnoringCase? t (Text.lower name)).map fun rest => (k, rest)

def longMonths : List Text := Calendar.months.map Text.ofString

def shortMonths : List Text := longMonths.map (·.take 3)

def longWeekdays : List Text := Calendar.weekdays.map Text.ofString

def shortWeekdays : List Text := longWeekdays.map (·.take 3)

/-- The value of digits with or without a sign. -/
def signed? (t : Text) : Option Int :=
  match t with
  | c :: rest =>
    if c == '-' || c == '+' then
      if rest.all Text.isDigit then
        some (if c == '-' then -Int.ofNat (Text.digitsValue 10 rest) else Int.ofNat (Text.digitsValue 10 rest))
      else none
    else if t.all Text.isDigit then some (Int.ofNat (Text.digitsValue 10 t)) else none
  | [] => some 0

/-- The length of a distance in hours, such as `+3`, at the head of a text; zero if there is none. -/
def hoursLength (t : Text) : Nat :=
  match t with
  | c :: rest =>
    let digits := rest.takeWhile Text.isDigit
    if (c == '+' || c == '-') && !digits.isEmpty && Text.digitsValue 10 digits ≤ 23 then digits.length + 1 else 0
  | [] => 0

/-- The length of the abbreviation of a zone at the head of a text. -/
def zoneLength? (t : Text) : Option Nat :=
  if t.length < 3 then none
  else if Text.startsWith t "ChST" || Text.startsWith t "MeST" then some 4
  else if Text.startsWith t "GMT" then some (3 + hoursLength (t.drop 3))
  else if t.head? == some '+'.toUInt8 || t.head? == some '-'.toUInt8 then
    if hoursLength t == 0 then none else some (hoursLength t)
  else
    match ((t.take 6).takeWhile Text.isUpper).length with
    | 3 => some 3
    | 4 => if t[3]? == some 'T'.toUInt8 || Text.startsWith t "WITA" then some 4 else none
    | 5 => if t[4]? == some 'T'.toUInt8 then some 5 else none
    | _ => none

/-- The nanoseconds of a fraction with its point; digits beyond the ninth do not count. -/
def fractionNanos? (t : Text) : Option Nat :=
  match t with
  | p :: digits =>
    let digits := digits.take 9
    if (p == '.' || p == ',') && digits.all Text.isDigit then some (Moment.nanos digits) else none
  | [] => none

/-- Reads a distance from universal time. -/
def offset? (form : OffsetForm) (t : Text) : Option (Int × Text) := do
  let (layout, length) := match form with
    | .hours => ([1], 3)
    | .plain => ([1, 3], 5)
    | .colon => ([1, 4], 6)
    | .plainSeconds => ([1, 3, 5], 7)
    | .colonSeconds => ([1, 4, 7], 9)
  let colons := match form with
    | .colon => [3]
    | .colonSeconds => [3, 6]
    | _ => []
  if t.length < length || !colons.all fun k => t[k]? == some ':'.toUInt8 then none
  else
    let numbers ← layout.mapM fun k => (number? true ((t.drop k).take 2)).map (·.1)
    let hours := numbers.headD 0
    let minutes := (numbers[1]?).getD 0
    let seconds := (numbers[2]?).getD 0
    if 24 < hours || 60 < minutes || 60 < seconds then none
    else
      let size := Int.ofNat ((hours * 60 + minutes) * 60 + seconds)
      if t.head? == some '+'.toUInt8 then some (size, t.drop length)
      else if t.head? == some '-'.toUInt8 then some (-size, t.drop length)
      else none

/-- Reads one field; `rest` is the layout behind it. -/
def readField (field : Field) (rest : Text) (t : Text) (p : Parts) : Option (Parts × Text) :=
  match field with
  | .shortYear =>
    if t.length < 2 then none
    else (signed? (t.take 2)).map fun y => ({ p with year := if 69 ≤ y then y + 1900 else y + 2000 }, t.drop 2)
  | .longYear => (Moment.digits? 4 t).map fun (y, t) => ({ p with year := y }, t)
  | .shortMonth => (name? shortMonths t).map fun (k, t) => ({ p with month := some (k + 1) }, t)
  | .longMonth => (name? longMonths t).map fun (k, t) => ({ p with month := some (k + 1) }, t)
  | .month f =>
    match number? f t with
    | some (m, t) => if 1 ≤ m && m ≤ 12 then some ({ p with month := some m }, t) else none
    | none => none
  | .shortWeekday => (name? shortWeekdays t).map fun (_, t) => (p, t)
  | .longWeekday => (name? longWeekdays t).map fun (_, t) => (p, t)
  | .day f => (number? f t).map fun (d, t) => ({ p with day := some d }, t)
  | .paddedDay => (number? false (Text.dropStart t " ")).map fun (d, t) => ({ p with day := some d }, t)
  | .yearDay f =>
    let t := if f then t else Text.dropStart (Text.dropStart t " ") " "
    (longNumber? f t).map fun (d, t) => ({ p with yearDay := some d }, t)
  | .hour =>
    match number? false t with
    | some (h, t) => if h < 24 then some ({ p with hour := h }, t) else none
    | none => none
  | .halfHour f =>
    match number? f t with
    | some (h, t) => if h ≤ 12 then some ({ p with hour := h }, t) else none
    | none => none
  | .minute f =>
    match number? f t with
    | some (m, t) => if m < 60 then some ({ p with minute := m }, t) else none
    | none => none
  | .second f =>
    match number? f t with
    | none => none
    | some (s, t) =>
      if 60 ≤ s then none
      else
        let p := { p with second := s }
        let hasFraction := match (nextField rest).2 with
          | some (.fraction _, _) | some (.someFraction, _) => true
          | _ => false
        if hasFraction then some (p, t)
        else match Moment.fraction t with
          | (nano, left) => some (if left.length < t.length then { p with nano } else p, left)
  | .halfDay upper =>
    let word := t.take 2
    if word == (if upper then "PM" else "pm" : Text) then some ({ p with afternoon := some true }, t.drop 2)
    else if word == (if upper then "AM" else "am" : Text) then
      some ({ p with afternoon := if p.afternoon == some true then some true else some false }, t.drop 2)
    else none
  | .zone =>
    if Text.startsWith t "UTC" then some ({ p with universal := true }, t.drop 3)
    else (zoneLength? t).map fun n => ({ p with zone := t.take n }, t.drop n)
  | .offset form zed =>
    if zed && t.head? == some 'Z'.toUInt8 then some ({ p with universal := true }, t.drop 1)
    else (offset? form t).map fun (o, t) => ({ p with offset := some o }, t)
  | .fraction n =>
    if t.length < n + 1 then none
    else (fractionNanos? (t.take (n + 1))).map fun nano => ({ p with nano }, t.drop (n + 1))
  | .someFraction =>
    match Moment.fraction t with
    | (nano, left) => some (if left.length < t.length then { p with nano } else p, left)

/-- Reads a text along a layout; the number bounds the fields. -/
def readParts : (fuel : Nat) → (layout value : Text) → Parts → Option Parts
  | 0, _, _, _ => none
  | fuel + 1, layout, value, p =>
    let (before, found) := nextField layout
    match skipLiteral (before.length + 1) value before, found with
    | none, _ => none
    | some value, none => if value.isEmpty then some p else none
    | some value, some (field, rest) =>
      match readField field rest value p with
      | some (p, value) => readParts fuel rest value p
      | none => none

/-- The month and the day that the number of a day in its year gives, if they agree with those read. -/
def yearDate? (p : Parts) (n : Nat) : Option (Nat × Nat) :=
  let last := if Calendar.isLeap p.year then 366 else 365
  if n < 1 || last < n then none
  else
    let (month, day) := Calendar.monthDay p.year (n - 1)
    if p.month.all (· == month) && p.day.all (· == day) then some (month, day) else none

/-- The distance that the abbreviation of a zone names; it is known only for hours behind `GMT`. -/
def zoneOffset (zone : Text) : Int :=
  match Text.after? zone "GMT" with
  | some hours => (signed? hours).getD 0 * 3600
  | none => 0

/-- The moment that the parts of a date make. A zone without a distance moves the clock but not the instant. -/
def Parts.moment? (p : Parts) : Option Moment := do
  let (month, day) ← match p.yearDay with
    | some n => yearDate? p n
    | none => some (p.month.getD 1, p.day.getD 1)
  if day < 1 || Calendar.daysIn month p.year < day then none
  else
    let hour := match p.afternoon with
      | some true => if p.hour < 12 then p.hour + 12 else p.hour
      | some false => if p.hour == 12 then 0 else p.hour
      | none => p.hour
    let civil : Civil :=
      { year := p.year, month, day, hour, minute := p.minute, second := p.second, nano := p.nano }
    if p.universal then some (civil.moment 0)
    else match p.offset with
      | some o => some (civil.moment o)
      | none => some { civil.moment 0 with offset := zoneOffset p.zone }

/-- Reads a moment along a layout. -/
def read (layout value : Text) : Option Moment :=
  (readParts (layout.length + 1) layout value {}).bind Parts.moment?

end Layout

end Marginalia
