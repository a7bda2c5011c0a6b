import Marginalia.Calendar.Sketch

/-!
Reading the date part of a text: from its signs and the lengths between them the order of year, month and
day is guessed. Where month and day could be either, the month comes first.
-/

namespace Marginalia

namespace Sketch

/-- Is the text up to a place the full name of a month? -/
def isFullMonth (s : Sketch) (i : Nat) : Bool :=
  (Layout.longMonths.map Text.lower).contains (Text.lower (s.slice 0 i))

/-- The letters that may begin the ending of an ordinal number. -/
def beginsOrdinal (c : Char) : Bool := "srtnSRTN".contains c

/-- The text without the ending of an ordinal number at a place. -/
def withoutOrdinal? (s : Sketch) (i : Nat) (c : Char) : Option Text :=
  let ending : Option Char := match c.toLower with
    | 't' => some 'h'
    | 'n' | 'r' => some 'd'
    | 's' => some 't'
    | _ => none
  match ending with
  | some e =>
    if (s.nextIs i e.toUInt8 || s.nextIs i e.toUpper.toUInt8) && i + 2 < s.size then
      some (s.slice 0 i ++ s.slice (i + 2) s.size)
    else none
  | none => none

/-- A day, a dash, a name, a dash and a year of four or two digits up to a place. -/
def readNamedDate (s : Sketch) (i : Nat) : Sketch :=
  let length := i - (s.month.start + s.month.length + 1)
  if length == 4 || length == 2 then
    let s := { s with year.length := length, day := ⟨0, s.lead⟩ }
    s.putYear.putDay
  else s

/-- Reads on from digits at the beginning; `i` is the place of `c`. -/
def stepDigits (s : Sketch) (i : Nat) (c : Char) : Progress :=
  let found (s : Sketch) : Progress := .on { s with lead := i } (i + 1)
  let yearFirst (s : Sketch) : Sketch := { s with year.length := i, month.start := i + 1 }.putYear
  let monthFirst (s : Sketch) : Sketch :=
    if s.month.length == 0 then { { s with month.length := i }.putMonth with day.start := i + 1 } else s
  if c == '-' || c == '\u2212' then
    if i == 4 then
      found ({ s with dateShape := .yearDash, year := ⟨0, i⟩, month.start := i + 1 }.put 0 "2006")
    else found { s with dateShape := .dayDash }
  else if c == '/' then
    if i == 4 then found { yearFirst s with dateShape := .yearSlash }
    else if i + 2 < s.size && (s.text[i + 1]?).any fun b => Text.isLetterChar (Char.ofNat b.toNat) then
      .on { s with dateShape := .daySlashName, month.start := i + 1, day := ⟨0, 2⟩ }.putDay (i + 1)
    else found (monthFirst { s with dateShape := .slash })
  else if c == ':' then
    let s := { s with dateShape := .colon }
    found (if i == 4 then yearFirst s else monthFirst s)
  else if c == '.' then
    let s := { s with dateShape := .point }
    found (if i == 4 then yearFirst s
      else { { s with month := ⟨0, i⟩ }.putMonth with day.start := i + 1 })
  else if c == ' ' then
    found (if i == 6 then { s with dateShape := .compact } else { s with dateShape := .dayBlank, day := ⟨0, i⟩ })
  else if c == '年' then found { s with dateShape := .yearSign }
  else if c == ',' then .unknown
  else .on s (i + 1)

/-- The short names of the days of the week. In front of a date they say nothing. -/
def shortWeekdays : List Text := Text.words "mon tue wed thu fri sat sun"

/-- Reads on from a word at the beginning. -/
def stepWord (s : Sketch) (i : Nat) (c : Char) : Progress :=
  if c == ' ' then
    if 3 < i then
      if s.isFullMonth i then
        let shape := if s.size - i < 10 then DateShape.longMonth else .longMonthMore
        .on { s with dateShape := shape, fullMonth := i, day.start := i + 1 } (i + 1)
      else .on s (i + 1)
    else if shortWeekdays.contains (Text.lower (s.slice 0 i)) then .restart (s.slice (i + 1) s.size)
    else .on { s with dateShape := .wordBlank } (i + 1)
  else if c == ',' then
    if i == 3 then .on ({ s with dateShape := .shortWeekdayComma }.put 0 "Mon") (i + 1)
    else .on { s with dateShape := .weekdayComma, skipped := i + 2 } (i + 2)
  else if c == '.' then
    if i == 3 then .on ({ s with dateShape := .monthPoint, month.length := i }.put 0 "Jan") (i + 1)
    else if i == 4 then .restart (s.slice 0 3 ++ s.slice 4 s.size)
    else .unknown
  else .on s (i + 1)

/-- Reads one character of the date part; `i` is the place of its last octet. -/
def stepDate (s : Sketch) (i : Nat) (c : Char) : Progress :=
  let go (s : Sketch) : Progress := .on s (i + 1)
  let shape (d : DateShape) : Sketch := { s with dateShape := d }
  let toTime (s : Sketch) : Sketch := { s with timeShape := .clock }
  match s.dateShape with
  | .start =>
    if Text.isDigitChar c then go (shape .digits)
    else if Text.isLetterChar c then go (shape .word)
    else .unknown
  | .digits => s.stepDigits i c
  | .compact => .halt (toTime (s.put 0 "060102")) (i - 1)
  | .yearDash =>
    if c == '-' then go { ((shape .yearDashDash).endMonth i).putMonth with day.start := i + 1 }
    else if Text.isLetterChar c then go (shape .yearDashName)
    else go s
  | .yearDashDash =>
    if c == '+' || c == '-' then go { ((shape .yearDashDashOffset).endDay i).putDay with offset := i }
    else if c == ' ' || c == 'T' then .halt (toTime ((shape .yearDashDashTime).endDay i).putDay) i
    else go s
  | .yearDashDashOffset => go (if c == ':' then s.put s.offset "-07:00" else s)
  | .yearDashName => go (if c == '-' then { (s.endMonth i).putMonthName with day.start := i + 1 } else s)
  | .dayDash =>
    if Text.isLetterChar c then go { shape .dayDashName with month.start := i } else .unknown
  | .dayDashName =>
    go (if c == '-' then { ((shape .dayDashNameDash).endMonth i).putMonthName with year.start := i + 1 } else s)
  | .dayDashNameDash => if c == ' ' then .halt (toTime (s.readNamedDate i)) i else go s
  | .yearSlash =>
    if c == ' ' || c == ':' then .halt (toTime (if s.day.length == 0 then (s.endDay i).putDay else s)) i
    else if c == '/' && s.month.length == 0 then go { (s.endMonth i).putMonth with day.start := i + 1 }
    else go s
  | .daySlashName =>
    if c == '/' && s.month.length == 0 then go { s.putMonthName with year.start := i + 1 }
    else if c == ' ' || c == ':' then .halt (toTime (if s.year.length == 0 then (s.endYear i).putYear else s)) i
    else go s
  | .slash =>
    if c == '/' && s.day.length == 0 then go { (s.endDay i).putDay with year.start := i + 1 }
    else if c == ' ' then .halt (toTime (if s.year.length == 0 then (s.endYear i).putYear else s)) i
    else go s
  | .colon =>
    if c == ' ' then
      .halt (toTime (if s.year.length == 0 then (s.endYear i).putYear
        else if s.day.length == 0 then (s.endDay i).putDay else s)) i
    else if c == ':' then
      if 0 < s.year.length then
        go (if s.month.length == 0 then { (s.endMonth i).putMonth with day.start := i + 1 } else s)
      else go (if s.day.length == 0 then { (s.endDay i).putDay with year.start := i + 1 } else s)
    else go s
  | .dayBlank =>
    if c == ' ' then
      let s := toTime { s with year.start := i + 1, day := ⟨0, s.lead⟩ }.putDay
      if s.day.length + 4 < i then go { s with dateShape := .dayLongMonth }
      else
        let start := s.day.length + 1
        go { s with dateShape := .dayMonth, month := ⟨start, i - start⟩ }.putMonthName
    else go s
  | .dayMonth =>
    if c == ',' then .halt (s.endYear i).putYear (i + 1)
    else if c == ' ' then .halt (s.endYear i).putYear i
    else go s
  | .yearSign => go (if c == ' ' then shape .yearSignTime else s)
  | .point =>
    if c == '.' then
      if s.month.start == 0 then go { ((shape .points).endDay i).putDay with year.start := i + 1 }
      else go { ((shape .points).endMonth i).putMonth with day.start := i + 1 }
    else go s
  | .word => s.stepWord i c
  | .wordBlank =>
    if Text.isLetterChar c then go (((shape .weekdayMonth).put 0 "Mon").put i "Jan")
    else if Text.isDigitChar c then go { (shape .monthDay).put 0 "Jan" with day.start := i }
    else go s
  | .weekdayMonth =>
    if c == ' ' then
      if 0 < s.day.start then
        go (toTime { ((shape .weekdayMonthMaybeYear).endDay i).putDay with year.start := i + 1 })
      else go s
    else if Text.isDigitChar c && s.day.start == 0 then go { s with day.start := i }
    else go s
  | .weekdayMonthMaybeYear =>
    if c == ':' then .halt { shape .weekdayMonth with year.start := 0 } (i - 3)
    else if c == ' ' then .halt (s.endYear i).putYear i
    else go s
  | .monthDay =>
    if c == ',' then go ((shape .monthDayComma).endDay i).putDay
    else if c == ' ' then
      go (toTime { ((shape .monthDayMaybeYear).endDay i).putDay with year.start := i + 1 })
    else if Text.isLetterChar c then .on (shape .ordinal) i
    else go s
  | .monthDayMaybeYear =>
    if c == ':' then .halt { shape .monthDay with year.start := 0 } (i - 3)
    else if c == ' ' then .halt (s.endYear i).putYear i
    else go s
  | .monthDayComma => go (if c == ' ' then { shape .monthDayYear with year.start := i + 1 } else s)
  | .monthDayYear =>
    if c == '\x27' then go { s with year.start := i + 1 }
    else if c == ' ' || c == ',' then .halt (toTime ((shape .monthDayYearTime).endYear i).putYear) i
    else go s
  | .longMonth =>
    if c == ' ' || c == ',' then go (if s.day.length == 0 then (s.endDay i).putDay else s)
    else if beginsOrdinal c then .on (shape .ordinal) i
    else go (if 0 < s.day.length && s.year.start == 0 then { s with year.start := i } else s)
  | .longMonthYear =>
    if c == ',' then .halt (toTime (s.endYear i).putYear) (i + 1)
    else if c == ' ' then .halt (toTime (s.endYear i).putYear) i
    else go s
  | .ordinal =>
    match s.withoutOrdinal? i c with
    | some t => .restart t
    | none => go s
  | .longMonthMore =>
    if c == ',' then
      if s.nextIs i ' ' then .on { ((shape .longMonthYear).endDay i).putDay with year.start := i + 2 } (i + 2)
      else go s
    else if c == ' ' then go { ((shape .longMonthYear).endDay i).putDay with year.start := i + 1 }
    else if Text.isDigitChar c then go s
    else if Text.isLetterChar c then .on ((shape .ordinal).endDay i).putDay i
    else go s
  | .monthPoint =>
    if c == ' ' then go s
    else if Text.isDigitChar c then go { shape .monthDay with day.start := i }
    else .unknown
  | .weekdayComma =>
    let s := if s.day.start == 0 then { s with day.start := i } else s
    if c == ' ' || c == '-' then
      if s.month.start == 0 then go { (s.endDay i).putDay with month.start := i + 1 }
      else if s.year.start == 0 then go { (s.endMonth i).putMonthName with year.start := i + 1 }
      else .halt (toTime s) i
    else go s
  | .shortWeekdayComma =>
    if c == ' ' || c == '-' then
      if s.day.start == 0 then go { s with day.start := i + 1 }
      else if s.month.start == 0 then go { (s.endDay i).putDay with month.start := i + 1 }
      else if s.year.start == 0 then go { (s.endMonth i).putMonthName with year.start := i + 1 }
      else .halt (toTime (s.endYear i).putYear) i
    else go s
  | .points | .dayLongMonth | .yearSignTime | .yearDashDashTime | .monthDayYearTime => go s

/-- Reads the date part from a place on. -/
def readDate : (fuel : Nat) → Sketch → (i : Nat) → Progress
  | 0, _, _ => .unknown
  | fuel + 1, s, i =>
    match Text.next? (s.slice i (i + 4)) with
    | none => .halt s s.size
    | some (symbol, _) =>
      match s.stepDate (i + symbol.octets.length - 1) symbol.toChar with
      | .on s next => readDate fuel s next
      | other => other

end Sketch

end Marginalia
