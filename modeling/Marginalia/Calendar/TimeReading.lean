import Marginalia.Calendar.Sketch

/-!
Reading the time part of a text: the clock, a fraction of a second, the half of the day, a zone, a distance
from universal time, or a year behind all that.
-/

namespace Marginalia

namespace Sketch

/-- Is the octet a letter when taken for a character? -/
def isLetterOctet (b : UInt8) : Bool := Text.isLetterChar (Char.ofNat b.toNat)

/-- The abbreviation of a zone from its place up to `i`, if it has three or four letters. -/
def putZone (s : Sketch) (i : Nat) : Sketch :=
  match i - s.zone with
  | 4 => s.put s.zone " MST"
  | 3 => s.put s.zone "MST"
  | _ => s

/-- Reads on from the clock. -/
def stepClock (s : Sketch) (i : Nat) (c : UInt8) : Progress :=
  let s := if s.hour.start == 0 then { s with hour.start := i } else s
  let go (s : Sketch) : Progress := .on s (i + 1)
  if c == ',' then .restart (s.slice 0 i ++ "." ++ s.slice (i + 1) s.size)
  else if c == '-' || c == '+' then
    let s := { s with timeShape := .offset, offset := i }
    if s.second.start == 0 then go { s with minute.length := i - s.minute.start }
    else
      let s := if s.second.length == 0 then { s with second.length := i - s.second.start } else s
      if 0 < s.fraction.start && s.fraction.length == 0 then
        go { s with fraction.length := i - s.fraction.start }
      else go s
  else if c == '.' then
    go { s with timeShape := .fraction, second.length := i - s.second.start, fraction.start := i + 1 }
  else if c == 'Z' then
    let s := { s with timeShape := .universal }
    go (if s.second.start == 0 then { s with minute.length := i - s.minute.start }
      else { s with second.length := i - s.second.start })
  else if (c == 'a' || c == 'A') && (s.nextIs i 't' || s.nextIs i 'T') then
    if s.nextIs (i + 1) ' ' then .on { s with hour.start := 0 } (i + 3) else .on s (i + 2)
  else if c == 'a' && s.nextIs i 'm' then go ((s.closeTime i).put i "am")
  else if c == 'p' && s.nextIs i 'm' then go ((s.closeTime i).put i "pm")
  else if (c == 'A' || c == 'P') && s.nextIs i 'M' then go ((s.closeTime i).put i "PM")
  else if c == ' ' then go { s.closeTime i with timeShape := .blank }
  else if c == ':' then
    if s.minute.start == 0 then go { s with minute.start := i + 1, hour.length := i - s.hour.start }
    else if s.second.start == 0 then go { s with second.start := i + 1, minute.length := i - s.minute.start }
    else
      let s := { s with second.length := i - s.second.start, fraction.start := i + 1 }
      let s := (s.put s.second.start "05").put i "."
      go { s with text := s.text.setIfInBounds i '.' }
  else go s

/-- Reads one octet of the time part. -/
def stepTime (s : Sketch) (i : Nat) (c : UInt8) : Progress :=
  let go (s : Sketch) : Progress := .on s (i + 1)
  let shape (d : TimeShape) : Sketch := { s with timeShape := d }
  let signed := c == '+' || c == '-'
  match s.timeShape with
  | .clock => s.stepClock i c
  | .offset => go (if c == ':' then shape .offsetColon else s)
  | .blank =>
    if c == 'A' || c == 'P' then go { shape .maybeHalfDay with zone := i }
    else if signed then go { shape .blankOffset with offset := i }
    else if isLetterOctet c then go { shape .name with zone := i }
    else if Text.isDigit c then go { shape .blankYear with year.start := i }
    else go s
  | .name =>
    if signed then go { (shape .nameOffset).putZone i with offset := i }
    else if c == ' ' then go { (shape .nameBlank).putZone i with year.start := i + 1 }
    else go s
  | .nameOffset =>
    if c == ' ' then
      let s := (shape .nameOffsetBlank).put s.offset "-0700"
      go (if s.year.start == 0 then { s with year.start := i + 1 } else s)
    else go s
  | .nameOffsetBlank =>
    if Text.isDigit c then go (shape .nameOffsetYear) else go ((shape .nameOffsetExtra).trimAt (i - 1))
  | .nameOffsetYear =>
    if Text.isDigit c then
      let s := s.endYear (i + 1)
      go (if s.year.length == 4 then s.putYear else s)
    else go s
  | .maybeHalfDay =>
    if c == 'M' then
      let s := (shape .halfDay).put (i - 1) "PM"
      go (match s.hour.length with
        | 2 => s.put s.hour.start "03"
        | 1 => s.put s.hour.start "3"
        | _ => s)
    else go (shape .name)
  | .blankOffset =>
    if c == ':' then go (shape .blankOffsetColon)
    else if c == ' ' then go { (shape .blankOffsetBlank).put s.offset "-0700" with year.start := i + 1 }
    else go s
  | .blankOffsetBlank =>
    if c == '=' then go (if s.text[i - 1]? == some 'm'.toUInt8 then s.trimAt (i - 2) else s)
    else if signed || c == '(' then go ((shape .blankOffset).trimAt (i - 1))
    else if Text.isDigit c then
      let s := s.endYear (i + 1)
      go (if s.year.length == 4 then s.putYear else s)
    else if isLetterOctet c && s.zone == 0 then go { s with zone := i }
    else go s
  | .blankOffsetColon => if isLetterOctet c then .halt (shape .finished) i else go s
  | .fraction =>
    let ended : Sketch := { s with fraction.length := i - s.fraction.start }
    if c == ' ' then go { ended with timeShape := .fractionBlank }
    else if signed then go { ended with timeShape := .fractionOffset, offset := i }
    else if isLetterOctet c then go { ended with timeShape := .fractionName }
    else go s
  | .fractionOffset => go (if c == ':' then shape .fractionOffsetColon else s)
  | .fractionOffsetColon =>
    go (if c == ' ' then { (shape .fractionOffsetZone).put s.offset "-07:00" with zone := i + 1 } else s)
  | .fractionBlank =>
    let s := if s.offset == 0 then { s with offset := i } else s
    if signed then
      go { s with timeShape := .fractionBlankOffset, fraction.length := i - s.fraction.start - 1 }
    else if isLetterOctet c then .halt { s with timeShape := .fractionName } i
    else go s
  | .fractionBlankOffset =>
    if c == ':' then go (shape .fractionBlankOffsetColon)
    else if c == ' ' then go (s.put s.offset "-0700")
    else if signed then go (s.trimAt (i - 1))
    else if isLetterOctet c then go (shape .fractionBlankOffsetName)
    else go s
  | .fractionBlankOffsetName =>
    go (if c == '=' && s.text[i - 1]? == some 'm'.toUInt8 then s.trimAt (i - 2) else s)
  | .fractionBlankOffsetColon =>
    if c == ' ' then go (s.put s.offset "-07:00")
    else if isLetterOctet c then go { shape .fractionBlankOffsetColonName with zone := i }
    else go s
  | .absent | .offsetColon | .nameBlank | .nameOffsetExtra | .halfDay | .blankYear | .fractionOffsetZone
  | .fractionName | .fractionBlankOffsetColonName | .universal | .finished => go s

/-- Reads the time part from a place on. -/
def readTime : (fuel : Nat) → Sketch → (i : Nat) → Progress
  | 0, _, _ => .unknown
  | fuel + 1, s, i =>
    match s.text[i]? with
    | none => .halt s (max i s.size)
    | some c =>
      match s.stepTime i c with
      | .on s next => readTime fuel s next
      | other => other

/-- Fits the layout to what stands at the end of the text; fails for a distance of a wrong length. -/
def endTime (s : Sketch) (i : Nat) : Option Sketch :=
  match s.timeShape with
  | .name =>
    match s.layout.size - s.zone with
    | 3 => some (s.put s.zone "MST")
    | 4 => some ((s.put s.zone "MST").trimAt (s.layout.size - 1))
    | _ => some s
  | .nameBlank | .blankYear => some (s.endYear i).putYear
  | .nameOffset => some (s.put s.offset (if i - s.offset < 4 then "-07" else "-0700"))
  | .fraction => some { s with fraction.length := i - s.fraction.start }
  | .offset =>
    match s.layout.size - s.offset with
    | 0 | 1 | 2 | 4 => none
    | 3 => some (s.put s.offset "-07")
    | 5 => some (s.put s.offset "-0700")
    | _ => some s
  | .blankOffset | .fractionOffset | .fractionBlankOffset => some (s.put s.offset "-0700")
  | .blankOffsetBlank =>
    if 0 < s.zone then
      match s.layout.size - s.zone with
      | 3 => some (s.put s.zone "MST")
      | 4 => some (s.put s.zone "MST ")
      | _ => some s
    else some s
  | .blankOffsetColon | .offsetColon | .fractionOffsetColon => some (s.put s.offset "-07:00")
  | .fractionBlankOffsetColonName =>
    match i - s.zone with
    | 3 => some (s.put s.zone "MST")
    | 4 => some (s.put s.zone "MST ")
    | _ => some s
  | _ => some s

end Sketch

end Marginalia
