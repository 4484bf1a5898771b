import RoleSync.Sql.Printf
/-!
Dates and times, as the date and time functions read, shift and write them.

A moment is held as a Julian day in milliseconds (86400000 times the days since noon of
-4713-11-24), as a calendar date and a clock time, or as both. Each part is marked when it is
known, and a function that needs a part it lacks computes it from the other. Years run from
-4713 to 9999; a moment outside that range gives NULL.

The first argument gives the moment. It may be a date `YYYY-MM-DD`, with an optional time after
blanks or a `T`. It may be a time `HH:MM[:SS[.SSS]]` alone, which falls on 2000-01-01. Either
form may end in a zone, `±HH:MM` or `Z`. It may also be the word `now`, or a number. A number
counts Julian days until a modifier says it counts seconds since 1970.

Each modifier after it changes the moment:
- shift it by an amount of days, hours, minutes, seconds, months or years, or by a clock time
  or a calendar difference;
- move it to the start of its day, month or year, or forward to a weekday;
- say how a number is read;
- ask for fractions of a second in the output.
An argument that cannot be read gives NULL.

The clock stands still: `now` is one fixed instant, the same one the cache's expiry reads, and
the local time zone is UTC.
-/

namespace RoleSync.Sql

set_option autoImplicit false

namespace DateTime

/-- The instant that `now` reads, in milliseconds since 1970-01-01 00:00:00. -/
def nowUnixMs : Int := 1790000000000

/-- The Julian day, in milliseconds, of 1970-01-01 00:00:00. -/
def unixEpochJd : Int := 210866760000000

/-- The last Julian day in milliseconds that the functions accept: 9999-12-31 23:59:59.999. -/
def maxJd : Int := 464269060799999

/-- Whether a Julian day in milliseconds lies in the range the functions accept. -/
def validJd (jd : Int) : Bool := 0 ≤ jd && jd ≤ maxJd

/-- A moment being read. Each of the Julian day, the calendar date, the clock time and the
zone is marked when it is known; the fields of a part that is not known keep whatever they
held. -/
structure Moment where
  /-- The Julian day in milliseconds. -/
  jd : Int := 0
  year : Int := 0
  month : Int := 0
  day : Int := 0
  hour : Int := 0
  minute : Int := 0
  /-- The seconds with their fraction; a bare number read as the argument, while `raw`. -/
  second : Float := 0
  /-- The offset of the zone the date and time were written in, in minutes east. -/
  zone : Int := 0
  hasJd : Bool := false
  hasDate : Bool := false
  hasTime : Bool := false
  hasZone : Bool := false
  /-- The argument was a bare number, held in `second` until a modifier says what it counts. -/
  raw : Bool := false
  /-- The moment is known to be in UTC. -/
  utc : Bool := false
  /-- The moment is known to be in local time. -/
  inLocal : Bool := false
  /-- Output shows fractions of a second. -/
  subsec : Bool := false
  /-- How many days the day of the month runs past the end of its month. -/
  overflow : Int := 0
  /-- A computation left the range of years. -/
  failed : Bool := false

/-- The moment a computation that left the range of years leaves: nothing known. -/
def Moment.failure : Moment := { failed := true }

/-- The current moment. -/
def Moment.current : Moment :=
  { jd := unixEpochJd + nowUnixMs, hasJd := true, utc := true }

/-- A bare number as the argument: a Julian day when it is one the functions accept. -/
def Moment.ofNumber (r : Float) : Moment :=
  if 0 ≤ r && r < 5373484.5 then
    { second := r, raw := true, jd := Double.truncate (r * 86400000.0 + 0.5), hasJd := true }
  else { second := r, raw := true }

/-- Forgets the calendar date, the clock time and the zone. -/
def Moment.clearParts (p : Moment) : Moment :=
  { p with hasDate := false, hasTime := false, hasZone := false }

/-- Whether a year has a 29th of February. -/
def isLeapYear (y : Int) : Bool := y.tmod 4 = 0 && (y.tmod 100 ≠ 0 || y.tmod 400 = 0)

/-- How many days a day of a month runs past the end of the month. -/
def overflowDays (y m d : Int) : Int :=
  if d ≤ 28 then 0
  else if [1, 3, 5, 7, 8, 10, 12].contains m then 0
  else if m ≠ 2 then (if d = 31 then 1 else 0)
  else if isLeapYear y then d - 29
  else d - 28

/-- Sets the calendar date, with how far it runs past the end of its month. -/
def Moment.setDate (p : Moment) (y m d : Int) : Moment :=
  { p with year := y, month := m, day := d, overflow := overflowDays y m d }

/-- The constant 122.1 of the calendar conversion. -/
def yearShift : Float := Double.ofRatio false 1221 10

/-- The constant 30.6001 of the calendar conversion. -/
def monthLength : Float := Double.ofRatio false 306001 10000

/-- Computes the Julian day from the calendar date (2000-01-01 when none is known) and the
clock time, and the zone when there is one. -/
def Moment.computeJd (p : Moment) : Moment :=
  if p.hasJd then p
  else
    let (y, m, d) := if p.hasDate then (p.year, p.month, p.day) else (2000, 1, 1)
    if y < -4713 || 9999 < y || p.raw then Moment.failure
    else
      let (y, m) := if m ≤ 2 then (y - 1, m + 12) else (y, m)
      let a := y.tdiv 100
      let b := 2 - a + a.tdiv 4
      let x1 := (36525 * (y + 4716)).tdiv 100
      let x2 := (306001 * (m + 1)).tdiv 10000
      let jd := Double.truncate ((Double.ofInt (x1 + x2 + d + b) - 1524.5) * 86400000.0)
      let p := { p with jd, hasJd := true }
      if p.hasTime then
        let p := { p with
          jd := p.jd + (p.hour * 3600000 + p.minute * 60000) +
            Double.truncate (p.second * 1000.0 + 0.5) }
        if p.hasZone then { p.clearParts with jd := p.jd - p.zone * 60000 } else p
      else p

/-- Computes the calendar date from the Julian day (2000-01-01 when none is known). -/
def Moment.computeDate (p : Moment) : Moment :=
  if p.hasDate then p
  else if !p.hasJd then { p with year := 2000, month := 1, day := 1, hasDate := true }
  else if !validJd p.jd then Moment.failure
  else
    let z := (p.jd + 43200000).tdiv 86400000
    let alpha := Double.truncate ((Double.ofInt z + 32044.75) / 36524.25) - 52
    let a := z + 1 + alpha - (alpha + 100).tdiv 4 + 25
    let b := a + 1524
    let c := Double.truncate ((Double.ofInt b - yearShift) / 365.25)
    let d : Int := (36525 * (c.toNat % 32768) / 100 : Nat)
    let e := Double.truncate (Double.ofInt (b - d) / monthLength)
    let x1 := Double.truncate (monthLength * Double.ofInt e)
    let month := if e < 14 then e - 1 else e - 13
    { p with year := if 2 < month then c - 4716 else c - 4715, month, day := b - d - x1,
             hasDate := true }

/-- Computes the clock time from the Julian day. -/
def Moment.computeTime (p : Moment) : Moment :=
  if p.hasTime then p
  else
    let p := p.computeJd
    let dayMs := (p.jd + 43200000).tmod 86400000
    let dayMin := dayMs.tdiv 60000
    { p with second := Double.ofInt (dayMs.tmod 60000) / 1000.0, minute := dayMin.tmod 60,
             hour := dayMin.tdiv 60, raw := false, hasTime := true }

/-- Computes both the calendar date and the clock time. -/
def Moment.computeParts (p : Moment) : Moment := p.computeDate.computeTime

/-- Reads exactly some digits at the front of a text as a number within bounds. -/
def digitsWithin (count lo hi : Nat) (cs : List Char) : Option (Int × List Char) :=
  let ds := cs.take count
  if ds.length = count && ds.all isDigit then
    let v := ds.foldl (fun a c => 10 * a + (c.toNat - 48)) 0
    if lo ≤ v && v ≤ hi then some (v, cs.drop count) else none
  else none

/-- Reads `HH:MM` with the given bound on the hours, answering both and what follows. -/
def hoursMinutes (most : Nat) (cs : List Char) : Option (Int × Int × List Char) := do
  let (h, rest) ← digitsWithin 2 0 most cs
  match rest with
  | ':' :: rest =>
    let (m, rest) ← digitsWithin 2 0 59 rest
    some (h, m, rest)
  | _ => none

/-- Reads what may follow a time: blanks, an optional zone `±HH:MM` or `Z`, and blanks to the
end. -/
def readZone (p : Moment) (cs : List Char) : Option Moment :=
  let p := { p with zone := 0 }
  match cs.dropWhile isAsciiBlank with
  | [] => some p
  | c :: rest =>
    if c = '-' || c = '+' then do
      let (h, m, rest) ← hoursMinutes 14 rest
      if (rest.dropWhile isAsciiBlank).isEmpty then
        some { p with zone := (if c = '-' then -1 else 1) * (m + h * 60) }
      else none
    else if c = 'Z' || c = 'z' then
      if (rest.dropWhile isAsciiBlank).isEmpty then some { p with inLocal := false, utc := true }
      else none
    else none

/-- The fraction that digits after a point stand for, at most 0.999, so that rounding to
milliseconds never carries into the next second. -/
def fractionOf (ds : List Char) : Float :=
  let (num, scale) := ds.foldl (fun (acc : Float × Float) c =>
    (acc.1 * 10.0 + Double.ofInt c.toNat - 48.0, acc.2 * 10.0)) (0, 1)
  let f := num / scale
  let most := Double.ofRatio false 999 1000
  if most < f then most else f

/-- Reads a clock time `HH:MM[:SS[.SSS]]` and an optional zone, to the end of the text. -/
def readClock (p : Moment) (cs : List Char) : Option Moment := do
  let (h, m, rest) ← hoursMinutes 24 cs
  let (s, rest) ← match rest with
    | ':' :: rest => do
      let (s, rest) ← digitsWithin 2 0 59 rest
      match rest with
      | '.' :: d :: more =>
        if isDigit d then
          let ds := (d :: more).takeWhile isDigit
          some (Double.ofInt s + fractionOf ds, (d :: more).drop ds.length)
        else some (Double.ofInt s, rest)
      | _ => some (Double.ofInt s, rest)
    | _ => some (0, rest)
  let p ← readZone { p with hasJd := false, raw := false, hasTime := true, hour := h,
                            minute := m, second := s } rest
  some { p with hasZone := p.zone ≠ 0 }

/-- Reads a date `YYYY-MM-DD`, optionally negative, and an optional time after blanks or `T`. -/
def readDate (p : Moment) (cs : List Char) : Option Moment := do
  let (negative, cs) := match cs with
    | '-' :: rest => (true, rest)
    | rest => (false, rest)
  let (y, rest) ← digitsWithin 4 0 14712 cs
  let rest ← match rest with
    | '-' :: rest => some rest
    | _ => none
  let (m, rest) ← digitsWithin 2 1 12 rest
  let rest ← match rest with
    | '-' :: rest => some rest
    | _ => none
  let (d, rest) ← digitsWithin 2 1 31 rest
  let rest := rest.dropWhile fun c => isAsciiBlank c || c = 'T'
  let p ← match readClock p rest with
    | some p => some p
    | none => if rest.isEmpty then some { p with hasTime := false } else none
  let p := { (p.setDate (if negative then -y else y) m d) with hasJd := false, hasDate := true }
  some (if p.hasZone then p.computeJd else p)

/-- Whether a whole text, blanks around it aside, is a number; answers its value. -/
def wholeNumber? (cs : List Char) : Option Float :=
  let n := readNumeral cs
  if n.isWhole then some n.toReal else none

/-- Reads the text of the first argument: a date, a time, `now`, a number, or `subsec`, which
is `now` with fractions of a second shown. -/
def readMoment (cs : List Char) : Option Moment :=
  match readDate {} cs with
  | some p => some p
  | none =>
    match readClock {} cs with
    | some p => some p
    | none =>
      let word := foldAscii (String.ofList cs)
      if word = "now" then some Moment.current
      else
        match wholeNumber? cs with
        | some r => some (Moment.ofNumber r)
        | none =>
          if word = "subsec" || word = "subsecond" then some { Moment.current with subsec := true }
          else none

/-- The moment in local time, which is UTC. Years outside 1970 to 2037 are first moved by a
whole number of four-year cycles, as the system calendar is only asked about those. -/
def Moment.toLocal (p : Moment) : Moment :=
  let p := p.computeJd
  let inRange := 210866760000000 ≤ p.jd && p.jd ≤ 213014145600000
  let (yearDiff, jd) :=
    if inRange then ((0 : Int), p.jd)
    else
      let x := p.computeParts
      let yearDiff := (2000 + x.year.tmod 4) - x.year
      (yearDiff, ({ x with year := x.year + yearDiff, hasJd := false }).computeJd.jd)
  let t := jd.tdiv 1000 - unixEpochJd / 1000
  -- the civil date of t seconds since 1970
  let days := t.fdiv 86400
  let secs := t - days * 86400
  let z := days + 719468
  let era := z.fdiv 146097
  let doe := z - era * 146097
  let yoe := (doe - doe / 1460 + doe / 36524 - doe / 146096) / 365
  let doy := doe - (365 * yoe + yoe / 4 - yoe / 100)
  let mp := (5 * doy + 2) / 153
  let d := doy - (153 * mp + 2) / 5 + 1
  let m := if mp < 10 then mp + 3 else mp - 9
  let y := yoe + era * 400 + (if m ≤ 2 then 1 else 0)
  { p with year := y - yearDiff, month := m, day := d, hour := secs / 3600,
           minute := (secs % 3600) / 60,
           second := Double.ofInt (secs % 60) + Double.ofInt (p.jd.tmod 1000) * Double.ofRatio false 1 1000,
           hasDate := true, hasTime := true, hasJd := false, raw := false, hasZone := false,
           failed := false }

/-- The moment in UTC, taking it as local time: the UTC moment whose local time it is, found
by correcting a guess a few times. -/
def Moment.toUtc (p : Moment) : Moment :=
  let p := p.computeJd
  let orig := p.jd
  let rec settle : Nat → Int → Int → Int
    | 0, guess, _ => guess
    | n + 1, guess, err =>
      let guess := guess - err
      let back := (({ jd := guess, hasJd := true } : Moment).toLocal).computeJd.jd
      if back - orig = 0 then guess else settle n guess (back - orig)
  { jd := settle 4 orig 0, hasJd := true, utc := true }

/-- The units an amount may be given in, with the bound on the amount and the seconds in one. -/
def units : List (String × Float × Float) :=
  [("second", Double.ofRatio false 464269992787968 1, 1.0),
   ("minute", Double.ofRatio false 7737900007424 1, 60.0),
   ("hour", Double.ofRatio false 128969998336 1, 3600.0),
   ("day", 5373485.0, 86400.0),
   ("month", 176546.0, 2592000.0),
   ("year", 14713.0, 31536000.0)]

/-- Normalizes a month number into 1 to 12, carrying whole years. -/
def Moment.carryMonths (p : Moment) : Moment :=
  let x := if 0 < p.month then (p.month - 1).tdiv 12 else (p.month - 12).tdiv 12
  { p with year := p.year + x, month := p.month - x * 12 }

/-- Shifts a moment by an amount of a unit. Whole months and years move the calendar date,
and any fraction of them counts 30 days a month and 365 days a year. -/
def Moment.shiftBy (p : Moment) (r : Float) (unit : String) : Option Moment :=
  let p := { p.computeJd with overflow := 0 }
  let rounder : Float := if r < 0 then -0.5 else 0.5
  match units.find? fun (name, limit, _) => name = unit && -limit < r && r < limit with
  | some (_, _, scale) =>
    let whole := Double.truncate r
    let (p, r) :=
      if unit = "month" then
        let p := { p.computeParts with month := p.computeParts.month + whole }.carryMonths
        ({ p.setDate p.year p.month p.day with hasJd := false }, r - Double.ofInt whole)
      else if unit = "year" then
        let q := p.computeParts
        ({ q.setDate (q.year + whole) q.month q.day with hasJd := false }, r - Double.ofInt whole)
      else (p, r)
    let p := p.computeJd
    some { p with jd := p.jd + Double.truncate (r * 1000.0 * scale + rounder) }.clearParts
  | none => none

/-- Shifts a moment by a clock time `HH:MM[:SS[.SSS]]`, forward or back. -/
def Moment.shiftByClock (p : Moment) (back : Bool) (cs : List Char) : Option Moment := do
  let t ← readClock {} cs
  let t := t.computeJd
  let ms := t.jd - 43200000
  let ms := ms - ms.tdiv 86400000 * 86400000
  let p := p.computeJd.clearParts
  some { p with jd := p.jd + (if back then -ms else ms) }

/-- Where the number of a shifting modifier ends: at a colon, a blank, or a hyphen that follows
a year of four or five digits; answers its length. -/
def numberEnd (cs : List Char) : Nat :=
  let yearBefore (i : Nat) : Bool :=
    (i = 5 && (digitsWithin 4 0 14712 (cs.drop 1)).isSome) ||
    (i = 6 && (digitsWithin 5 0 14712 (cs.drop 1)).isSome)
  let stops := (cs.drop 1).zipIdx.find? fun (c, j) =>
    c = ':' || isAsciiBlank c || (c = '-' && yearBefore (j + 1))
  match stops with
  | some (_, j) => j + 1
  | none => cs.length

/-- Applies a modifier that starts with a sign or a digit: an amount of a unit, a clock time,
or a calendar difference `±YYYY-MM-DD` with an optional clock time after a blank. -/
def Moment.shift (p : Moment) (cs : List Char) : Option Moment := do
  let n := numberEnd cs
  let r ← wholeNumber? (cs.take n)
  let back := cs.head? = some '-'
  match cs.drop n with
  | '-' :: _ =>
    if !(cs.head? = some '+' || back) then none
    else
      let long := n = 6
      let body := cs.drop 1
      let (y, rest) ← digitsWithin (if long then 5 else 4) 0 14712 body
      let rest ← match rest with
        | '-' :: rest => some rest
        | _ => none
      let (m, rest) ← digitsWithin 2 0 12 rest
      let rest ← match rest with
        | '-' :: rest => some rest
        | _ => none
      let (d, rest) ← digitsWithin 2 0 31 rest
      if 12 ≤ m || 31 ≤ d then none
      else
        let q := { p.computeParts with hasJd := false }
        let q := (if back then { q with year := q.year - y, month := q.month - m }
                  else { q with year := q.year + y, month := q.month + m }).carryMonths
        let q := (q.setDate q.year q.month q.day).computeJd
        let q := { q with hasTime := false, hasDate := false,
                          jd := q.jd + (if back then -d else d) * 86400000 }
        match rest with
        | [] => some q
        | c :: clock =>
          if isAsciiBlank c && (hoursMinutes 24 clock).isSome then q.shiftByClock back clock
          else none
  | ':' :: _ =>
    p.shiftByClock back (match cs with
      | c :: rest => if isDigit c then c :: rest else rest
      | [] => [])
  | rest =>
    let unit := rest.dropWhile isAsciiBlank
    if 10 < unit.length || unit.length < 3 then none
    else
      let unit := (foldAscii (String.ofList unit)).toList
      let unit := if unit.getLast? = some 's' then unit.dropLast else unit
      p.shiftBy r (String.ofList unit)

/-- Applies a modifier, given whether it is the first. -/
def Moment.modify (p : Moment) (first : Bool) (cs : List Char) : Option Moment :=
  let word := foldAscii (String.ofList cs)
  match cs.head?.map Char.toLower with
  | some 'a' =>
    if word ≠ "auto" || !first then none
    else if !p.raw || p.hasJd then some { p with raw := false }
    else if -210866760000 ≤ p.second && p.second ≤ 253402300799 then
      some { p.clearParts with jd := Double.truncate (p.second * 1000.0 + 210866760000000.0 + 0.5),
                               hasJd := true, raw := false }
    else none
  | some 'c' =>
    if word = "ceiling" then some { p.computeJd.clearParts with overflow := 0 } else none
  | some 'f' =>
    if word = "floor" then
      let q := p.computeJd
      some { q.clearParts with jd := q.jd - q.overflow * 86400000 }
    else none
  | some 'j' =>
    if word ≠ "julianday" || !first then none
    else if p.hasJd && p.raw then some { p with raw := false }
    else none
  | some 'l' =>
    if word = "localtime" then
      some { (if p.inLocal then p else p.toLocal) with utc := false, inLocal := true }
    else none
  | some 'u' =>
    if word = "unixepoch" && p.raw then
      if !first then none
      else
        let r := p.second * 1000.0 + 210866760000000.0
        if 0 ≤ r && r < 464269060800000.0 then
          some { p.clearParts with jd := Double.truncate (r + 0.5), hasJd := true, raw := false }
        else none
    else if word = "utc" then some (if p.utc then p else p.toUtc)
    else none
  | some 'w' =>
    if "weekday ".toList.isPrefixOf word.toList then do
      let r ← wholeNumber? (cs.drop 8)
      let n := Double.truncate r
      if 0 ≤ r && r < 7 && Double.ofInt n == r then
        let q := { p.computeParts with hasZone := false, hasJd := false }.computeJd
        let z := ((q.jd + 129600000).tdiv 86400000).tmod 7
        let z := if n < z then z - 7 else z
        some { q with jd := q.jd + (n - z) * 86400000 }.clearParts
      else none
    else none
  | some 's' =>
    if "start of ".toList.isPrefixOf word.toList then
      if !p.hasJd && !p.hasDate && !p.hasTime then none
      else
        let q := { p.computeDate with hasTime := true, hour := 0, minute := 0, second := 0,
                                      raw := false, hasZone := false, hasJd := false }
        let unit := String.ofList (word.toList.drop 9)
        if unit = "month" then some { q with day := 1 }
        else if unit = "year" then some { q with month := 1, day := 1 }
        else if unit = "day" then some q
        else none
    else if word = "subsec" || word = "subsecond" then some { p with subsec := true }
    else none
  | some c => if c = '+' || c = '-' || isDigit c then p.shift cs else none
  | none => none

/-- The characters of a value's text, as far as its first NUL. -/
def argumentText (v : Value) : List Char :=
  ((v.asText?).getD "").toList.takeWhile (· ≠ Char.ofNat 0)

/-- Reads the arguments of a date and time function: the moment and its modifiers, or `now`
when there are none. None when an argument is NULL or cannot be read, or the moment leaves the
range of years. -/
def readArguments (args : List Value) : Option Moment := do
  let p ← match args with
    | [] => some Moment.current
    | .integer i :: _ => some (Moment.ofNumber (Double.ofInt i))
    | .real r :: _ => some (Moment.ofNumber r)
    | .null :: _ => none
    | v :: _ => readMoment (argumentText v)
  let modifiers := (args.drop 1).zipIdx
  let p ← modifiers.foldlM (fun (p : Moment) (m, i) =>
    match m with
    | .null => none
    | m => p.modify (i = 0) (argumentText m)) p
  let p := p.computeJd
  if p.failed || !validJd p.jd then none
  else if args.length = 1 && p.hasDate && 28 < p.day then some { p with hasDate := false }
  else some p

/-- Writes values with a format of the printf function. -/
def printed (format : String) (args : List Value) : String :=
  match printfValue (.text format) args with
  | .ok v => (v.asText?).getD ""
  | .error _ => ""

/-- The digits of a nonnegative number below ten thousand, padded to four. -/
def fourDigits (v : Int) : String := printed "%04d" [.integer v]

/-- A number padded to two digits. -/
def twoDigits (v : Int) : String := printed "%02d" [.integer v]

/-- The date as `YYYY-MM-DD`, with a sign for years before year 0. -/
def Moment.dateText (p : Moment) : String :=
  let y := p.year.natAbs
  let digits := String.ofList ([y / 1000, y / 100, y / 10, y].map fun k => Char.ofNat (48 + k % 10))
  (if p.year < 0 then "-" else "") ++ digits ++ "-" ++ twoDigits (p.month.tmod 100) ++ "-" ++
    twoDigits (p.day.tmod 100)

/-- The time as `HH:MM:SS`, or `HH:MM:SS.SSS` when fractions of a second are shown. -/
def Moment.timeText (p : Moment) : String :=
  let seconds :=
    if p.subsec then
      let s := Double.truncate (1000.0 * p.second + 0.5)
      twoDigits ((s.tdiv 1000).tmod 100) ++ "." ++ printed "%03d" [.integer (s.tmod 1000)]
    else twoDigits ((Double.truncate p.second).tmod 100)
  twoDigits (p.hour.tmod 100) ++ ":" ++ twoDigits (p.minute.tmod 100) ++ ":" ++ seconds

/-- The seconds since 1970 of a moment, with their fraction when it is shown. -/
def Moment.unixSeconds (p : Moment) : Value :=
  if p.subsec then .real (Double.ofInt (p.jd - unixEpochJd) / 1000.0)
  else .integer (p.jd.tdiv 1000 - unixEpochJd / 1000)

/-- Days from the first of January of the moment's year to the moment. -/
def Moment.dayOfYear (p : Moment) : Int :=
  let jan1 := ({ p with hasJd := false, month := 1, day := 1 } : Moment).computeJd
  (p.jd - jan1.jd + 43200000).tdiv 86400000

/-- Days since the last Monday. -/
def Moment.sinceMonday (p : Moment) : Int := ((p.jd + 43200000).tdiv 86400000).tmod 7

/-- Days since the last Sunday. -/
def Moment.sinceSunday (p : Moment) : Int := ((p.jd + 129600000).tdiv 86400000).tmod 7

/-- The Thursday of the moment's week, which decides its ISO week and year. -/
def Moment.thursday (p : Moment) : Moment :=
  { p with jd := p.jd + (3 - p.sinceMonday) * 86400000, hasDate := false }.computeDate

/-- The text of one conversion of strftime, none for a letter that names none. -/
def Moment.conversion (p : Moment) (c : Char) : Option String :=
  let hour12 := if p.hour > 12 then p.hour - 12 else if p.hour = 0 then 12 else p.hour
  match c with
  | 'd' => some (twoDigits p.day)
  | 'e' => some (printed "%2d" [.integer p.day])
  | 'f' =>
    let most := Double.ofRatio false 59999 1000
    some (printed "%06.3f" [.real (if most < p.second then most else p.second)])
  | 'F' => some (printed "%04d-%02d-%02d" [.integer p.year, .integer p.month, .integer p.day])
  | 'G' => some (fourDigits p.thursday.year)
  | 'g' => some (twoDigits (p.thursday.year.tmod 100))
  | 'H' => some (twoDigits p.hour)
  | 'k' => some (printed "%2d" [.integer p.hour])
  | 'I' => some (twoDigits hour12)
  | 'l' => some (printed "%2d" [.integer hour12])
  | 'j' => some (printed "%03d" [.integer (p.dayOfYear + 1)])
  | 'J' => some (printed "%.16g" [.real (Double.ofInt p.jd / 86400000.0)])
  | 'm' => some (twoDigits p.month)
  | 'M' => some (twoDigits p.minute)
  | 'p' => some (if 12 ≤ p.hour then "PM" else "AM")
  | 'P' => some (if 12 ≤ p.hour then "pm" else "am")
  | 'R' => some (twoDigits p.hour ++ ":" ++ twoDigits p.minute)
  | 's' =>
    if p.subsec then some (printed "%.3f" [p.unixSeconds])
    else some (toString (p.jd.tdiv 1000 - unixEpochJd / 1000))
  | 'S' => some (twoDigits (Double.truncate p.second))
  | 'T' => some (twoDigits p.hour ++ ":" ++ twoDigits p.minute ++ ":" ++
                 twoDigits (Double.truncate p.second))
  | 'u' => some (toString (if p.sinceSunday = 0 then 7 else p.sinceSunday))
  | 'w' => some (toString p.sinceSunday)
  | 'U' => some (twoDigits ((p.dayOfYear - p.sinceSunday + 7).tdiv 7))
  | 'V' => some (twoDigits (p.thursday.dayOfYear.tdiv 7 + 1))
  | 'W' => some (twoDigits ((p.dayOfYear - p.sinceMonday + 7).tdiv 7))
  | 'Y' => some (fourDigits p.year)
  | '%' => some "%"
  | _ => none

/-- Writes a moment by a format; none when a conversion names no letter it knows. -/
def Moment.format (p : Moment) : List Char → Option (List Char)
  | [] => some []
  | '%' :: c :: rest => do
    let text ← p.conversion c
    let more ← p.format rest
    some (text.toList ++ more)
  | ['%'] => none
  | c :: rest => (p.format rest).map (c :: ·)

/-- The difference between two moments as `±YYYY-MM-DD HH:MM:SS.SSS`: whole years and months
counted back along the calendar from the later, then the days and time left. -/
def difference (a b : Moment) : String :=
  let a := a.computeParts
  let b := b.computeParts
  let later := b.jd ≤ a.jd
  -- the earlier moment moved to the later one's year and month, stepping back while past it
  let (y0, m0) := if later then (a.year - b.year, a.month - b.month) else (b.year - a.year, b.month - a.month)
  let b := if y0 ≠ 0 then { b with year := a.year, hasJd := false }.computeJd else b
  let (y0, m0) := if m0 < 0 then (y0 - 1, m0 + 12) else (y0, m0)
  let b := if m0 ≠ 0 then { b with month := a.month, hasJd := false }.computeJd else b
  let rec step : Nat → Int → Int → Moment → Int × Int × Moment
    | 0, y, m, b => (y, m, b)
    | n + 1, y, m, b =>
      if (later && a.jd < b.jd) || (!later && b.jd < a.jd) then
        let (y, m) := if m - 1 < 0 then (y - 1, 11) else (y, m - 1)
        let b :=
          if later then
            (if b.month - 1 < 1 then { b with month := 12, year := b.year - 1 }
             else { b with month := b.month - 1 })
          else
            (if 12 < b.month + 1 then { b with month := 1, year := b.year + 1 }
             else { b with month := b.month + 1 })
        step n y m { b with hasJd := false }.computeJd
      else (y, m, b)
  let (y, m, b) := step 24 y0 m0 b
  let span := (if later then a.jd - b.jd else b.jd - a.jd) + 148699540800000
  let d := ({ jd := span, hasJd := true } : Moment).computeParts
  printed "%c%04d-%02d-%02d %02d:%02d:%06.3f"
    [.text (if later then "+" else "-"), .integer y, .integer m, .integer (d.day - 1),
     .integer d.hour, .integer d.minute, .real d.second]

end DateTime

open DateTime in
/-- Applies a date and time function to its evaluated arguments. -/
def callDateTime (name : String) (args : List Value) : Value :=
  match name with
  | "julianday" =>
    match readArguments args with
    | some p => .real (Double.ofInt p.jd / 86400000.0)
    | none => .null
  | "unixepoch" =>
    match readArguments args with
    | some p => p.unixSeconds
    | none => .null
  | "date" | "current_date" =>
    match readArguments args with
    | some p => .text p.computeDate.dateText
    | none => .null
  | "time" | "current_time" =>
    match readArguments args with
    | some p => .text p.computeTime.timeText
    | none => .null
  | "datetime" | "current_timestamp" =>
    match readArguments args with
    | some p => let p := p.computeParts; .text (p.dateText ++ " " ++ p.timeText)
    | none => .null
  | "strftime" =>
    match args with
    | [] => .null
    | .null :: _ => .null
    | f :: rest =>
      match readArguments rest with
      | some p =>
        match p.computeJd.computeParts.format (argumentText f) with
        | some out => .text (String.ofList out)
        | none => .null
      | none => .null
  | "timediff" =>
    match readArguments (args.take 1), readArguments (args.drop 1) with
    | some a, some b => .text (difference a b)
    | _, _ => .null
  | _ => .null

/-- The argument counts of the date and time functions, none for other names. -/
def dateTimeArity? (name : String) : Option (Nat → Bool) :=
  match name with
  | "date" | "time" | "datetime" | "julianday" | "unixepoch" | "strftime" => some fun _ => true
  | "timediff" => some (· = 2)
  | "current_date" | "current_time" | "current_timestamp" => some (· = 0)
  | _ => none

end RoleSync.Sql
