import Mathlib.Data.Int.Defs

namespace Santamon.Events

/-- A `time.Time`, as nanoseconds since the Unix epoch. -/
abbrev Time := Int

/-- A `time.Duration`, in nanoseconds. -/
abbrev Duration := Int

/-- `math.MinInt64`. -/
def minDuration : Duration := -9223372036854775808

/-- `math.MaxInt64`. -/
def maxDuration : Duration := 9223372036854775807

/-- `t.Sub(u)`: the difference, saturated to the range of `Duration`. -/
def Time.sub (t u : Time) : Duration :=
  max minDuration (min maxDuration (t - u))

/-- A `timestamppb.Timestamp`. -/
structure Timestamp where
  seconds : Int
  nanos : Int
  deriving Repr, DecidableEq

/-- `ts.AsTime()`. -/
def Timestamp.asTime (ts : Timestamp) : Time := ts.seconds * 1000000000 + ts.nanos

/-- The proleptic Gregorian date of a day count since 1970-01-01. -/
def civilFromDays (z : Int) : Int × Nat × Nat :=
  let z := z + 719468
  let era := z / 146097
  let doe := z - era * 146097
  let yoe := (doe - doe / 1460 + doe / 36524 - doe / 146096) / 365
  let doy := doe - (365 * yoe + yoe / 4 - yoe / 100)
  let mp := (5 * doy + 2) / 153
  let d := doy - (153 * mp + 2) / 5 + 1
  let m := if mp < 10 then mp + 3 else mp - 9
  (yoe + era * 400 + (if m ≤ 2 then 1 else 0), m.toNat, d.toNat)

/-- The day count since 1970-01-01 of a proleptic Gregorian date. -/
def daysFromCivil (y : Int) (m d : Nat) : Int :=
  let y := if m ≤ 2 then y - 1 else y
  let era := y / 400
  let yoe := y - era * 400
  let mp : Int := if m > 2 then m - 3 else m + 9
  let doy := (153 * mp + 2) / 5 + d - 1
  era * 146097 + yoe * 365 + yoe / 4 - yoe / 100 + doy - 719468

def isLeap (y : Int) : Bool := y % 4 = 0 && (y % 100 ≠ 0 || y % 400 = 0)

def daysIn (y : Int) (m : Nat) : Nat :=
  if m = 2 then (if isLeap y then 29 else 28)
  else if m = 4 ∨ m = 6 ∨ m = 9 ∨ m = 11 then 30 else 31

def pad (w : Nat) (n : Nat) : String :=
  let s := toString n
  "".pushn '0' (w - s.length) ++ s

def padYear (y : Int) : String :=
  if y < 0 then "-" ++ pad 4 y.natAbs else pad 4 y.toNat

/-- The layout `.999999999`: the fraction without trailing zeros, empty when zero. -/
def fracTrimmed (ns : Nat) : String :=
  if ns = 0 then "" else "." ++ ((pad 9 ns).toList.reverse.dropWhile (· = '0')).reverse.asString

structure Civil where
  year : Int
  month : Nat
  day : Nat
  hour : Nat
  minute : Nat
  second : Nat
  nanos : Nat

def Time.civil (t : Time) : Civil :=
  let secs := t / 1000000000
  let days := secs / 86400
  let rem := (secs % 86400).toNat
  let (y, m, d) := civilFromDays days
  ⟨y, m, d, rem / 3600, rem % 3600 / 60, rem % 60, (t % 1000000000).toNat⟩

def Civil.dateTime (c : Civil) (sep : String) : String :=
  padYear c.year ++ "-" ++ pad 2 c.month ++ "-" ++ pad 2 c.day ++ sep ++
    pad 2 c.hour ++ ":" ++ pad 2 c.minute ++ ":" ++ pad 2 c.second

/-- `t.String()` for a UTC time: layout `2006-01-02 15:04:05.999999999 -0700 MST`. -/
def Time.toString (t : Time) : String :=
  let c := t.civil
  c.dateTime " " ++ fracTrimmed c.nanos ++ " +0000 UTC"

/-- `t.Format(time.RFC3339)` for a UTC time. -/
def Time.formatRFC3339 (t : Time) : String := t.civil.dateTime "T" ++ "Z"

/-- protojson's RFC 3339 text of a `Timestamp`, `none` where protojson refuses it. -/
def Timestamp.toJson? (ts : Timestamp) : Option String :=
  if ts.seconds < -62135596800 ∨ 253402300799 < ts.seconds ∨ ts.nanos < 0 ∨ 999999999 < ts.nanos then
    none
  else
    let c := ts.asTime.civil
    let n := ts.nanos.toNat
    let frac :=
      if n = 0 then ""
      else if n % 1000000 = 0 then "." ++ pad 3 (n / 1000000)
      else if n % 1000 = 0 then "." ++ pad 6 (n / 1000)
      else "." ++ pad 9 n
    some (c.dateTime "T" ++ frac ++ "Z")

def digits? (cs : List Char) : Option Nat :=
  if cs.isEmpty ∨ cs.any (fun c => !c.isDigit) then none
  else some (cs.foldl (fun n c => n * 10 + (c.toNat - '0'.toNat)) 0)

/-- `time.Parse(time.RFC3339Nano, s)`. -/
def parseRFC3339 (s : String) : Option Time := do
  let cs := s.toList
  guard (cs.length ≥ 20 ∧ cs.get? 4 = some '-' ∧ cs.get? 7 = some '-' ∧ cs.get? 10 = some 'T' ∧
    cs.get? 13 = some ':' ∧ cs.get? 16 = some ':')
  let y ← digits? ((cs.take 4))
  let mo ← digits? ((cs.drop 5).take 2)
  let d ← digits? ((cs.drop 8).take 2)
  let h ← digits? ((cs.drop 11).take 2)
  let mi ← digits? ((cs.drop 14).take 2)
  let se ← digits? ((cs.drop 17).take 2)
  guard (1 ≤ mo ∧ mo ≤ 12 ∧ 1 ≤ d ∧ d ≤ daysIn y mo ∧ h < 24 ∧ mi < 60 ∧ se < 60)
  let rest := cs.drop 19
  let (ns, rest) ←
    match rest with
    | '.' :: r =>
      let fd := r.takeWhile Char.isDigit
      let f ← digits? ((fd.take 9) ++ List.replicate (9 - fd.length) '0')
      pure (f, r.drop fd.length)
    | r => pure (0, r)
  let off ← match rest with
    | ['Z'] => some (0 : Int)
    | [sg, h1, h2, ':', m1, m2] =>
      let oh ← digits? [h1, h2]
      let om ← digits? [m1, m2]
      guard (oh < 24 ∧ om < 60)
      if sg = '+' then some ((oh * 60 + om : Nat) : Int)
      else if sg = '-' then some (-((oh * 60 + om : Nat) : Int))
      else none
    | _ => none
  let secs := daysFromCivil y mo d * 86400 + h * 3600 + mi * 60 + se - off * 60
  pure (secs * 1000000000 + ns)

end Santamon.Events
