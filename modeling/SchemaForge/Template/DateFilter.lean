import SchemaForge.Calendar.Instant
import SchemaForge.Template.Arguments

/-! The filter that writes dates by a pattern. -/

namespace SchemaForge.Template.Filters

open Json (Value)
open Calendar (Date Instant)
open Calendar.Instant (padded digits? char? fraction? offset?)

structure LocalTime where
  day : Int
  second : Nat
  nanos : Nat
  offset : Int

namespace LocalTime

def ofSeconds (seconds : Int) (nanos : Nat) (offset : Int) : LocalTime :=
  let here := seconds + offset
  ⟨here / 86400, (here % 86400).toNat, nanos, offset⟩

def date (t : LocalTime) : Date := Date.ofDay t.day

def weekday (t : LocalTime) : Nat := ((t.day + 4) % 7).toNat

def dayOfYear (t : LocalTime) : Nat := (t.day - Date.toDay ⟨t.date.year, 1, 1⟩).toNat + 1

def monthName (n : Nat) : String :=
  ["January", "February", "March", "April", "May", "June", "July", "August", "September",
    "October", "November", "December"][n - 1]?.getD ""

def weekdayName (n : Nat) : String :=
  ["Sunday", "Monday", "Tuesday", "Wednesday", "Thursday", "Friday", "Saturday"][n]?.getD ""

def short (s : String) : String := String.ofList (s.toList.take 3)

def spaced (n : Nat) : String := if n < 10 then " " ++ toString n else toString n

def hour12 (n : Nat) : Nat := if n % 12 = 0 then 12 else n % 12

def offsetText (between : String) (offset : Int) : String :=
  let minutes := (offset.natAbs + 30) / 60
  (if offset < 0 then "-" else "+") ++ padded 2 (minutes / 60) ++ between ++ padded 2 (minutes % 60)

def clock (t : LocalTime) : String :=
  padded 2 (t.second / 3600) ++ ":" ++ padded 2 (t.second / 60 % 60) ++ ":" ++
    padded 2 (t.second % 60)

def dateText (t : LocalTime) : String :=
  Calendar.Instant.yearText t.date.year ++ "-" ++ padded 2 t.date.month ++ "-" ++
    padded 2 t.date.day

def text (t : LocalTime) : String :=
  t.dateText ++ "T" ++ t.clock ++ Calendar.Instant.fractionText t.nanos ++ offsetText ":" t.offset

def field? (t : LocalTime) : Char → Option String
  | 'Y' => some (Calendar.Instant.yearText t.date.year)
  | 'C' => some (padded 2 (t.date.year / 100).toNat)
  | 'y' => some (padded 2 (t.date.year % 100).toNat)
  | 'm' => some (padded 2 t.date.month)
  | 'b' => some (short (monthName t.date.month))
  | 'h' => some (short (monthName t.date.month))
  | 'B' => some (monthName t.date.month)
  | 'd' => some (padded 2 t.date.day)
  | 'e' => some (spaced t.date.day)
  | 'a' => some (short (weekdayName t.weekday))
  | 'A' => some (weekdayName t.weekday)
  | 'w' => some (toString t.weekday)
  | 'u' => some (toString (if t.weekday = 0 then 7 else t.weekday))
  | 'j' => some (padded 3 t.dayOfYear)
  | 'D' => some (padded 2 t.date.month ++ "/" ++ padded 2 t.date.day ++ "/" ++
      padded 2 (t.date.year % 100).toNat)
  | 'x' => some (padded 2 t.date.month ++ "/" ++ padded 2 t.date.day ++ "/" ++
      padded 2 (t.date.year % 100).toNat)
  | 'F' => some t.dateText
  | 'v' => some (spaced t.date.day ++ "-" ++ short (monthName t.date.month) ++ "-" ++
      Calendar.Instant.yearText t.date.year)
  | 'H' => some (padded 2 (t.second / 3600))
  | 'k' => some (spaced (t.second / 3600))
  | 'I' => some (padded 2 (hour12 (t.second / 3600)))
  | 'l' => some (spaced (hour12 (t.second / 3600)))
  | 'P' => some (if t.second < 43200 then "am" else "pm")
  | 'p' => some (if t.second < 43200 then "AM" else "PM")
  | 'M' => some (padded 2 (t.second / 60 % 60))
  | 'S' => some (padded 2 (t.second % 60))
  | 'f' => some (padded 9 t.nanos)
  | 'R' => some (padded 2 (t.second / 3600) ++ ":" ++ padded 2 (t.second / 60 % 60))
  | 'T' => some t.clock
  | 'X' => some t.clock
  | 'r' => some (padded 2 (hour12 (t.second / 3600)) ++ ":" ++ padded 2 (t.second / 60 % 60) ++
      ":" ++ padded 2 (t.second % 60) ++ (if t.second < 43200 then " AM" else " PM"))
  | 'c' => some (short (weekdayName t.weekday) ++ " " ++ short (monthName t.date.month) ++ " " ++
      spaced t.date.day ++ " " ++ t.clock ++ " " ++ Calendar.Instant.yearText t.date.year)
  | 'z' => some (offsetText "" t.offset)
  | 's' => some (toString (t.day * 86400 + t.second - t.offset))
  | '+' => some t.text
  | 'n' => some "\n"
  | 't' => some "\t"
  | '%' => some "%"
  | _ => none

/-- Fill a pattern in; nothing if it has a letter that stands for nothing. -/
def fill? (t : LocalTime) : List Char → Option (List Char)
  | [] => some []
  | '%' :: ':' :: 'z' :: rest => do some ((offsetText ":" t.offset).toList ++ (← fill? t rest))
  | '%' :: '-' :: c :: rest => do
    let s ← field? t c
    let bare := s.toList.dropWhile fun d => d == '0' || d == ' '
    some ((if bare.isEmpty then ['0'] else bare) ++ (← fill? t rest))
  | '%' :: c :: rest => do
    let s ← field? t c
    some (s.toList ++ (← fill? t rest))
  | ['%'] => none
  | c :: rest => do some (c :: (← fill? t rest))

end LocalTime

def placeless? (s : String) : Option LocalTime := do
  let t ← Instant.parse? (s ++ "Z")
  some (.ofSeconds t.seconds t.nanos 0)

def placed? (s : String) : Option LocalTime := do
  let t ← Instant.parse? s
  let cs := s.toList
  let tail := if cs.getLast? == some 'Z' || cs.getLast? == some 'z' then ['Z']
    else cs.drop (cs.length - 6)
  let (offset, _) ← offset? tail
  some (.ofSeconds t.seconds t.nanos offset)

def day? (s : String) : Option LocalTime := do
  let (year, rest) ← digits? 4 s.toList
  let rest ← char? '-' rest
  let (month, rest) ← digits? 2 rest
  let rest ← char? '-' rest
  let (day, rest) ← digits? 2 rest
  let d : Date := ⟨year, month, day⟩
  if rest.isEmpty && d.valid then some ⟨d.toDay, 0, 0, 0⟩ else none

def timeOf (v : Value) : Use LocalTime :=
  match v with
  | .number (.int i) =>
    if i < Word.signedEnd then .ok (.ofSeconds i 0 0)
    else .error (.because s!"Filter `date` was invoked on a float: {i}")
  | .number n => .error (.because ("Filter `date` was invoked on a float: " ++ n.text))
  | .string s =>
    if s.toList.contains 'T' then
      match placed? s <|> placeless? s with
      | some t => .ok t
      | none => .error (.because ("Error parsing `" ++ Text.listed s ++
          "` as rfc3339 date or naive datetime"))
    else
      match day? s with
      | some t => .ok t
      | none => .error (.because ("Error parsing `" ++ Text.listed s ++ "` as YYYY-MM-DD date"))
  | v => .error (.because ("Filter `date` received an incorrect type for arg `value`: got `" ++
      listed v ++ "` but expected i64|u64|String"))

def date : Builtin := fun v args => do
  let pattern ← Taking.text.orElse "date" "format" args "%Y-%m-%d"
  match LocalTime.fill? ⟨0, 0, 0, 0⟩ pattern.toList with
  | none => .error (.because ("Invalid date format `" ++ pattern ++ "`"))
  | some _ =>
    let t ← timeOf v
    pure (.string (String.ofList ((t.fill? pattern.toList).getD [])))

end SchemaForge.Template.Filters
