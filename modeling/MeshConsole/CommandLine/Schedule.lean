import MeshConsole.Decimal.Reader
import MeshConsole.Text.Blank

/-!
# Schedules

The times at which the dashboard is loaded anew are given by a line of fields, from seconds to days
of the week, and perhaps years:

    schedule = second minute hour day month weekday [year]
    field    = part {"," part}
    part     = range ["/" step]
    range    = "*" | value ["-" value]

A month and a day of the week may be given by the first three letters of its name. A day may also be
the last one (`L`) or the working day nearest to a date (`15W`), and a day of the week the n-th or
the last one of a month (`5#2`, `5L`). Here a schedule is only checked.
-/

namespace MeshConsole.Schedule

open Decimal Text

/-- A field of a schedule: the values it may have, and the names of some of them. -/
structure Field where
  least : Nat
  most : Nat
  names : List String
deriving Repr, DecidableEq

/-- The names of the months. -/
def months : List String :=
  ["JAN", "FEB", "MAR", "APR", "MAY", "JUN", "JUL", "AUG", "SEP", "OCT", "NOV", "DEC"]

/-- The names of the days of the week. -/
def weekdays : List String := ["SUN", "MON", "TUE", "WED", "THU", "FRI", "SAT"]

/-- The field of the days of a month. -/
def dayField : Field := ⟨1, 31, []⟩

/-- The field of the days of the week. Seven is Sunday as well. -/
def weekdayField : Field := ⟨0, 7, weekdays⟩

/-- The fields in their order. The last one may be missing. -/
def fields : List Field :=
  [⟨0, 59, []⟩, ⟨0, 59, []⟩, ⟨0, 23, []⟩, dayField, ⟨1, 12, months⟩, weekdayField, ⟨1, 9999, []⟩]

/-- The value that a number or a name gives. -/
def Field.value? (field : Field) (cs : List Char) : Option Nat :=
  let name := String.ofList (cs.map Char.toUpper)
  match field.names.findIdx? (· == name) with
  | some index => some (field.least + index)
  | none => (natural? cs).filter fun n => Nat.ble field.least n && Nat.ble n field.most

/-- Whether a text is every value, one value, or a range of values. -/
def Field.isRange (field : Field) (cs : List Char) : Bool :=
  cs == ['*'] || cs == ['?'] ||
    match splitOn (· == '-') cs with
    | [value] => (field.value? value).isSome
    | [first, last] =>
      match field.value? first, field.value? last with
      | some first, some last => Nat.ble first last
      | _, _ => false
    | _ => false

/-- Whether a text is one of the special days of a month or of a week. -/
def Field.isSpecial (field : Field) (cs : List Char) : Bool :=
  let isDay := field == dayField
  let isWeekday := field == weekdayField
  if cs == ['L'] then isDay
  else if cs.getLast? == some 'W' then isDay && (field.value? cs.dropLast).isSome
  else if cs.getLast? == some 'L' then isWeekday && (field.value? cs.dropLast).isSome
  else match splitOn (· == '#') cs with
    | [value, count] =>
      isWeekday && (field.value? value).isSome &&
        ((natural? count).any fun n => Nat.ble 1 n && Nat.ble n 5)
    | _ => false

/-- Whether a text is a part of a field. -/
def Field.isPart (field : Field) (cs : List Char) : Bool :=
  match splitOn (· == '/') cs with
  | [range] => field.isRange range || field.isSpecial range
  | [range, step] => field.isRange range && (natural? step).any (Nat.ble 1 ·)
  | _ => false

/-- Whether a text is a field. -/
def Field.isField (field : Field) (cs : List Char) : Bool :=
  (splitOn (· == ',') cs).all field.isPart

/-- Whether a text is a schedule. -/
def isSchedule (s : String) : Bool :=
  let parts := words s.toList
  (parts.length == fields.length || parts.length + 1 == fields.length) &&
    (fields.zip parts).all fun part => part.1.isField part.2

end MeshConsole.Schedule
