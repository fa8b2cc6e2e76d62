/-!
# Names of months and weekdays

The English names that patterns write and read, in full and by their first
three letters.

Main results:

- Theorem `length_months`: there is a name for every month.
-/

namespace SchemaForm
namespace Calendar
namespace Names

/-- The names of the months. -/
def months : List String :=
  ["January", "February", "March", "April", "May", "June", "July", "August", "September",
    "October", "November", "December"]

/-- The names of the days of the week, from Monday. -/
def weekdays : List String :=
  ["Monday", "Tuesday", "Wednesday", "Thursday", "Friday", "Saturday", "Sunday"]

/-- A name by its place. -/
def long (names : List String) (index : Nat) : List Char :=
  (names.getD index "").toList

/-- The first three letters of a name. -/
def short (names : List String) (index : Nat) : List Char :=
  (long names index).take 3

theorem length_months : months.length = 12 :=
  rfl

end Names
end Calendar
end SchemaForm
