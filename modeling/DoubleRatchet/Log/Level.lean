namespace DoubleRatchet

/-!
# Log levels

A level says how much an event matters.  A filter admits the events that
matter at least as much as its own level, and one filter admits nothing.
-/

/-- How much an event matters, from the most on. -/
inductive Level where
  | error
  | warn
  | info
  | debug
  | trace
  deriving DecidableEq

namespace Level

/-- The place in the order, from the level that matters most. -/
def rank : Level -> Nat
  | error => 0
  | warn => 1
  | info => 2
  | debug => 3
  | trace => 4

/-- The name in upper case. -/
def name : Level -> String
  | error => "ERROR"
  | warn => "WARN"
  | info => "INFO"
  | debug => "DEBUG"
  | trace => "TRACE"

/-- The levels, from the one that matters most. -/
def all : List Level :=
  [error, warn, info, debug, trace]

/-- The level of a name in either case. -/
def ofName? (name : String) : Option Level :=
  all.find? fun level => level.name = name.map Char.toUpper

theorem ofName?_name (level : Level) : ofName? level.name = some level := by
  cases level <;> decide +kernel

/-- Whether a filter admits a level.  The filter without a level admits none. -/
def admittedBy (level : Level) : Option Level -> Bool
  | none => false
  | some filter => level.rank ≤ filter.rank

end Level
end DoubleRatchet
