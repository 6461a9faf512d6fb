import RecordRules.Calendar
import RecordRules.Measure.Evaluate
import RecordRules.Service.Basic
import RecordRules.Store.Transaction
import RecordRules.Validation.Issues

/-!
# The system

A system is what operations work on: a database, two clocks, the checker of rules with its registry
of validators, the caches of the units of work that are open, and the service that answers requests.

The store goes by a clock on the wall, which shows what it is put to.  Moves go by a clock of their
own, which steps on with every look at it.
-/

set_option autoImplicit false

namespace RecordRules

/-- What operations work on. -/
structure System where
  database : Database := {}
  clock : Clock := {}
  /-- What the clock on the wall shows. -/
  now : Moment := .ofClock {}
  checker : Validation.Checker := {}
  caches : Fields Cache := []
  service : Service := {}
deriving Inhabited

namespace System

/-- The limits of expressions. -/
def limits (s : System) : Expression.Limits := s.checker.limits

/-- Replaces the database. -/
def withDatabase (s : System) (db : Database) : System := { s with database := db }

/-- The present moment, and the system a second later. -/
def tick (s : System) : Moment × System := (.ofClock s.clock, { s with clock := s.clock.next })

/-- Carries out an operation that yields a database. -/
def update (s : System) (r : Result Database) : Result Unit × System :=
  match r with
  | .ok db => (.ok (), s.withDatabase db)
  | .error e => (.error e, s)

end System
end RecordRules
