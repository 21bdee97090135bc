import MetaCatalog.Number.Decimal
import MetaCatalog.Uuid

/-!
# Subjects

A subject announces the changes of an item to the observers attached to it.
While it is locked, announcements are only remembered, and the unlock that
releases the last lock makes up for all of them at once. The operations here
say whether a delivery is due; who makes the delivery is decided elsewhere.

Observers are attached without being kept alive: an observer that is gone is
removed when the next delivery starts.
-/

namespace MetaCatalog

/-- Names an observer. -/
abbrev ObserverId := Nat

/-- The observers of an item and its locks. -/
structure Subject where
  id : Uuid
  observers : List ObserverId := []
  locks : Nat := 0
  pending : Bool := false
  deriving Inhabited

/-- A delivery and the observers it reached, in order. -/
structure Delivery where
  subject : Uuid
  receivers : List ObserverId
  deriving DecidableEq

namespace Subject

/-- Attaches an observer, unless it is attached already. -/
def attach (subject : Subject) (observer : ObserverId) : Subject :=
  if subject.observers.contains observer then subject
  else { subject with observers := subject.observers ++ [observer] }

/-- Detaches an observer. -/
def detach (subject : Subject) (observer : ObserverId) : Subject :=
  { subject with observers := subject.observers.filter (· != observer) }

/-- The number of attached observers that are still alive. -/
def observerCount (subject : Subject) (alive : ObserverId → Bool) : Nat :=
  subject.observers.countP alive

/-- Whether announcements are held back. -/
def isLocked (subject : Subject) : Bool := 0 < subject.locks

/-- Adds a lock. -/
def lock (subject : Subject) : Subject := { subject with locks := subject.locks + 1 }

/-- Announces a change; the delivery is due at once unless the subject is
locked. -/
def announce (subject : Subject) : Bool × Subject :=
  if subject.isLocked then (false, { subject with pending := true }) else (true, subject)

/-- Releases a lock, if there is one. A delivery is due if it was the last one
and a change was announced meanwhile. -/
def unlock (subject : Subject) : Bool × Subject :=
  let subject := { subject with locks := subject.locks - 1 }
  if subject.locks = 0 ∧ subject.pending then (true, { subject with pending := false })
  else (false, subject)

/-- Removes the observers that are gone. Those that stay are the receivers of
the delivery that starts now. -/
def prune (subject : Subject) (alive : ObserverId → Bool) : Subject :=
  { subject with observers := subject.observers.filter alive }

/-- The subject in a diagnostic. -/
def diagnostic (subject : Subject) : String :=
  "Subject \x7b id: " ++ subject.id.text ++
    ", observers: " ++ Decimal.ofNat subject.observers.length ++
    ", locks: " ++ Decimal.ofNat subject.locks ++ " \x7d"

end Subject

end MetaCatalog
