import BoundedVars.Configuration
import BoundedVars.Context
import BoundedVars.Datum
import BoundedVars.Session.Request
import BoundedVars.View

/-!
# The state of a session

A session holds the heap, the values saved under names, the receivers connected to events, and the
level of the log.  While it carries out a step it keeps a trace of what can be seen from outside:
messages recorded and deliveries of events, in order.

Requests are carried out in the monad `Run`.  A failure does not undo anything: the state and the
trace are those at the moment of the failure.
-/

namespace BoundedVars

/-- What is reported of a failure: what it is caught by, and its message if that can be had. -/
structure Complaint where
  category : Category
  message? : Option String

/-- What is reported of a failure as things stand. -/
def Heap.complaint (h : Heap) (failure : Failure) : Complaint :=
  ⟨failure.category, (h.message failure).toOption⟩

/-- What the answer of a step shows. -/
inductive Answer where
  | datum (d : Datum)
  /-- How many variables of a series were written, and which were not, and why. -/
  | filled (done : Nat) (failed : List (Int × Complaint))

/-- What is said about a delivery: the fields of an event, or the time, which is that of the
moment and of no further interest. -/
inductive FieldDatum where
  | datum (d : Datum)
  | now

/-- Two fields look the same. -/
def FieldDatum.looksLike : FieldDatum → FieldDatum → Bool
  | datum a, datum b => a.looksLike b
  | now, now => true
  | _, _ => false

/-- Something seen while a step is carried out. -/
inductive TraceEntry where
  /-- A message was recorded, with the category of the failure that it is about, if any. -/
  | logged (severity : Severity) (message : String) (cause : Option Category)
  /-- An event was delivered to a receiver, which gets to know who sent it. -/
  | delivered (receiver : String) (source : Identity) (sender : Datum)
    (fields : List (String × FieldDatum))
  /-- A receiver carried out a step. -/
  | nested (result : Except Complaint Answer)

/-- A receiver connected to an event. -/
structure Subscription where
  /-- What tells subscriptions apart. -/
  serial : Nat
  receiver : String
  /-- The sender to whose events the receiver listens; without one it listens to all. -/
  sender : Option Value
  reaction : Reaction
  /-- How many more times it will react. -/
  remaining : Nat
  /-- Another receiver was connected under the same name. -/
  isReplaced : Bool

/-- A receiver listens to the events of a sender.  Zero is not told from no sender at all. -/
def Subscription.listensTo (subscription : Subscription) (sender : Value) : Bool :=
  match subscription.sender with
  | none => true
  | some listened => listened.identity = .int 0 || listened.identity = sender.identity

/-- The state of a session. -/
structure Session where
  heap : Heap
  names : Table String Value
  subscriptions : Table String (List Subscription)
  level : Int
  /-- The next serial number. -/
  fresh : Nat
  /-- The serials of the subscriptions to which events are being delivered. -/
  held : List Nat
  trace : List TraceEntry

/-- A session at its start. -/
def Session.start : Session :=
  ⟨.empty, .empty, .empty, Log.outerLevel, 1, [], []⟩

/-- Carrying out requests. -/
abbrev Run := ExceptT Failure (StateM Session)

namespace Run

/-- A result that does not depend on the state any more. -/
def ofExcept {α : Type} : Except Failure α → Run α
  | .ok a => pure a
  | .error failure => throw failure

/-- The heap. -/
def heap : Run Heap := do
  return (← get).heap

/-- Replaces the heap. -/
def setHeap (h : Heap) : Run Unit :=
  modify fun s => { s with heap := h }

/-- Reads something off the heap. -/
def read {α : Type} (f : Heap → Except Failure α) : Run α := do
  ofExcept (f (← heap))

/-- Makes an object. -/
def allocate (make : Heap → Value × Heap) : Run Value := do
  let (v, h) := make (← heap)
  setHeap h
  return v

/-- The first of `count` serial numbers not used before. -/
def freshSerials (count : Nat) : Run Nat := do
  let n := (← get).fresh
  modify fun s => { s with fresh := n + count }
  return n

/-- A serial number not used before. -/
def freshSerial : Run Nat :=
  freshSerials 1

/-- Saves a value under a name.  A name used before keeps its place in the order of names. -/
def save (name : String) (v : Value) : Run Unit :=
  modify fun s => { s with names := s.names.insert name v }

/-- The value saved under a name. -/
def saved (name : String) : Run Value := do
  match (← get).names.get? name with
  | some v => return v
  | none => throw (.unnamed name)

/-- Adds to the trace. -/
def note (entry : TraceEntry) : Run Unit :=
  modify fun s => { s with trace := s.trace ++ [entry] }

/-- Logs a message: if its severity reaches the level of the log, it is recorded and rendered. -/
def log (severity : Severity) (message : String) (cause : Option Category) : Run Unit := do
  if Log.records (← get).level severity then
    note (.logged severity message cause)
    ofExcept (Log.check message)

end Run

namespace Session

/-- The first name under which a context or a store is saved. -/
def nameOf (s : Session) (v : Value) : Option String :=
  (s.names.entries.find? fun e => e.2.identity == v.identity).map (·.1)

/-- What is seen of a value: contexts and stores by the names they are saved under. -/
def datum (s : Session) (v : Value) : Except Failure Datum :=
  s.heap.datum s.nameOf v

/-- The summary of the store of a name, if it is one. -/
def summary? (s : Session) (name : String) : Option String :=
  match s.names.get? name with
  | some (.store address) => some (s.heap.store address).summary
  | _ => none

end Session

namespace Run

/-- A value as it stands. -/
def datum (v : Value) : Run Datum := do
  ofExcept ((← get).datum v)

end Run

end BoundedVars
