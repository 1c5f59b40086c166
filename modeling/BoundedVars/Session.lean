import BoundedVars.Session.Perform.Configurations
import BoundedVars.Session.Perform.Contexts
import BoundedVars.Session.Perform.Events
import BoundedVars.Session.Perform.Stores
import BoundedVars.Session.Perform.Views

/-!
# Sessions

A session carries out steps one after another and reports on each: its result or failure, what was
seen on the way, and the summary of the store that the step concerns.  A step that fails does not
end the session.

A receiver may react to an event by carrying out steps, which may lead to further events, and so on.
This ends, because a receiver reacts only so many times and only the steps themselves connect
receivers: each reaction inside another uses up one of the reactions that the steps of the session
allow in all (`Step.totalWeight`).  `Run.react` counts these down.
-/

namespace BoundedVars

namespace Run

/-- Carries out a request. -/
def perform (react : Reactor) (store : String) : Request → Run Result
  | .store request => performStore react store request
  | .context request => performContext request
  | .newView data => createView data
  | .view view query => do queryView (← view.eval) query
  | .config request => performConfig request
  | .log request => performLog request
  | .event request => performEvent react request

/-- Carries out a step: its request, and saving the result. -/
def performStep (react : Reactor) (step : Step) : Run Answer := do
  let result ← perform react step.store step.request
  match step.save, result with
  | some name, .value v => save name v
  | _, _ => pure ()
  result.answer

/-- Carries out a reaction, inside of which at most `budget` more reactions take place, one inside
the other. -/
def react : Nat → Reactor
  | _, .record => return ()
  | _, .raise message => do
    let message ← message.eval
    throw (.raised (← read fun h => h.plainText message))
  | 0, .report _ => return ()
  | 0, .perform _ => return ()
  | budget + 1, .report steps =>
    steps.forM fun step => do
      let result ← attempt (performStep (react budget) step)
      note (.nested (result.mapError (← heap).complaint))
  | budget + 1, .perform steps =>
    steps.forM fun step => do
      let _ ← performStep (react budget) step

end Run

/-- What is reported on a step. -/
structure Report where
  result : Except Complaint Answer
  trace : List TraceEntry
  /-- The summary of the store that the step concerns, if there is one. -/
  state : Option String

/-- Puts the deliveries of one event by one sender that follow each other in the order of the
receivers; the order in which these are called is nobody's business. -/
def settle (trace : List TraceEntry) : List TraceEntry :=
  let alike : TraceEntry → TraceEntry → Bool
    | .delivered _ _ sender fields, .delivered _ _ sender' fields' =>
      sender.looksLike sender' && fields.map (·.1) == fields'.map (·.1)
        && (fields.zip fields').all fun (a, b) => a.2.looksLike b.2
    | _, _ => false
  let order : TraceEntry → TraceEntry → Bool
    | .delivered receiver .., .delivered receiver' .. => receiver ≤ receiver'
    | _, _ => true
  (trace.splitBy alike).flatMap fun group => group.mergeSort order

namespace Session

/-- Carries out a step with at most `budget` reactions inside each other, and reports on it. -/
def step (budget : Nat) (s : Session) (step : Step) : Report × Session :=
  let (result, after) := (Run.performStep (Run.react budget) step).run { s with trace := [] }
  (⟨result.mapError after.heap.complaint, settle after.trace, after.summary? step.store⟩, after)

/-- Carries out steps one after another. -/
def runFrom (budget : Nat) (s : Session) : List Step → List Report
  | [] => []
  | next :: rest =>
    let (report, after) := s.step budget next
    report :: runFrom budget after rest

/-- The reports on the steps of a whole session. -/
def run (steps : List Step) : List Report :=
  runFrom (Step.totalWeight steps + 1) start steps

end Session

end BoundedVars
