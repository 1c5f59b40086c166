import BoundedVars.Log
import BoundedVars.Session.Term

/-!
# Requests

What can be asked of a session, by subject: stores, contexts, views, configurations, the log, and
events.  A `Step` is a request together with the name of the store it concerns and the name under
which its result is to be saved.

A receiver connected to an event reacts to its deliveries, perhaps with further steps.  A step can
therefore contain steps, but only finitely many: `Step.weight` counts how often, at most, the
receivers that a step connects can act.
-/

namespace BoundedVars

/-- Requests to the store of the step. -/
inductive StoreRequest where
  /-- Makes the store; without limits the defaults hold. -/
  | create (limits : Option Term)
  | limits
  | setLimits (value : Term)
  | setGlobal (key value : Term)
  | getGlobal (key : Term)
  | getGlobals
  | clearGlobals
  | setScript (script key value : Term)
  | getScript (script key : Term)
  | getScriptVars (script : Term)
  | clearScript (script : Term)
  | scriptNames
  | setFromContext (context key value : Term)
  | getFromContext (context key : Term)
  | getVarsFromContext (context : Term)
  | clear
  | snapshot
  | summary
  /-- Writes variables numbered from `first` to before `last`, of a script if one is given. -/
  | fill (keyStart : Term) (first last : Int) (value : Term) (script : Option Term)

/-- Requests to contexts. -/
inductive ContextRequest where
  | create (name : String) (attributes : Option Term)
  | createForScript (name : String) (script : Term)
  | getAttribute (context name : Term)
  | setAttribute (context name value : Term)
  | removeAttribute (context name : Term)
  | shown (context : Term)
  | lookup (context name : Term)
  | scriptName (context : Term)

/-- The methods that would change a view. -/
inductive Mutator where
  | pop
  | popItem
  | clear
  | update
  | setDefault
  deriving Repr, DecidableEq

/-- What can be asked of a view. -/
inductive ViewQuery where
  | item (key : Term)
  | get (key fallback : Term)
  | has (key : Term)
  | size
  | isTruthy
  | keys
  | values
  | items
  | hasValue (value : Term)
  | hasItem (key value : Term)
  | meet (others : Term)
  | join (others : Term)
  | minus (others : Term)
  | apart (others : Term)
  | within (other : Term)
  | sameKeys (other : Term)
  | disjoint (others : Term)
  | shownParts
  | shown
  | equals (other : Term)
  | differs (other : Term)
  | toDict
  | toView
  | hash
  | reversed
  | merge (other : Term)
  | copy
  | setAttribute (name value : Term)
  /-- Puts a value under a key. -/
  | put (key value : Term)
  | delete (key : Term)
  /-- Takes in the entries of another mapping. -/
  | mergeIn (other : Term)
  /-- Calls a method that would change the view, with arguments given in order and by name. -/
  | change (mutator : Mutator) (given : List Term) (named : List (String × Term))

/-- What can be asked of a dictionary or a configuration. -/
inductive MappingQuery where
  | item (key : Term)
  | get (key fallback : Term)
  | put (key value : Term)
  | delete (key : Term)
  | pop (key : Term) (fallback : Option Term)
  | size
  | has (key : Term)
  | items
  | layers
  | clear

/-- Requests about values, settings and configurations. -/
inductive ConfigRequest where
  | constants
  | errorClasses
  | settings
  | limitSettings
  | readSetting (setting : String) (source : Term)
  | environment (env : Term)
  | limitsFrom (conf : Term)
  | newLimits (given : List Term) (named : List (String × Term))
  | equalLimits (a b : Term)
  | shown (value : Term)
  | newConfig (sources : List Term)
  /-- Everything a host does at its start: merge, set the level of the log, read the limits. -/
  | host (sources : List Term) (env : Term)
  | value (value : Term)
  | mapping (mapping : Term) (query : MappingQuery)

/-- Requests to the log. -/
inductive LogRequest where
  | configure (conf : Term)
  | setLevel (level : Term)
  | level
  | write (severity : Severity) (message : Term)

mutual

/-- What a receiver does with a delivery. -/
inductive Reaction where
  /-- Nothing more than to take note. -/
  | record
  /-- Fails with a message. -/
  | raise (message : Term)
  /-- Carries out steps and reports each, failures included. -/
  | report (steps : List Step)
  /-- Carries out steps unreported and fails with the first failure. -/
  | perform (steps : List Step)

/-- Requests about events. -/
inductive EventRequest where
  /-- Connects a receiver, for one sender if one is given; it reacts `times` times. -/
  | connect (event receiver : String) (sender : Option Term) (reaction : Reaction) (times : Nat)
  | disconnect (event receiver : String)
  | signal (event : String)
  | emit (event : String) (sender : Term) (payload : List (String × Term))

/-- A request of any subject. -/
inductive Request where
  | store (request : StoreRequest)
  | context (request : ContextRequest)
  /-- Makes a view. -/
  | newView (data : Option Term)
  | view (view : Term) (query : ViewQuery)
  | config (request : ConfigRequest)
  | log (request : LogRequest)
  | event (request : EventRequest)

/-- A request, the name of the store it concerns, and the name for its result. -/
inductive Step where
  | mk (request : Request) (store : String) (save : Option String)

end

instance : Inhabited Reaction := ⟨.record⟩

instance : Inhabited Request := ⟨.log .level⟩

instance : Inhabited Step := ⟨.mk default "" none⟩

namespace Step

/-- The request of a step. -/
def request : Step → Request
  | mk request _ _ => request

/-- The name of the store that a step concerns. -/
def store : Step → String
  | mk _ store _ => store

/-- The name under which the result of a step is to be saved. -/
def save : Step → Option String
  | mk _ _ save => save

end Step

mutual

/-- How often, at most, the receivers connected in a reaction can act. -/
def Reaction.weight : Reaction → Nat
  | .record | .raise _ => 0
  | .report steps | .perform steps => Step.totalWeight steps

/-- How often, at most, the receivers that a request leads to can act. -/
def Request.weight : Request → Nat
  | .event (.connect _ _ _ reaction times) => times * (1 + reaction.weight)
  | _ => 0

/-- How often, at most, the receivers that a step leads to can act. -/
def Step.weight : Step → Nat
  | .mk request _ _ => request.weight

/-- How often, at most, the receivers that steps lead to can act. -/
def Step.totalWeight : List Step → Nat
  | [] => 0
  | step :: rest => step.weight + Step.totalWeight rest

end

end BoundedVars
