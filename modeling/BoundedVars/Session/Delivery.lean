import BoundedVars.Session.Evaluation

/-!
# Delivering events

An event goes to the receivers that are connected to its name and listen to its sender when it is
sent; one that is disconnected before its turn comes is passed over.  Each delivery is noted, then
the receiver reacts, unless it has reacted as often as it should.

A receiver that is connected once more under its name is replaced by the new one.  If an event is
just being delivered to it, it stays connected until that delivery has ended.

A receiver that fails ends the delivery, and the failure is logged and goes no further: whoever
announces an event has already done what the event is about.  But the message about it has to be put
together first, and if the failure has no wording that can be had, the failure to find one does go
further.  So does a failure of the log itself.

How a receiver reacts is a parameter here, because reactions can carry out any steps.
-/

namespace BoundedVars

/-- A way of carrying out reactions. -/
abbrev Reactor := Reaction → Run Unit

/-- An event: its name, who sends it, and what it says. -/
structure Event where
  name : String
  sender : Value
  fields : List (String × Value)

namespace Event

/-- The field for the time of an event. -/
def timeField : String := "ts"

/-- The field for the name of an event, which senders must not use. -/
def nameField : String := "event"

/-- A field that the delivery takes for itself. -/
def reservedField : String := "_async_wrapper"

/-- The fields of an event as a receiver sees them, by name: those given, the name of the event,
and the time, unless one is given. -/
def shownFields (event : Event) (s : Session) : Except Failure (List (String × FieldDatum)) := do
  let given ← (event.fields.filter fun field => field.1 != reservedField).mapM fun field => do
    return (field.1, FieldDatum.datum (← s.datum field.2))
  let time := if event.fields.any (·.1 == timeField) then [] else [(timeField, FieldDatum.now)]
  return ((nameField, FieldDatum.datum (.text event.name)) :: given ++ time).mergeSort
    fun a b => a.1 ≤ b.1

/-- What a receiver says when it has reacted: its name and the key the event is about. -/
def acknowledgement (event : Event) (h : Heap) (receiver : String) : Except Failure String := do
  return receiver ++ ":" ++ (← h.plainText ((event.fields.lookup "key").getD .none))

end Event

namespace Run

/-- The receivers connected to an event. -/
def subscribers (event : String) : Run (List Subscription) := do
  return ((← get).subscriptions.get? event).getD []

/-- Replaces the receivers connected to an event. -/
def setSubscribers (event : String) (subscriptions : List Subscription) : Run Unit :=
  modify fun s => { s with subscriptions := s.subscriptions.insert event subscriptions }

/-- Counts a reaction of a subscription. -/
def countReaction (event : String) (serial : Nat) : Run Unit := do
  let subscriptions ← subscribers event
  setSubscribers event (subscriptions.map fun subscription =>
    if subscription.serial = serial then
      { subscription with remaining := subscription.remaining - 1 }
    else subscription)

/-- Delivers an event to one receiver, which reacts if it still should. -/
def deliver (react : Reactor) (event : Event) (subscription : Subscription) : Run String := do
  let shown ← datum event.sender
  let fields ← ofExcept (event.shownFields (← get))
  note (.delivered subscription.receiver event.sender.identity shown fields)
  if subscription.remaining = 0 then return "done"
  else
    countReaction event.name subscription.serial
    react subscription.reaction
    read fun h => event.acknowledgement h subscription.receiver

/-- Notes that an event is being delivered to a subscription. -/
def hold (serial : Nat) : Run Unit :=
  modify fun s => { s with held := serial :: s.held }

/-- Ends the delivery of an event that began when the subscriptions `held` were held.  Replaced
subscriptions that nothing holds any more go. -/
def release (held : List Nat) : Run Unit :=
  modify fun s =>
    let stays (subscription : Subscription) : Bool :=
      !subscription.isReplaced || held.contains subscription.serial
    { s with
      held := held
      subscriptions := s.subscriptions.mapValues (·.filter stays) }

/-- The result or failure of something, neither of which ends what is going on. -/
def attempt {α : Type} (run : Run α) : Run (Except Failure α) :=
  tryCatch (do return .ok (← run)) fun failure => return .error failure

/-- Delivers an event to receivers in turn, those no longer connected left out. -/
def deliverAll (react : Reactor) (event : Event) : List Subscription → Run (List (String × String))
  | [] => return []
  | subscription :: rest => do
    match (← subscribers event.name).find? (·.serial == subscription.serial) with
    | none => deliverAll react event rest
    | some current =>
      hold current.serial
      let said ← deliver react event current
      return (current.receiver, said) :: (← deliverAll react event rest)

/-- Sends an event to all receivers that listen to its sender. -/
def send (react : Reactor) (event : Event) : Run (List (String × String)) := do
  if event.fields.any (·.1 == Event.nameField) then throw .eventFieldTwice
  let held := (← get).held
  let receivers := (← subscribers event.name).filter (·.listensTo event.sender)
  let said ← attempt (deliverAll react event receivers)
  release held
  ofExcept said

/-- The message about a receiver that failed; `wording` is the message of its failure. -/
def receiverMessage (event wording : String) : String :=
  "Event subscriber error for " ++ Markup.escape event ++ ": " ++ Markup.escape wording

/-- Logs that a receiver failed, whether or not anybody reads it. -/
def reportReceiver (event : String) (failure : Failure) : Run Unit := do
  let wording ← read fun h => h.message failure
  log .error (receiverMessage event wording) (some failure.category)

/-- Sends an event and answers what the receivers said, nothing if one failed. -/
def emit (react : Reactor) (event : Event) : Run (List (String × String)) :=
  tryCatch (send react event) fun failure => do
    reportReceiver event.name failure
    return []

/-- Gives one notice of an operation on the store at an address. -/
def giveNotice (react : Reactor) (address : Nat) : Notice → Run Unit
  | .log severity message => log severity message none
  | .change change => do
    let _ ← emit react ⟨change.event, .store address, change.payload⟩

/-- Carries out an operation on the store at an address: changes the store, gives the notices in
order, and ends with the result. -/
def operate (react : Reactor) (address : Nat) (operation : Store.Operation) : Run Unit := do
  let h ← heap
  let outcome := (h.store address).outcome operation
  setHeap (h.setStore address outcome.store)
  outcome.notices.forM (giveNotice react address)
  ofExcept outcome.result

end Run

end BoundedVars
