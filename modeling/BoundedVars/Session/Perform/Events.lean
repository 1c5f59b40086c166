import BoundedVars.Session.Result

/-!
# Requests about events

Connecting and disconnecting receivers, and sending events of one's own.
-/

namespace BoundedVars.Run

/-- Connects a receiver in the place of any that is connected under the same name.  It counts as
listening to everybody when its sender is zero, although connecting it is a failure. -/
def connect (event : String) (subscription : Subscription) : Run Unit := do
  let held := (← get).held
  let connected := (← subscribers event).filterMap fun old =>
    if old.receiver ≠ subscription.receiver || old.isReplaced then some old
    else if held.contains old.serial then some { old with isReplaced := true }
    else none
  setSubscribers event (connected ++ [subscription])
  if let some sender := subscription.sender then
    if sender.identity = .int 0 then throw .senderZero

/-- Carries out a request about events. -/
def performEvent (react : Reactor) : EventRequest → Run Result
  | .connect event receiver sender reaction times => do
    let sender ← sender.mapM Term.eval
    connect event ⟨← freshSerial, receiver, sender, reaction, times, false⟩
    return .nothing
  | .disconnect event receiver => do
    let connected ← subscribers event
    setSubscribers event (connected.filter fun s => s.receiver != receiver || s.isReplaced)
    return .nothing
  | .signal event => do
    let connected ← subscribers event
    return .datum (.list [.text event, .bool true, .int connected.length])
  | .emit event sender payload => do
    let sender ← sender.eval
    let payload ← Term.evalNamed payload
    if payload.any (·.1 == "sender") then throw .eventSenderTwice
    if payload.any (·.1 == "name") then throw .eventNameTwice
    let said ← emit react ⟨event, sender, payload⟩
    let sorted := said.mergeSort fun a b => a.1 ≤ b.1
    return .datum (.list (sorted.map fun entry => .list [.text entry.1, .text entry.2]))

end BoundedVars.Run
