import BoundedVars.Proofs.Session.Development
import BoundedVars.Proofs.Session.Notices
import BoundedVars.Proofs.Session.Sequential

/-!
# The history of a session

While receivers react, calls are made inside of other calls.  The history of what is done in a
session says which calls were made, in the order in which they were started, each with the session
in which it was made and with what came of it, and when changes were announced (`Happening`).

An `Account` is something to carry out together with what happens when it is carried out.  The
accounts below are those of the ways in which a session makes calls and sends events, and what they
carry out is what the session carries out (`run_react` and the equations that lead to it), so that
`Session.history` is about sessions as they are.
-/

namespace BoundedVars

/-- A call as it was made: to the store at an address, in a session, and what came of it. -/
structure Made where
  address : Nat
  call : Call
  start : Session
  result : Except Failure Result

/-- Something that happens in a session. -/
inductive Happening where
  /-- A call is started. -/
  | called (made : Made)
  /-- A change of the store at an address is about to be announced. -/
  | announced (address : Nat) (change : Change) (moment : Session)

/-- Something to carry out, and what happens when it is carried out. -/
structure Account (α : Type) where
  run : Run α
  history : Session → List Happening

namespace Account

variable {α β : Type}

/-- Something of which there is nothing to tell. -/
def still (run : Run α) : Account α :=
  ⟨run, fun _ => []⟩

instance : MonadLift Run Account := ⟨still⟩

/-- What happens in a sequence is what happens in its first part, followed by what happens in the
second unless the first fails. -/
protected def bind (first : Account α) (next : α → Account β) : Account β where
  run := first.run >>= fun a => (next a).run
  history s := first.history s ++
    match first.run.on s with
    | (.ok a, t) => (next a).history t
    | (.error _, _) => []

instance : Monad Account where
  pure a := still (pure a)
  bind := Account.bind

/-- What happens when something is tried is followed by what happens when its failure is handled. -/
def handling (tried : Account α) (handle : Failure → Account α) : Account α where
  run := tryCatch tried.run fun failure => (handle failure).run
  history s := tried.history s ++
    match tried.run.on s with
    | (.ok _, _) => []
    | (.error failure, t) => (handle failure).history t

/-- The result or failure of something, neither of which ends what is going on. -/
def attempt (tried : Account α) : Account (Except Failure α) :=
  handling (do return .ok (← tried)) fun failure => return .error failure

@[simp] theorem run_still (run : Run α) : (still run).run = run := rfl

@[simp] theorem run_liftM (run : Run α) : (liftM run : Account α).run = run := rfl

@[simp] theorem run_pure (a : α) : (pure a : Account α).run = pure a := rfl

@[simp] theorem run_bind (first : Account α) (next : α → Account β) :
    (first >>= next).run = first.run >>= fun a => (next a).run := rfl

@[simp] theorem run_handling (tried : Account α) (handle : Failure → Account α) :
    (handling tried handle).run = tryCatch tried.run fun failure => (handle failure).run := rfl

@[simp] theorem run_ite (p : Prop) [Decidable p] (first second : Account α) :
    (if p then first else second).run = if p then first.run else second.run :=
  apply_ite run p first second

@[simp] theorem run_forM (f : α → Account PUnit) (as : List α) :
    (forM as f).run = forM as fun a => (f a).run := by
  induction as with
  | nil => rfl
  | cons a rest ih => exact congrArg (fun next => (f a).run >>= fun _ => next) ih

@[simp] theorem run_foldlM (f : β → α → Account β) (as : List α) (b : β) :
    (as.foldlM f b).run = as.foldlM (fun b a => (f b a).run) b := by
  induction as generalizing b with
  | nil => rfl
  | cons a rest ih =>
    rw [List.foldlM_cons, List.foldlM_cons, run_bind]
    exact congrArg _ (funext fun b => ih b)

theorem history_bind (first : Account α) (next : α → Account β) (s : Session) :
    (first >>= next).history s = first.history s ++
      match first.run.on s with
      | (.ok a, t) => (next a).history t
      | (.error _, _) => [] := rfl

theorem history_handling (tried : Account α) (handle : Failure → Account α) (s : Session) :
    (handling tried handle).history s = tried.history s ++
      match tried.run.on s with
      | (.ok _, _) => []
      | (.error failure, t) => (handle failure).history t := rfl

theorem history_bind_pure (account : Account α) (f : α → β) (s : Session) :
    (account >>= fun a => pure (f a)).history s = account.history s := by
  rw [history_bind]
  cases account.run.on s with
  | mk result t => cases result <;> exact List.append_nil _

/-! ### Events -/

/-- A way of carrying out reactions, with an account of each. -/
abbrev Reactor := Reaction → Account Unit

/-- The reactions without the accounts. -/
def Reactor.run (react : Reactor) : BoundedVars.Reactor :=
  fun reaction => (react reaction).run

/-- The delivery of an event to one receiver. -/
def deliver (react : Reactor) (event : Event) (subscription : Subscription) : Account String := do
  let shown ← Run.datum event.sender
  let fields ← Run.ofExcept (event.shownFields (← still get))
  Run.note (.delivered subscription.receiver event.sender.identity shown fields)
  if subscription.remaining = 0 then return "done"
  else
    Run.countReaction event.name subscription.serial
    react subscription.reaction
    Run.read fun h => event.acknowledgement h subscription.receiver

/-- The delivery of an event to receivers in turn. -/
def deliverAll (react : Reactor) (event : Event) :
    List Subscription → Account (List (String × String))
  | [] => return []
  | subscription :: rest => do
    match (← still (Run.subscribers event.name)).find? (·.serial == subscription.serial) with
    | none => deliverAll react event rest
    | some current =>
      Run.hold current.serial
      let said ← deliver react event current
      return (current.receiver, said) :: (← deliverAll react event rest)

/-- The sending of an event. -/
def send (react : Reactor) (event : Event) : Account (List (String × String)) := do
  if event.fields.any (·.1 == Event.nameField) then still (throw .eventFieldTwice)
  else
    let held := (← still get).held
    let receivers := (← still (Run.subscribers event.name)).filter (·.listensTo event.sender)
    let said ← attempt (deliverAll react event receivers)
    Run.release held
    Run.ofExcept said

/-- The sending of an event, where the failure of a receiver is logged. -/
def emit (react : Reactor) (event : Event) : Account (List (String × String)) :=
  handling (send react event) fun failure => do
    Run.reportReceiver event.name failure
    return []

@[simp] theorem run_deliver (react : Reactor) (event : Event) (subscription : Subscription) :
    (deliver react event subscription).run = Run.deliver react.run event subscription := by
  simp [deliver, Run.deliver, Reactor.run]

@[simp] theorem run_deliverAll (react : Reactor) (event : Event)
    (subscriptions : List Subscription) :
    (deliverAll react event subscriptions).run =
      Run.deliverAll react.run event subscriptions := by
  induction subscriptions with
  | nil => rfl
  | cons subscription rest ih =>
    rw [deliverAll, Run.deliverAll, run_bind, run_still]
    refine congrArg _ (funext fun connected => ?_)
    cases connected.find? (·.serial == subscription.serial) <;> simp [ih]

@[simp] theorem run_attempt (tried : Account α) : (attempt tried).run = Run.attempt tried.run := rfl

@[simp] theorem run_send (react : Reactor) (event : Event) :
    (send react event).run = Run.send react.run event := by
  unfold send Run.send
  split_ifs with hnamed
  · rfl
  · simp only [run_bind, run_still, run_liftM, run_attempt, run_deliverAll]

@[simp] theorem run_emit (react : Reactor) (event : Event) :
    (emit react event).run = Run.emit react.run event := by
  simp [emit, Run.emit]

/-! ### Calls -/

/-- The announcement of a change of the store at an address. -/
def announce (react : Reactor) (address : Nat) (change : Change) : Account Unit :=
  let sent : Account Unit := do
    let _ ← emit react (change.announcement address)
  ⟨sent.run, fun s => .announced address change s :: sent.history s⟩

/-- One notice of an operation. -/
def giveNotice (react : Reactor) (address : Nat) : Notice → Account Unit
  | .log severity message => Run.log severity message none
  | .change change => announce react address change

/-- The notices of an outcome, and then its result. -/
def conclude (react : Reactor) (address : Nat) (outcome : Outcome) : Account Unit := do
  outcome.notices.forM (giveNotice react address)
  Run.ofExcept outcome.result

/-- An operation on the store at an address. -/
def operate (react : Reactor) (address : Nat) (operation : Store.Operation) : Account Unit := do
  let h ← still Run.heap
  let outcome := (h.store address).outcome operation
  Run.setHeap (h.setStore address outcome.store)
  conclude react address outcome

/-- What happens inside a call. -/
def answer (react : Reactor) (address : Nat) : Call → Account Result
  | .update operation => do
    operate react address operation
    return .nothing
  | .updateFromContext context key value => do
    let script ← Run.scriptOf context
    operate react address (.setScript script key value)
    return .nothing
  | call => Run.call react.run address call

/-- A call of the store at an address: first of all it is started. -/
def call (react : Reactor) (address : Nat) (call : Call) : Account Result where
  run := (answer react address call).run
  history s := .called ⟨address, call, s, ((answer react address call).run.on s).1⟩
    :: (answer react address call).history s

@[simp] theorem run_announce (react : Reactor) (address : Nat) (change : Change) :
    (announce react address change).run = Run.giveNotice react.run address (.change change) := by
  simp only [announce, run_bind, run_emit]
  rfl

theorem run_giveNotice (react : Reactor) (address : Nat) (notice : Notice) :
    (giveNotice react address notice).run = Run.giveNotice react.run address notice := by
  cases notice with
  | log => rfl
  | change change => exact run_announce react address change

@[simp] theorem run_conclude (react : Reactor) (address : Nat) (outcome : Outcome) :
    (conclude react address outcome).run = Run.conclude react.run address outcome := by
  simp only [conclude, Run.conclude, List.forM_eq_forM, run_bind, run_forM, run_giveNotice,
    run_liftM]

@[simp] theorem run_operate (react : Reactor) (address : Nat) (operation : Store.Operation) :
    (operate react address operation).run = Run.operate react.run address operation := by
  simp only [operate, run_bind, run_still, run_liftM, run_conclude]
  rfl

theorem run_answer (react : Reactor) (address : Nat) (call : Call) :
    (answer react address call).run = Run.call react.run address call := by
  cases call with
  | update operation => simp only [answer, run_bind, run_operate, run_pure, Run.call]
  | updateFromContext context key value =>
    simp only [answer, run_bind, run_liftM, run_operate, run_pure, Run.call]
  | _ => rfl

@[simp] theorem run_call (react : Reactor) (address : Nat) (call : Call) :
    (Account.call react address call).run = Run.call react.run address call :=
  run_answer react address call

variable {s : Session} {operation : Store.Operation} {made : Call}

theorem history_call (react : Reactor) (address : Nat) (made : Call) (s : Session) :
    (call react address made).history s =
      .called ⟨address, made, s, ((Run.call react.run address made).on s).1⟩
        :: (answer react address made).history s := by
  rw [← run_answer]
  rfl

theorem history_operate (react : Reactor) (address : Nat) (s : Session)
    (operation : Store.Operation) :
    (operate react address operation).history s =
      (conclude react address ((s.heap.store address).outcome operation)).history
        (Run.changed s address operation) := rfl

/-- Inside a call that carries out an operation nothing happens before the store has changed. -/
theorem history_answer_of_operation (react : Reactor) (address : Nat)
    (hoperation : made.operation? s.heap = some operation) :
    (answer react address made).history s =
      (conclude react address ((s.heap.store address).outcome operation)).history
        (Run.changed s address operation) := by
  rcases Call.operation?_cases hoperation with
    rfl | ⟨context, key, value, name, rfl, hname, rfl⟩
  · rw [answer, history_bind_pure, history_operate]
  · have hscript : (liftM (Run.scriptOf context) : Account Value).run.on s =
        (.ok (.text name), s) := by
      rw [run_liftM, Run.on_scriptOf, hname]
      rfl
    rw [answer, history_bind, hscript]
    dsimp only
    rw [history_bind_pure, history_operate]
    rfl

/-- Inside any other call nothing happens. -/
theorem history_answer_of_no_operation (react : Reactor) (address : Nat)
    (hread : made.operation? s.heap = none) : (answer react address made).history s = [] := by
  cases made with
  | update operation => cases hread
  | updateFromContext context key value =>
    have hscript : ∃ failure, (liftM (Run.scriptOf context) : Account Value).run.on s =
        (.error failure, s) := by
      rw [run_liftM, Run.on_scriptOf]
      cases hname : s.heap.scriptName context with
      | ok name =>
        rw [Call.operation?, Call.resolved, hname] at hread
        cases hread
      | error failure => exact ⟨failure, rfl⟩
    obtain ⟨failure, hscript⟩ := hscript
    rw [answer, history_bind, hscript]
    rfl
  | _ => rfl

end Account

/-- The call that a request to a store comes to, once the store has been found and the arguments
have been evaluated. -/
def StoreRequest.call? (name : String) : StoreRequest → Option (Run (Nat × Call))
  | .create _ | .setLimits _ | .fill .. => none
  | .limits => some do return (← Run.storeAddress name, .limits)
  | .setGlobal key value => some do
    let address ← Run.storeAddress name
    let key ← key.eval
    let value ← value.eval
    return (address, .update (.setGlobal key value))
  | .getGlobal key => some do
    let address ← Run.storeAddress name
    return (address, .getGlobal (← key.eval))
  | .getGlobals => some do return (← Run.storeAddress name, .getGlobals)
  | .clearGlobals => some do return (← Run.storeAddress name, .update .clearGlobals)
  | .setScript script key value => some do
    let address ← Run.storeAddress name
    let script ← script.eval
    let key ← key.eval
    let value ← value.eval
    return (address, .update (.setScript script key value))
  | .getScript script key => some do
    let address ← Run.storeAddress name
    let script ← script.eval
    return (address, .getScript script (← key.eval))
  | .getScriptVars script => some do
    let address ← Run.storeAddress name
    return (address, .getScriptVars (← script.eval))
  | .clearScript script => some do
    let address ← Run.storeAddress name
    return (address, .update (.clearScript (← script.eval)))
  | .scriptNames => some do return (← Run.storeAddress name, .scriptNames)
  | .setFromContext context key value => some do
    let address ← Run.storeAddress name
    let context ← context.eval
    let key ← key.eval
    let value ← value.eval
    return (address, .updateFromContext context key value)
  | .getFromContext context key => some do
    let address ← Run.storeAddress name
    let context ← context.eval
    return (address, .getFromContext context (← key.eval))
  | .getVarsFromContext context => some do
    let address ← Run.storeAddress name
    return (address, .getVarsFromContext (← context.eval))
  | .clear => some do return (← Run.storeAddress name, .update .clear)
  | .snapshot => some do return (← Run.storeAddress name, .snapshot)
  | .summary => some do return (← Run.storeAddress name, .summary)

theorem Run.performStore_of_call? (react : Reactor) {name : String} {request : StoreRequest}
    {prepare : Run (Nat × Call)} (hcall : request.call? name = some prepare) :
    Run.performStore react name request =
      prepare >>= fun prepared => Run.call react prepared.1 prepared.2 := by
  cases request <;> cases hcall <;> simp [Run.performStore]

namespace Account

/-! ### Requests -/

/-- A variable of a series, written by a call. -/
def fillStep (react : Reactor) (address : Nat) (keyStart : String) (value : Value)
    (script : Option Value) (report : Nat × List (Int × Complaint)) (i : Int) :
    Account (Nat × List (Int × Complaint)) :=
  let key := Value.text (keyStart ++ signedDecimal i)
  let operation : Store.Operation := match script with
    | some script => .setScript script key value
    | none => .setGlobal key value
  handling
    (do
      let _ ← call react address (.update operation)
      return (report.1 + 1, report.2))
    fun failure => do return (report.1, report.2 ++ [(i, (← still Run.heap).complaint failure)])

/-- A request to the store of a name. -/
def performStore (react : Reactor) (name : String) (request : StoreRequest) : Account Result :=
  match request.call? name with
  | some prepare => do
    let prepared ← still prepare
    call react prepared.1 prepared.2
  | none =>
    match request with
    | .fill keyStart first last value script => do
      let address ← Run.storeAddress name
      let keyStart ← keyStart.eval
      let value ← value.eval
      let script ← still (script.mapM Term.eval)
      let numbers := (List.range (last - first).toNat).map fun (i : Nat) => first + i
      let (done, failed) ←
        numbers.foldlM (fillStep react address keyStart.textContent value script) (0, [])
      return .filled done failed
    | request => Run.performStore react.run name request

/-- A request about events. -/
def performEvent (react : Reactor) : EventRequest → Account Result
  | .emit event sender payload => do
    let sender ← sender.eval
    let payload ← Term.evalNamed payload
    if payload.any (·.1 == "sender") then still (throw .eventSenderTwice)
    else if payload.any (·.1 == "name") then still (throw .eventNameTwice)
    else
      let said ← emit react ⟨event, sender, payload⟩
      let sorted := said.mergeSort fun a b => a.1 ≤ b.1
      return .datum (.list (sorted.map fun entry => .list [.text entry.1, .text entry.2]))
  | request => Run.performEvent react.run request

/-- A request of any subject. -/
def perform (react : Reactor) (store : String) : Request → Account Result
  | .store request => performStore react store request
  | .event request => performEvent react request
  | request => Run.perform react.run store request

/-- What comes after a request: saving the result, and the answer. -/
def finish (step : Step) (result : Result) : Run Answer := do
  match step.save, result with
  | some name, .value v => Run.save name v
  | _, _ => pure ()
  result.answer

/-- A step. -/
def performStep (react : Reactor) (step : Step) : Account Answer := do
  let result ← perform react step.store step.request
  finish step result

/-- A reaction, inside of which at most `budget` more take place, one inside the other. -/
def react : Nat → Reactor
  | budget + 1, .report steps =>
    steps.forM fun step => do
      let result ← attempt (performStep (react budget) step)
      Run.note (.nested (result.mapError (← still Run.heap).complaint))
  | budget + 1, .perform steps =>
    steps.forM fun step => do
      let _ ← performStep (react budget) step
  | budget, reaction => Run.react budget reaction

@[simp] theorem run_fillStep (react : Reactor) (address : Nat) (keyStart : String) (value : Value)
    (script : Option Value) (report : Nat × List (Int × Complaint)) (i : Int) :
    (fillStep react address keyStart value script report i).run =
      Run.fillStep react.run address keyStart value script report i := by
  cases script <;> simp [fillStep, Run.fillStep, Run.call]

@[simp] theorem run_performStore (react : Reactor) (name : String) (request : StoreRequest) :
    (performStore react name request).run = Run.performStore react.run name request := by
  unfold performStore
  cases hcall : request.call? name with
  | some prepare =>
    rw [Run.performStore_of_call? react.run hcall]
    simp
  | none =>
    cases request with
    | fill => simp [Run.performStore]
    | _ => rfl

@[simp] theorem run_performEvent (react : Reactor) (request : EventRequest) :
    (performEvent react request).run = Run.performEvent react.run request := by
  cases request with
  | emit event sender payload =>
    simp only [performEvent, Run.performEvent, run_bind, run_liftM, run_ite, run_still, run_emit,
      run_pure]
    refine congrArg _ (funext fun sender => congrArg _ (funext fun payload => ?_))
    split_ifs <;> rfl
  | _ => rfl

@[simp] theorem run_perform (react : Reactor) (store : String) (request : Request) :
    (perform react store request).run = Run.perform react.run store request := by
  cases request with
  | store request => exact run_performStore react store request
  | event request => exact run_performEvent react request
  | _ => rfl

@[simp] theorem run_performStep (react : Reactor) (step : Step) :
    (performStep react step).run = Run.performStep react.run step := by
  simp only [performStep, Run.performStep, run_bind, run_perform, run_liftM]
  refine congrArg _ (funext fun result => ?_)
  cases hsave : step.save <;> cases result <;> simp [finish, hsave]

/-- **The account of a reaction carries it out.** -/
theorem run_react (budget : Nat) : Reactor.run (react budget) = Run.react budget := by
  induction budget with
  | zero => funext reaction; cases reaction <;> rfl
  | succ budget ih =>
    funext reaction
    cases reaction with
    | report steps => simp [Reactor.run, react, Run.react, ih]
    | perform steps => simp [Reactor.run, react, Run.react, ih]
    | _ => rfl

end Account

namespace Session

/-- What happens in an action. -/
def happenings (budget : Nat) (s : Session) : Action → List Happening
  | .step step => (Account.performStep (Account.react budget) step).history { s with trace := [] }
  | .call address call => (Account.call (Account.react budget) address call).history s

/-- What happens in actions, one after another. -/
def history (budget : Nat) (s : Session) : List Action → List Happening
  | [] => []
  | action :: rest => s.happenings budget action ++ (s.act budget action).history budget rest

end Session

end BoundedVars
