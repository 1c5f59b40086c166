import BoundedVars.Proofs.Session.Recording

/-!
# Rules for requests

A step can contain steps, those of the receivers it connects, and these can connect receivers in
turn.  A step obeys a rule if its request does, and the requests of all steps in it.  A session
obeys a rule if its receivers do: whatever they are told of, they do nothing against the rule.
-/

namespace BoundedVars

/-- A rule that requests obey or not. -/
abbrev Rule := Request → Prop

mutual

/-- The requests of all steps in a reaction obey a rule. -/
def Reaction.Obeys (rule : Rule) : Reaction → Prop
  | .record | .raise _ => True
  | .report steps | .perform steps => Step.AllObey rule steps

/-- A request obeys a rule, and so do those of all steps in it. -/
def Request.Obeys (rule : Rule) : Request → Prop
  | .event (.connect event receiver sender reaction times) =>
    rule (.event (.connect event receiver sender reaction times)) ∧ reaction.Obeys rule
  | request => rule request

/-- The request of a step obeys a rule, and so do those of all steps in it. -/
def Step.Obeys (rule : Rule) : Step → Prop
  | .mk request _ _ => request.Obeys rule

/-- All steps of a list obey a rule. -/
def Step.AllObey (rule : Rule) : List Step → Prop
  | [] => True
  | step :: rest => step.Obeys rule ∧ Step.AllObey rule rest

end

variable {rule : Rule}

theorem Request.Obeys.self {request : Request} (h : request.Obeys rule) : rule request := by
  cases request with
  | event request =>
    cases request with
    | connect => exact h.1
    | _ => exact h
  | _ => exact h

theorem Step.Obeys.request {step : Step} (h : step.Obeys rule) : step.request.Obeys rule := by
  cases step
  exact h

theorem Step.allObey_iff {steps : List Step} :
    Step.AllObey rule steps ↔ ∀ step ∈ steps, step.Obeys rule := by
  induction steps with
  | nil => simp [Step.AllObey]
  | cons step rest ih => simp [Step.AllObey, ih]

mutual

/-- A rule that allows everything is obeyed. -/
theorem Reaction.obeys_of_forall (h : ∀ request, rule request) :
    ∀ reaction : Reaction, reaction.Obeys rule
  | .record | .raise _ => trivial
  | .report steps | .perform steps => Step.allObey_of_forall h steps

theorem Request.obeys_of_forall (h : ∀ request, rule request) :
    ∀ request : Request, request.Obeys rule
  | .event (.connect _ _ _ reaction _) => ⟨h _, Reaction.obeys_of_forall h reaction⟩
  | .event (.disconnect ..) | .event (.signal _) | .event (.emit ..) => h _
  | .store _ | .context _ | .newView _ | .view .. | .config _ | .log _ => h _

theorem Step.obeys_of_forall (h : ∀ request, rule request) : ∀ step : Step, step.Obeys rule
  | .mk request _ _ => Request.obeys_of_forall h request

theorem Step.allObey_of_forall (h : ∀ request, rule request) :
    ∀ steps : List Step, Step.AllObey rule steps
  | [] => trivial
  | step :: rest => ⟨Step.obeys_of_forall h step, Step.allObey_of_forall h rest⟩

end

/-- All receivers of a session obey a rule. -/
def Session.Obeys (rule : Rule) (s : Session) : Prop :=
  ∀ event, ∀ subscription ∈ s.connected event, subscription.reaction.Obeys rule

theorem Session.obeys_of_forall (h : ∀ request, rule request) (s : Session) : s.Obeys rule :=
  fun _ subscription _ => Reaction.obeys_of_forall h subscription.reaction

end BoundedVars
