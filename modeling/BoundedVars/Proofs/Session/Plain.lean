import BoundedVars.Proofs.Session.Sequential
import BoundedVars.Proofs.Wording

/-!
# Calls whose messages are plain

Writing to a global variable, clearing a script and reporting a receiver that failed each say one
thing about a text of the user: a key, the name of a script, what a failure says.  Whatever that
text is, the message is plain, so the log never makes such a call fail
(`messages_about_one_text_are_plain`).

The log comes into it only once there is a text.  If a receiver fails and it cannot be put into
words how, the call ends in the failure to write something out, which is none of markup
(`Speechless.cannotBeWritten`).
-/

namespace BoundedVars.Run

open Heap Markup Store

variable {react : Reactor} {address : Nat} {s t : Session} {change : Change} {unshown : Failure}

theorem Speechless.cannotBeWritten (h : Speechless react address change s unshown t) :
    CannotBeWritten unshown := by
  obtain ⟨failure, -, hmessage⟩ := h
  exact failsOnly_message t.heap failure unshown hmessage

theorem BreaksOff.cannotBeWritten {changes : List Change}
    (h : BreaksOff react address s changes unshown t) : CannotBeWritten unshown := by
  induction h with
  | now _ hspeechless => exact hspeechless.cannotBeWritten
  | later _ _ ih => exact ih

/-- Logging does not hinder a call: it ends as its operation does, or announcing its changes breaks
off, because it cannot be written out how a receiver has failed. -/
def Unhindered (react : Reactor) (address : Nat) (s : Session) (operation : Operation) : Prop :=
  let outcome := (s.heap.store address).outcome operation
  let result := ((Run.call react address (.update operation)).on s).1
  result = outcome.result.map (fun _ => .nothing) ∨
    ∃ unshown u, result = .error unshown ∧ CannotBeWritten unshown ∧
      Interrupted react address outcome (changed s address operation) unshown u

/-- A call whose messages are plain is not hindered, at any level of the log. -/
theorem unhindered_of_isPlain (operation : Operation)
    (h : AllMessages IsPlain ((s.heap.store address).outcome operation).notices) :
    Unhindered react address s operation := by
  rcases on_call_fst react address (Call.operation?_update s.heap operation) with
    hends | ⟨unshown, u, hcall, hinterrupted⟩
  · left
    rw [hends, Outcome.resultAt_of_renders h.renders]
  · obtain ⟨_, -, hbreaks⟩ := hinterrupted.breaks
    exact Or.inr ⟨unshown, u, congrArg Prod.fst hcall, hbreaks.cannotBeWritten, hinterrupted⟩

/-- **Messages about one text are plain**, so the log does not make the call fail: neither a write
to a global variable, nor clearing a script, nor the report of a receiver that failed.  Announcing a
change ends well unless it cannot be written out how a receiver has failed. -/
theorem messages_about_one_text_are_plain (react : Reactor) (address : Nat) (s : Session) :
    (∀ key value : Value,
      AllMessages IsPlain ((s.heap.store address).setGlobal key value).notices ∧
        Unhindered react address s (.setGlobal key value)) ∧
    (∀ script : Value,
      AllMessages IsPlain ((s.heap.store address).clearScript script).notices ∧
        Unhindered react address s (.clearScript script)) ∧
    ∀ change : Change,
      (∀ wording, IsPlain (receiverMessage change.event wording)) ∧
        (∀ failure, ((reportReceiver change.event failure).on s).1 =
          (s.heap.message failure).map fun _ => ()) ∧
        ∃ t, (giveNotice react address (.change change)).on s = (.ok (), t) ∨
          ∃ unshown, (giveNotice react address (.change change)).on s = (.error unshown, t) ∧
            CannotBeWritten unshown ∧ Speechless react address change s unshown t := by
  refine ⟨fun key value => ?_, fun script => ?_, fun change =>
    ⟨isPlain_receiverMessage change, fun failure => ?_, ?_⟩⟩
  · have hplain := (writing_writeChecked (s.heap.store address) .global key value).isPlain_global
    exact ⟨hplain, unhindered_of_isPlain (.setGlobal key value) hplain⟩
  · have hplain := isPlain_clearScript (s.heap.store address) script
    exact ⟨hplain, unhindered_of_isPlain (.clearScript script) hplain⟩
  · -- The report fails only if there are no words for the failure.
    cases hmessage : s.heap.message failure with
    | ok wording =>
      obtain ⟨t, hreport, -⟩ := on_reportReceiver_ok change hmessage
      rw [hreport]
      rfl
    | error unshown =>
      rw [on_reportReceiver_error change.event hmessage]
      rfl
  · obtain ⟨t, hannounce | ⟨unshown, hannounce, hspeechless⟩⟩ :=
      on_giveNotice_change react address s change
    · exact ⟨t, Or.inl hannounce⟩
    · exact ⟨t, Or.inr ⟨unshown, hannounce, hspeechless.cannotBeWritten, hspeechless⟩⟩

end BoundedVars.Run
