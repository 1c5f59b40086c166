import BoundedVars.Proofs.Heap
import BoundedVars.Proofs.Keyed
import BoundedVars.Proofs.Layers
import BoundedVars.Proofs.Session.Calls

/-!
# What contexts say and what becomes of it

A context says something about the name of its script or makes an error (`Heap.Says`); what is no
context says nothing at all (`Heap.says_iff`).  A mapping says what its layers say, whether or not
it would answer to a request for an attribute too.  A script context says what was written to it
last and not removed since, whatever has been done to it (`Heap.says_changed`).

If a context says a text, then the calls with it do what the calls with that script do, in every
respect.  Otherwise they fail, the same way and without any effect (`Session.calls_with_context`).
-/

namespace BoundedVars

namespace Heap

variable {h : Heap} {context : Value} {name : String} {said : Except Failure Value}

/-! ### What a context says -/

/-- What a context says about an attribute: a mapping what its layers say, a script context what is
written in it, and others make an error of their own.  A mapping with something else among its
layers says whatever asking for the entry comes to. -/
inductive Says (h : Heap) (name : String) : Value → Except Failure Value → Prop
  | mapping {context : Value} (hlayered : h.Layered context) :
    Says h name context (.ok ((h.found? context (.text name)).getD .none))
  | broken {context : Value} (hmapping : context.isMapping = true)
    (hbroken : ¬h.Layered context) : Says h name context (h.get context (.text name) .none)
  | attributes (address : Nat) :
    Says h name (.context address) (.ok (((h.context address).get? (.text name)).getD .none))
  | raising (serial : Nat) (message : String) :
    Says h name (.raising serial message) (.error (.raised message))

/-- A value is a context: a mapping, or an object that answers to a request for an attribute. -/
inductive IsContext : Value → Prop
  | mapping {context : Value} (hmapping : context.isMapping = true) : IsContext context
  | attributes (address : Nat) : IsContext (.context address)
  | raising (serial : Nat) (message : String) : IsContext (.raising serial message)

/-- Contexts say something, and nothing else does. -/
theorem says_iff : (∃ said, h.Says name context said) ↔ IsContext context := by
  constructor
  · rintro ⟨said, hsaid⟩
    cases hsaid with
    | mapping hlayered => exact .mapping (isMapping_of_layered hlayered)
    | broken hmapping => exact .mapping hmapping
    | attributes address => exact .attributes address
    | raising serial message => exact .raising serial message
  · intro hcontext
    cases hcontext with
    | mapping hmapping =>
      by_cases hlayered : h.Layered context
      · exact ⟨_, .mapping hlayered⟩
      · exact ⟨_, .broken hmapping hlayered⟩
    | attributes address => exact ⟨_, .attributes address⟩
    | raising serial message => exact ⟨_, .raising serial message⟩

/-- Looking an attribute up comes to what the context says. -/
theorem Says.lookup_eq (hsaid : h.Says name context said) :
    h.lookup context (.text name) = said := by
  unfold lookup
  cases hsaid with
  | mapping hlayered =>
    rw [if_pos (isMapping_of_layered hlayered), get_of_hashable hlayered (Value.hashable_text name)]
  | broken hmapping => rw [if_pos hmapping]
  | attributes | raising => rfl

/-- The name of a script in what a context says. -/
def nameIn (said : Value) : Except Failure String :=
  match said with
  | .none => .error .scriptUnset
  | .text name => .ok name
  | other => .error (.scriptAttributeNotText other.kind)

/-- What is no text is complained about. -/
theorem complains_nameIn {said : Value} (hsaid : ∀ name, said ≠ .text name) :
    ∃ failure, nameIn said = .error failure ∧ failure.category = .invalidArgument := by
  cases said with
  | text name => exact absurd rfl (hsaid name)
  | _ => exact ⟨_, rfl, rfl⟩

theorem Says.scriptName_eq (hsaid : h.Says scriptNameAttribute context said) :
    h.scriptName context = said >>= nameIn := by
  have hcontext : IsContext context := says_iff.mp ⟨said, hsaid⟩
  rw [← hsaid.lookup_eq]
  cases context with
  | none =>
    cases hcontext with
    | mapping hmapping => cases hmapping
  | _ => rfl

/-- What is no context is complained about. -/
theorem complains_scriptName (hcontext : ¬IsContext context) :
    ∃ failure, h.scriptName context = .error failure ∧ failure.category = .invalidArgument := by
  cases context with
  | view | dict | config => exact absurd (.mapping rfl) hcontext
  | context address => exact absurd (.attributes address) hcontext
  | raising serial message => exact absurd (.raising serial message) hcontext
  | _ => exact ⟨_, rfl, rfl⟩

end Heap

/-! ### What is done to a context -/

/-- Something done to the attributes of a context. -/
inductive ContextChange where
  | set (name value : Value)
  | remove (name : Value)

namespace ContextChange

/-- The heap after something was done to a context; what fails changes nothing. -/
def apply (context : Value) (h : Heap) : ContextChange → Heap
  | set name value =>
    match h.setAttribute context name value with
    | .ok changed => changed
    | .error _ => h
  | remove name =>
    match h.removeAttribute context name with
    | .ok (_, changed) => changed
    | .error _ => h

/-- The attributes of a context after a change. -/
def applyTo (attributes : Entries) : ContextChange → Entries
  | set name value =>
    match attributes.put name value with
    | .ok changed => changed
    | .error _ => attributes
  | remove name =>
    match attributes.take? name with
    | .ok (_, changed) => changed
    | .error _ => attributes

/-- What a context says about an attribute because of a change, if the change is about it. -/
def said? (name : String) : ContextChange → Option Value
  | set other value => if other == .text name then some value else none
  | remove other => if other == .text name then some .none else none

/-- What a context says about an attribute after some changes, if it said `said` before. -/
def saidLast (name : String) (said : Value) (changes : List ContextChange) : Value :=
  (changes.reverse.findSome? (·.said? name)).getD said

end ContextChange

/-- The value of an attribute, nothing if there is none. -/
def Entries.attribute (attributes : Entries) (name : String) : Value :=
  (attributes.get? (.text name)).getD .none

namespace ContextChange

/-- What a change says about an attribute takes the place of what was said before. -/
theorem attribute_applyTo (attributes : Entries) (change : ContextChange) (name : String) :
    (change.applyTo attributes).attribute name =
      (change.said? name).getD (attributes.attribute name) := by
  -- A change with something that cannot be a key fails, and is about no attribute.
  have hother {other : Value} {kind : String} (hkind : other.unhashable? = some kind) :
      ¬(other == .text name) = true := by
    intro hsame
    rw [Value.beq_text_iff.mp hsame] at hkind
    cases hkind
  cases change with
  | set other value =>
    rw [applyTo, Entries.put, said?]
    cases hkind : other.unhashable? with
    | some kind => rw [if_neg (hother hkind)]; rfl
    | none =>
      simp only [Entries.attribute, Table.get?_insert_ite]
      split_ifs <;> rfl
  | remove other =>
    rw [applyTo, Entries.take?, Entries.find?, said?]
    by_cases hempty : attributes.isEmpty = true
    · obtain rfl := Table.eq_empty_of_isEmpty hempty
      split_ifs <;> rfl
    · rw [if_neg hempty]
      cases hkind : other.unhashable? with
      | some kind => rw [if_neg (hother hkind)]; rfl
      | none =>
        simp only [Except.ok_bind, Except.pure_eq_ok, Entries.attribute, Table.get?_erase_ite]
        split_ifs <;> rfl

end ContextChange

namespace Heap

variable {h : Heap} {address : Nat}

theorem context_setContext (haddress : address < h.contexts.size) (attributes : Entries) :
    (h.setContext address attributes).context address = attributes := by
  simp [context, setContext, haddress]

theorem setContext_context (h : Heap) (address : Nat) :
    h.setContext address (h.context address) = h := by
  rw [setContext, context, setIfInBounds_getD]

theorem apply_context (change : ContextChange) :
    change.apply (.context address) h =
      h.setContext address (change.applyTo (h.context address)) := by
  cases change with
  | set name value =>
    rw [ContextChange.apply, setAttribute, ContextChange.applyTo]
    cases (h.context address).put name value with
    | ok changed => rfl
    | error failure => exact (setContext_context h address).symm
  | remove name =>
    rw [ContextChange.apply, removeAttribute, ContextChange.applyTo]
    cases (h.context address).take? name with
    | ok changed => rfl
    | error failure => exact (setContext_context h address).symm

/-- **A context says what was done to it last.** -/
theorem attribute_changed (haddress : address < h.contexts.size) (changes : List ContextChange)
    (name : String) :
    ((changes.foldl (ContextChange.apply (.context address)) h).context address).attribute name =
      ContextChange.saidLast name ((h.context address).attribute name) changes := by
  induction changes generalizing h with
  | nil => rfl
  | cons change rest ih =>
    have hsize : (change.apply (.context address) h).contexts.size = h.contexts.size := by
      rw [apply_context]
      exact Array.size_setIfInBounds
    rw [List.foldl_cons, ih (hsize ▸ haddress), apply_context, context_setContext haddress,
      ContextChange.attribute_applyTo, ContextChange.saidLast, ContextChange.saidLast,
      List.reverse_cons, List.findSome?_append, List.findSome?_singleton]
    cases rest.reverse.findSome? (·.said? name) <;> rfl

end Heap

/-! ### Calls with a context -/

namespace Session

open Heap

/-- The calls with a context do what the calls with a script do: they end alike and leave the same
session. -/
structure CallsScript (s : Session) (context : Value) (name : String) : Prop where
  update : ∀ react address key value,
    (Run.call react address (.updateFromContext context key value)).on s =
      (Run.call react address (.update (.setScript (.text name) key value))).on s
  get : ∀ react address key, (Run.call react address (.getFromContext context key)).on s =
    (Run.call react address (.getScript (.text name) key)).on s
  getVars : ∀ react address, (Run.call react address (.getVarsFromContext context)).on s =
    (Run.call react address (.getScriptVars (.text name))).on s

/-- The calls with a context fail without any effect. -/
structure CallsFail (s : Session) (context : Value) (failure : Failure) : Prop where
  update : ∀ react address key value,
    (Run.call react address (.updateFromContext context key value)).on s = (.error failure, s)
  get : ∀ react address key,
    (Run.call react address (.getFromContext context key)).on s = (.error failure, s)
  getVars : ∀ react address,
    (Run.call react address (.getVarsFromContext context)).on s = (.error failure, s)

variable {s : Session} {context : Value}

theorem callsScript_of_scriptName {name : String} (hname : s.heap.scriptName context = .ok name) :
    s.CallsScript context name where
  update react address key value := by rw [Run.on_call_resolved, Call.resolved, hname]; rfl
  get react address key := by rw [Run.on_call_resolved, Call.resolved, hname]; rfl
  getVars react address := by rw [Run.on_call_resolved, Call.resolved, hname]; rfl

theorem callsFail_of_scriptName {failure : Failure}
    (hname : s.heap.scriptName context = .error failure) : s.CallsFail context failure where
  update react address key value := by rw [Run.on_call_resolved, Call.resolved, hname]; rfl
  get react address key := by rw [Run.on_call_resolved, Call.resolved, hname]; rfl
  getVars react address := by rw [Run.on_call_resolved, Call.resolved, hname]; rfl

/-- **Calls with a context are calls with the script that it names**, for any value in the place of
the context, any key and value, any store and any receivers.  Contexts say something about the name
of their script, and nothing else does.  If it is a text, the calls do what the calls with that
script do.  If it is anything else, or if there is no context, it is a complaint about an argument,
and if the context makes an error, it is that error; then nothing is changed, logged or announced.
A script context says what was done to the attribute last, or else what it said before. -/
theorem calls_with_context (s : Session) (context : Value) :
    ((∃ said, s.heap.Says scriptNameAttribute context said) ↔ IsContext context) ∧
    (∀ name, s.heap.Says scriptNameAttribute context (.ok (.text name)) →
      s.CallsScript context name) ∧
    (∀ said, s.heap.Says scriptNameAttribute context (.ok said) → (∀ name, said ≠ .text name) →
      ∃ failure, failure.category = .invalidArgument ∧ s.CallsFail context failure) ∧
    (∀ failure, s.heap.Says scriptNameAttribute context (.error failure) →
      s.CallsFail context failure) ∧
    (¬IsContext context →
      ∃ failure, failure.category = .invalidArgument ∧ s.CallsFail context failure) ∧
    ∀ (address : Nat) (changes : List ContextChange) (said : Value),
      address < s.heap.contexts.size →
      s.heap.Says scriptNameAttribute (.context address) (.ok said) →
      (changes.foldl (ContextChange.apply (.context address)) s.heap).Says scriptNameAttribute
        (.context address) (.ok (ContextChange.saidLast scriptNameAttribute said changes)) := by
  refine ⟨says_iff, ?_, ?_, ?_, ?_, ?_⟩
  · intro name hsaid
    exact callsScript_of_scriptName hsaid.scriptName_eq
  · intro said hsaid hnot
    obtain ⟨failure, hfails, hcategory⟩ := complains_nameIn hnot
    exact ⟨failure, hcategory, callsFail_of_scriptName (hsaid.scriptName_eq.trans hfails)⟩
  · intro failure hsaid
    exact callsFail_of_scriptName hsaid.scriptName_eq
  · intro hcontext
    obtain ⟨failure, hfails, hcategory⟩ := complains_scriptName hcontext
    exact ⟨failure, hcategory, callsFail_of_scriptName hfails⟩
  · intro address changes said haddress hsaid
    -- A script context says what stands under the attribute.
    obtain rfl : said = (s.heap.context address).attribute scriptNameAttribute := by
      cases hsaid with
      | mapping hlayered => cases isMapping_of_layered hlayered
      | attributes => rfl
    rw [← attribute_changed haddress]
    exact .attributes address

/-- A dictionary names its script by an entry, also if it would answer to a request for an attribute
with something else; removing an attribute of a context leaves it without a script. -/
theorem calls_with_attributed_dict :
    let entries : Entries := Table.ofList [(.text scriptNameAttribute, .text "s")]
    let s := withStore (Limits.default.toValue 0)
    let t := { s with heap := ((s.heap.newDict true entries).2.newContext entries).2 }
    let u := { t with heap :=
      (ContextChange.remove (.text scriptNameAttribute)).apply (.context 0) t.heap }
    t.CallsScript (.dict true 0) "s" ∧ t.CallsScript (.context 0) "s" ∧
      ∃ failure, failure.category = .invalidArgument ∧ u.CallsFail (.context 0) failure := by
  intro entries s t u
  obtain ⟨-, hdict, -⟩ := calls_with_context t (.dict true 0)
  obtain ⟨-, hcontext, -, -, -, hchanged⟩ := calls_with_context t (.context 0)
  obtain ⟨-, -, hremoved, -⟩ := calls_with_context u (.context 0)
  have hsays : t.heap.Says scriptNameAttribute (.context 0) (.ok (.text "s")) := .attributes 0
  refine ⟨hdict "s" (.mapping ⟨0, .dict 0 true 0⟩), hcontext "s" hsays, ?_⟩
  have hnone := hchanged 0 [.remove (.text scriptNameAttribute)] (.text "s") (by decide) hsays
  exact hremoved .none hnone nofun

end Session

end BoundedVars
