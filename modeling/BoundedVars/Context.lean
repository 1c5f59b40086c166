import BoundedVars.Mapping

/-!
# Contexts

Scripts run in contexts, and the store asks a context for the name of its script.  A context is a
mapping, which is asked for an entry, or an object with an answer of its own to a request for an
attribute; nothing else is a context.
-/

namespace BoundedVars.Heap

variable (h : Heap)

/-- What an attributed dictionary answers to a request for an attribute, whatever its entries. -/
def attributedAnswer : String := "from-get-attribute"

/-- The answer of an object to a request for an attribute. -/
def getAttribute (v name : Value) : Except Failure Value :=
  match v with
  | .context address => do
    return (← (h.context address).find? name).getD .none
  | .dict true _ => .ok (.text attributedAnswer)
  | .raising _ message => .error (.raised message)
  | .notCallable _ => .error (.notCallable "str")
  | other => .error (.noAttribute other.kind "get_attribute")

/-- Looks an attribute up in a context. -/
def lookup (context name : Value) : Except Failure Value :=
  if context.isMapping then h.get context name .none
  else
    match context with
    | .context _ | .raising .. => h.getAttribute context name
    | other => .error (.contextUnsupported other.kind)

/-- The name of the script that runs in a context. -/
def scriptName (context : Value) : Except Failure String :=
  match context with
  | .none => .error .contextMissing
  | context => do
    match ← h.lookup context (.text scriptNameAttribute) with
    | .none => throw .scriptUnset
    | .text name => return name
    | other => throw (.scriptAttributeNotText other.kind)

/-- Writes an attribute of a context. -/
def setAttribute (v name value : Value) : Except Failure Heap :=
  match v with
  | .context address => do return h.setContext address (← (h.context address).put name value)
  | other => .error (.noAttribute other.kind "set_attribute")

/-- Removes an attribute of a context and answers what it was. -/
def removeAttribute (v name : Value) : Except Failure (Value × Heap) :=
  match v with
  | .context address => do
    let (found, rest) ← (h.context address).take? name
    return (found.getD .none, h.setContext address rest)
  | other => .error (.noAttribute other.kind "remove_attribute")

end BoundedVars.Heap
