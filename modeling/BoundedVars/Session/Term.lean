import BoundedVars.Number.Double

/-!
# Terms

A session is driven by requests, and the arguments of a request are *terms*: descriptions of values
that are turned into values when the request is carried out.  A term can mention a value saved
earlier, and everything else in it is made anew each time.
-/

namespace BoundedVars

/-- A description of a value. -/
inductive Term where
  | none
  | bool (b : Bool)
  | int (n : Int)
  | float (x : Double)
  | text (s : String)
  | bytes (bytes : List UInt8)
  | list (items : List Term)
  | tuple (items : List Term)
  /-- A new dictionary. -/
  | dict (entries : List (Term × Term))
  /-- A new attributed dictionary with the entries of a mapping. -/
  | attributed (data : Term)
  /-- A read-only view of the entries that a value stands for. -/
  | view (data : Term)
  /-- Limits given by name. -/
  | limits (named : List (String × Term))
  /-- A text over and over. -/
  | repeated (text : Term) (times : Int)
  /-- Texts one behind the other. -/
  | joined (texts : List Term)
  /-- A new context with the entries that a value stands for. -/
  | context (data : Term)
  /-- A new object that answers to a request for an attribute with an error. -/
  | raising (message : String)
  /-- A new object with something that cannot be called in the place of such an answer. -/
  | notCallable
  /-- A new object without any such answer. -/
  | plain
  /-- The value saved under a name. -/
  | saved (name : String)

instance : Inhabited Term := ⟨.none⟩

end BoundedVars
