import BoundedVars.Heap

/-!
# The written form of values

`Heap.written` writes a value out the way error messages and the log show it: texts between quotes,
the items of a list between brackets, the entries of a dictionary between braces.

An object can contain itself.  While one is being written, it is written by three dots where it
comes again, inside its own kind of brackets.  What has no dots of its own, limits or a view whose
entries were replaced, cannot be written when it leads back to itself; the depth to which values
are followed is bounded, and going beyond is a failure.  What is not built in is written by a
function of its own and takes up several levels of that depth.  An integer of too many digits cannot
be written, either.
-/

namespace BoundedVars

/-- How deep values can be nested. -/
def nestingLimit : Nat := 1000

/-- How many levels a value takes up while it is written, besides one. -/
def Value.writingLevels : Value → Nat
  | limits .. => 1
  | view .. | context _ => 2
  | config _ => 4
  | _ => 0

/-- Texts with a comma between them. -/
def commaSeparated (texts : List String) : String :=
  ", ".intercalate texts

/-- Texts between braces. -/
def braced (texts : List String) : String :=
  "\x7b" ++ commaSeparated texts ++ "\x7d"

namespace Written

/-- Texts between brackets. -/
def list (items : List String) : String :=
  "[" ++ commaSeparated items ++ "]"

/-- Texts between parentheses; a single one is followed by a comma. -/
def tuple : List String → String
  | [item] => "(" ++ item ++ ",)"
  | items => "(" ++ commaSeparated items ++ ")"

/-- The four limits with their names. -/
def limits (values : List String) : String :=
  "Limits(" ++ commaSeparated ((Limit.all.zip values).map fun e => e.1.key ++ "=" ++ e.2) ++ ")"

/-- What a view shows. -/
def view (entries : String) : String :=
  "ReadOnlyVars(" ++ entries ++ ")"

/-- The layers of a configuration. -/
def config (layers : List String) : String :=
  "ChainMap(" ++ commaSeparated layers ++ ")"

/-- The attributes of a context. -/
def context (attributes : String) : String :=
  "SimpleScriptContext(" ++ attributes ++ ")"

/-- An object of which only the kind is known. -/
def object (kind : String) : String :=
  "<" ++ kind ++ " object>"

/-- A dictionary inside itself. -/
def dictAgain : String := braced ["..."]

end Written

namespace Heap

variable (h : Heap)

/-- A value written out, nested at most `depth` deep once `steps` more levels are taken up; `inside`
lists what is being written. -/
def writtenWithin : Nat → Nat → List Identity → Value → Except Failure String
  | 0, _, _, _ => .error .endlessText
  | depth + 1, steps + 1, inside, v => writtenWithin depth steps inside v
  | depth + 1, 0, inside, v =>
    let again := inside.contains v.identity
    let partAfter (steps : Nat) (w : Value) :=
      writtenWithin depth (steps + w.writingLevels) (v.identity :: inside) w
    let part := partAfter 0
    let entriesAfter (steps : Nat) (es : List (Value × Value)) : Except Failure String := do
      return braced (← es.mapM fun e => do
        return (← partAfter steps e.1) ++ ": " ++ (← partAfter steps e.2))
    match v with
    | .none => return "None"
    | .bool b => return Bound.boolText b
    | .int n => writtenInteger n
    | .text s => return Text.quoted s
    | .float _ x => return x.text
    | .bytes _ bs => return Text.quotedBytes bs
    | .list _ items => do
      if again then return Written.list ["..."] else return Written.list (← items.mapM part)
    | .tuple _ items => do
      if again then return "(...)" else return Written.tuple (← items.mapM part)
    | .limits _ a b c d => do return Written.limits (← [a, b, c, d].mapM part)
    | .view serial es =>
      match h.replacement? serial with
      | some value => do return Written.view (← part value)
      | none => do
        if again then return Written.view Written.dictAgain
        else return Written.view (← entriesAfter 0 es)
    | .dict _ address => do
      if again then return Written.dictAgain else entriesAfter 0 (h.dict address).entries
    | .config address => do
      if again then return "..."
      let config := h.config address
      -- The own entries and the defaults are dictionaries, which take up a level themselves.
      let own ← entriesAfter 1 config.own.entries
      let sources ← config.sources.mapM part
      let defaults ← entriesAfter 1 Setting.defaults
      return Written.config (own :: sources ++ [defaults])
    | .context address => do
      if again then return Written.context Written.dictAgain
      return Written.context (← entriesAfter 0 (h.context address).entries)
    | .store address => return (h.store address).summary
    | other => return Written.object other.kind

/-- A value written out. -/
def written (v : Value) : Except Failure String :=
  h.writtenWithin nestingLimit v.writingLevels [] v

/-- A value as it stands in running text: a text as it is, anything else written out. -/
def plainText : Value → Except Failure String
  | .text s => .ok s
  | other => h.written other

/-- The message of a failure. -/
def message (failure : Failure) : Except Failure String :=
  failure.message h.written

end Heap

end BoundedVars
