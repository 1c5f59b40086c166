import BoundedVars.Number.Double

/-!
# Values

What scripts and the host hand to the store is of many kinds, although variables hold text only.
Numbers, texts, bytes, lists, tuples, limits and read-only views are values outright.
Dictionaries, configurations, contexts and stores change, are shared, and live in the memory of a
session: a value that is one of them is its *address* (see `BoundedVars.Heap`).  The remaining
objects have nothing but a way of answering to a request for an attribute.

Two values can look the same and be two things.  Every value has an `Identity`: texts and integers
are known by what they are, what lives in memory by its address, and everything else by the serial
number it got when it was made.

Two values are the *same key* when a dictionary would not tell them apart: numbers by what they
count, whatever their kind, texts and tuples by content, objects by identity.  Values with mutable
content cannot be keys.
-/

namespace BoundedVars

/-- A value. -/
inductive Value where
  /-- Nothing. -/
  | none
  | bool (b : Bool)
  | int (n : Int)
  | text (s : String)
  | float (serial : Nat) (x : Double)
  | bytes (serial : Nat) (bytes : List UInt8)
  | list (serial : Nat) (items : List Value)
  | tuple (serial : Nat) (items : List Value)
  /-- The four capacity limits of a store: a tuple with named places. -/
  | limits (serial : Nat) (maxGlobalVars maxScriptVars maxKeySize maxValueSize : Value)
  /-- A read-only view with its own copy of the entries. -/
  | view (serial : Nat) (entries : List (Value × Value))
  /-- A dictionary.  An *attributed* one also answers to a request for an attribute. -/
  | dict (attributed : Bool) (address : Nat)
  /-- A configuration merged from dictionaries. -/
  | config (address : Nat)
  /-- A script context. -/
  | context (address : Nat)
  /-- A variable store. -/
  | store (address : Nat)
  /-- An object whose answer to a request for an attribute is an error. -/
  | raising (serial : Nat) (message : String)
  /-- An object whose `get_attribute` is a text instead of something to call. -/
  | notCallable (serial : Nat)
  /-- An object without any such request. -/
  | plain (serial : Nat)

/-- What tells a value from all others, also from those that look the same. -/
inductive Identity where
  | nothing
  | text (s : String)
  | int (n : Int)
  /-- At most one byte. -/
  | shortBytes (bytes : List UInt8)
  | emptyTuple
  | serial (n : Nat)
  | dict (address : Nat)
  | config (address : Nat)
  | context (address : Nat)
  | store (address : Nat)
  deriving Repr, DecidableEq

namespace Value

instance : Inhabited Value := ⟨none⟩

/-- The name of the kind of a value, as error messages give it. -/
def kind : Value → String
  | none => "NoneType"
  | bool _ => "bool"
  | int _ => "int"
  | text _ => "str"
  | float .. => "float"
  | bytes .. => "bytes"
  | list .. => "list"
  | tuple .. => "tuple"
  | limits .. => "Limits"
  | view .. => "ReadOnlyVars"
  | dict attributed _ => if attributed then "Hybrid" else "dict"
  | config _ => "ChainMap"
  | context _ => "SimpleScriptContext"
  | store _ => "VariableStore"
  | raising .. => "Raising"
  | notCallable _ => "NotCallable"
  | plain _ => "Opaque"

/-- The identity of a value.  A truth value is an integer, and of the sequences that never change
the shortest exist only once. -/
def identity : Value → Identity
  | none => .nothing
  | bool b => .int (if b then 1 else 0)
  | int n => .int n
  | text s => .text s
  | bytes serial bs => if bs.length ≤ 1 then .shortBytes bs else .serial serial
  | tuple serial items => if items.isEmpty then .emptyTuple else .serial serial
  | float serial _ | list serial _ | limits serial .. | view serial _ | raising serial _
  | notCallable serial | plain serial => .serial serial
  | dict _ address => .dict address
  | config address => .config address
  | context address => .context address
  | store address => .store address

/-- The view without entries that is handed out where there is nothing to see. -/
def emptyView : Value := view 0 []

/-! ### Numbers -/

/-- What a number counts; truth values count as zero and one. -/
inductive Number where
  | int (n : Int)
  | float (x : Double)
  deriving Repr, DecidableEq

/-- The number that a value is. -/
def number? : Value → Option Number
  | bool b => some (.int (if b then 1 else 0))
  | int n => some (.int n)
  | float _ x => some (.float x)
  | _ => Option.none

/-- Two numbers count the same.  A value that is no number equals nothing. -/
def Number.eq : Number → Number → Bool
  | .int m, .int n => m == n
  | .int m, .float x => x.compareInt? m == some .eq
  | .float x, .int n => x.compareInt? n == some .eq
  | .float x, .float y => x.compare? y == some .eq

/-! ### Keys -/

/-- The kind of the part of a value that keeps it from being a key: something with mutable content,
or a view. -/
def unhashable? : Value → Option String
  | list serial items => some (list serial items).kind
  | view serial entries => some (view serial entries).kind
  | dict attributed address => some (dict attributed address).kind
  | config address => some (config address).kind
  | tuple _ items => unhashableIn? items
  | limits _ a b c d =>
    a.unhashable? <|> b.unhashable? <|> c.unhashable? <|> d.unhashable?
  | _ => Option.none
where
  /-- The first such part in a list. -/
  unhashableIn? : List Value → Option String
    | [] => Option.none
    | x :: rest => x.unhashable? <|> unhashableIn? rest

/-- The items of a tuple, for limits their four places. -/
def tupleItems? : Value → Option (List Value)
  | tuple _ items => some items
  | limits _ a b c d => some [a, b, c, d]
  | _ => Option.none

/-- Two hashable values are the same key. -/
def sameKey : Value → Value → Bool
  | none, y => match y with
    | none => true
    | _ => false
  | bool a, y => isNumber (.int (if a then 1 else 0)) y
  | int a, y => isNumber (.int a) y
  | float serial .nan, y => match y with
    | float other .nan => serial == other
    | _ => false
  | float _ a, y => isNumber (.float a) y
  | text a, y => match y with
    | text b => a == b
    | _ => false
  | bytes _ a, y => match y with
    | bytes _ b => a == b
    | _ => false
  | tuple _ items, y => match y.tupleItems? with
    | some others => sameKeys items others
    | Option.none => false
  | limits _ a b c d, y => match y.tupleItems? with
    | some [a', b', c', d'] => a.sameKey a' && b.sameKey b' && c.sameKey c' && d.sameKey d'
    | _ => false
  | context a, y => match y with
    | context b => a == b
    | _ => false
  | store a, y => match y with
    | store b => a == b
    | _ => false
  | raising a _, y => match y with
    | raising b _ => a == b
    | _ => false
  | notCallable a, y => match y with
    | notCallable b => a == b
    | _ => false
  | plain a, y => match y with
    | plain b => a == b
    | _ => false
  | list .., _ | view .., _ | dict .., _ | config _, _ => false
where
  /-- A value counts the same as a number. -/
  isNumber (a : Number) (y : Value) : Bool :=
    match y.number? with
    | some b => a.eq b
    | Option.none => false
  /-- Two lists are the same keys in the same order. -/
  sameKeys : List Value → List Value → Bool
    | [], [] => true
    | x :: xs, y :: ys => x.sameKey y && sameKeys xs ys
    | _, _ => false

/-- Keys are compared by `sameKey`. -/
instance : BEq Value := ⟨sameKey⟩

end Value

end BoundedVars
