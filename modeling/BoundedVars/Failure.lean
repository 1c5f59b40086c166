import BoundedVars.Markup.Render
import BoundedVars.Text.Quoted
import BoundedVars.Value

/-!
# Failures

Everything that can go wrong is a constructor of `Failure`, named for its cause.  The category of a
failure is what callers catch it by; its message is written once, in `Failure.message`.

A value that a message has to show is handed over in its written form, because showing a
dictionary takes the memory in which it lives.  An absent key alone is handed over as it is, and
written out by whoever asks for the message.  Not every key can be, so asking for the message can be
a failure of its own.
-/

namespace BoundedVars

/-- A compartment of a store, with a capacity of its own: the global variables, or those of one
script. -/
inductive Compartment where
  | global
  | script (name : String)
  deriving Repr, DecidableEq

/-- A compartment as messages name it. -/
def Compartment.text : Compartment → String
  | global => "global"
  | script name => "script '" ++ name ++ "'"

/-- What failures are caught by. -/
inductive Category where
  | invalidArgument
  | unsupportedOperation
  | type
  | value
  | key
  | index
  | attributeAccess
  | overflow
  | recursion
  | assertion
  | runtime
  | markup
  deriving Repr, DecidableEq

/-- The name under which a category is reported. -/
def Category.name : Category → String
  | invalidArgument => "InvalidArgumentError"
  | unsupportedOperation => "UnsupportedOperationError"
  | type => "TypeError"
  | value => "ValueError"
  | key => "KeyError"
  | index => "IndexError"
  | attributeAccess => "AttributeError"
  | overflow => "OverflowError"
  | recursion => "RecursionError"
  | assertion => "AssertionError"
  | runtime => "RuntimeError"
  | markup => "MarkupError"

/-- The categories that the library adds to the general ones, each with everything it is caught
by: its own name, the common name of the library's failures, and the general ones above. -/
def Category.lineages : List (List String) :=
  [["VariableStoreError", "Exception", "BaseException", "object"],
   ["InvalidArgumentError", "VariableStoreError", "ValueError", "Exception", "BaseException",
    "object"],
   ["UnsupportedOperationError", "VariableStoreError", "TypeError", "Exception", "BaseException",
    "object"]]

/-- The attribute of a context that names its script. -/
def scriptNameAttribute : String := "scriptvars.script.name"

/-- The kinds of sequences, each with its own word for an index. -/
inductive Sequence where
  | list
  | tuple
  | text
  | bytes
  deriving Repr, DecidableEq

namespace Sequence

/-- The complaint about an index of a kind that is no integer. -/
def badIndexText (kind : String) : Sequence → String
  | list => "list indices must be integers or slices, not " ++ kind
  | tuple => "tuple indices must be integers or slices, not " ++ kind
  | text => "string indices must be integers, not '" ++ kind ++ "'"
  | bytes => "byte indices must be integers or slices, not " ++ kind

/-- The complaint about an index beyond the items. -/
def outOfRangeText : Sequence → String
  | list => "list index out of range"
  | tuple => "tuple index out of range"
  | text => "string index out of range"
  | bytes => "index out of range"

end Sequence

/-- A cause of failure. -/
inductive Failure where
  /-- A variable needs a key. -/
  | keyMissing
  | keyNotText (kind : String)
  | keyTooLong (key : String) (shown : String)
  | valueNotText (kind : String)
  | valueTooLong (shown : String)
  /-- A script needs a name. -/
  | scriptMissing
  | scriptNotText (kind : String)
  /-- There is no room for another variable. -/
  | full (place : Compartment) (shown : String)
  | contextMissing
  | contextUnsupported (kind : String)
  /-- A context does not tell the name of its script. -/
  | scriptUnset
  | scriptAttributeNotText (kind : String)
  | settingNotInteger (key : String) (shown : String)
  | settingNotPositive (key : String) (value : Int)
  /-- A read-only view was to be changed. -/
  | readOnly
  /-- What refuses to change a view has an argument for the view, which is not to be given by
  name. -/
  | viewTwice
  /-- An object has no attribute of that name. -/
  | noAttribute (kind : String) (name : String)
  /-- An attribute is the same for all objects of its kind. -/
  | attributeShared (kind : String) (name : String)
  | attributeNameNotText (kind : String)
  /-- The kind of an object can only become another kind. -/
  | notKind (kind : String)
  /-- The limits of a store stay as they are. -/
  | limitsFixed
  /-- There is no such setting. -/
  | noSetting (name : String)
  /-- A length and a value of that kind have no order. -/
  | unordered (sign : String) (kind : String)
  | unhashable (kind : String)
  | absent (key : Value)
  /-- A key is absent from the part of a configuration that can be written. -/
  | absentFromOwn (shown : String)
  | notIterable (kind : String)
  | notContainer (kind : String)
  | noLength (kind : String)
  /-- A value of that kind has no items to ask for. -/
  | notSubscriptable (kind : String)
  /-- A sequence of some kind has its items under integers. -/
  | badIndex (sequence : Sequence) (kind : String)
  | indexOutOfRange (sequence : Sequence)
  | indexTooLarge
  /-- Only a text can stand in a text. -/
  | notTextIn (kind : String)
  /-- Only bytes can stand in bytes. -/
  | notBytesIn (kind : String)
  | notByte
  /-- A value of that kind cannot be changed item by item. -/
  | itemsFixed (kind : String)
  | itemsKept (kind : String)
  /-- The element at a position of a list of pairs cannot be taken apart. -/
  | notPair (position : Nat)
  | pairLength (position : Nat) (length : Nat)
  | notReversible (kind : String)
  | badOperands (sign : String) (left right : String)
  | notCallable (kind : String)
  /-- An infinity has no integer part. -/
  | infiniteInteger
  /-- An integer has too many digits to be written out. -/
  | integerTooLong
  /-- Digits that should make an integer do not. -/
  | numeral (fault : Numeral.Fault)
  | tooManyLimits (given : Nat)
  | limitTwice (name : String)
  | limitUnknown (name : String)
  | levelUnknown (shown : String)
  | levelNotUsable (shown : String)
  | markup (fault : Markup.Fault)
  /-- The error of someone else's making, with its own message. -/
  | raised (message : String)
  /-- An event already has a name. -/
  | eventNameTwice
  | eventSenderTwice
  /-- The payload of an event must leave its name alone. -/
  | eventFieldTwice
  /-- Zero cannot be told from no sender at all. -/
  | senderZero
  /-- Nothing has been saved under a name. -/
  | unnamed (name : String)
  /-- There is no end to going through a value that contains itself. -/
  | endless
  | endlessComparison
  | endlessText

namespace Failure

/-- What a failure is caught by. -/
def category : Failure → Category
  | keyMissing | keyNotText _ | keyTooLong .. | valueNotText _ | valueTooLong _ | scriptMissing
  | scriptNotText _ | full .. | contextMissing | contextUnsupported _ | scriptUnset
  | scriptAttributeNotText _ | settingNotInteger .. | settingNotPositive .. => .invalidArgument
  | readOnly => .unsupportedOperation
  | noAttribute .. | attributeShared .. | limitsFixed | noSetting _ => .attributeAccess
  | attributeNameNotText _ | notKind _ | unordered .. | unhashable _ | notIterable _
  | notContainer _ | noLength _ | notSubscriptable _ | badIndex .. | notTextIn _ | notBytesIn _
  | itemsFixed _ | itemsKept _ | notPair _ | notReversible _ | badOperands .. | notCallable _
  | tooManyLimits _ | limitTwice _ | limitUnknown _ | levelNotUsable _ | viewTwice | eventNameTwice
  | eventSenderTwice | eventFieldTwice => .type
  | absent _ | absentFromOwn _ | unnamed _ => .key
  | indexOutOfRange _ | indexTooLarge => .index
  | pairLength .. | notByte | integerTooLong | numeral _ | levelUnknown _ | markup (.channel _) =>
    .value
  | infiniteInteger => .overflow
  | endless | endlessComparison | endlessText => .recursion
  | senderZero => .assertion
  | markup _ => .markup
  | raised _ => .runtime

/-- The wording of a failure.  Where that is a key, the key has to be written out, which can
fail. -/
def message (written : Value → Except Failure String) : Failure → Except Failure String
  | keyMissing => return "Parameter key must not be None or empty."
  | keyNotText kind => return "Parameter key must be a string, got: " ++ kind
  | keyTooLong key shown =>
    return "Parameter key (" ++ key ++ ") has more than " ++ shown ++ " characters."
  | valueNotText kind => return "Parameter value must be a string, got: " ++ kind
  | valueTooLong shown => return "Value for variable has more than " ++ shown ++ " characters."
  | scriptMissing => return "Parameter script name must not be None or empty."
  | scriptNotText kind => return "Parameter script name must be a string, got: " ++ kind
  | full place shown =>
    return "Maximum number of " ++ place.text ++ " variables reached: " ++ shown
  | contextMissing => return "Parameter context must not be None."
  | contextUnsupported kind =>
    return "Unsupported context type " ++ kind
      ++ ", expected a mapping or an object with get_attribute()"
  | scriptUnset =>
    return "Failed to obtain the script name from the context, attribute '" ++ scriptNameAttribute
      ++ "' is not set."
  | scriptAttributeNotText kind =>
    return "The context attribute '" ++ scriptNameAttribute ++ "' is not a string: " ++ kind
  | settingNotInteger key shown =>
    return "Setting '" ++ key ++ "' must be an integer, got: " ++ shown
  | settingNotPositive key value =>
    return "Setting '" ++ key ++ "' must be positive, got: " ++ signedDecimal value
  | readOnly => return "Variables are read-only, use the store to change them."
  | viewTwice => return "ReadOnlyVars._unsupported() got multiple values for argument 'self'"
  | noAttribute kind name => return "'" ++ kind ++ "' object has no attribute '" ++ name ++ "'"
  | attributeShared kind name =>
    return "'" ++ kind ++ "' object attribute '" ++ name ++ "' is read-only"
  | attributeNameNotText kind => return "attribute name must be string, not '" ++ kind ++ "'"
  | notKind kind => return "__class__ must be set to a class, not '" ++ kind ++ "' object"
  | limitsFixed => return "property 'limits' of 'VariableStore' object has no setter"
  | noSetting name => return "type object 'Settings' has no attribute '" ++ name ++ "'"
  | unordered sign kind =>
    return "'" ++ sign ++ "' not supported between instances of 'int' and '" ++ kind ++ "'"
  | unhashable kind => return "unhashable type: '" ++ kind ++ "'"
  | absent key => written key
  | absentFromOwn shown => return Text.quoted ("Key not found in the first mapping: " ++ shown)
  | notIterable kind => return "'" ++ kind ++ "' object is not iterable"
  | notContainer kind => return "argument of type '" ++ kind ++ "' is not iterable"
  | noLength kind => return "object of type '" ++ kind ++ "' has no len()"
  | notSubscriptable kind => return "'" ++ kind ++ "' object is not subscriptable"
  | badIndex sequence kind => return sequence.badIndexText kind
  | indexOutOfRange sequence => return sequence.outOfRangeText
  | indexTooLarge => return "cannot fit 'int' into an index-sized integer"
  | notTextIn kind => return "'in <string>' requires string as left operand, not " ++ kind
  | notBytesIn kind => return "a bytes-like object is required, not '" ++ kind ++ "'"
  | notByte => return "byte must be in range(0, 256)"
  | itemsFixed kind => return "'" ++ kind ++ "' object does not support item assignment"
  | itemsKept kind => return "'" ++ kind ++ "' object doesn't support item deletion"
  | notPair position =>
    return "cannot convert dictionary update sequence element #" ++ decimal position
      ++ " to a sequence"
  | pairLength position length =>
    return "dictionary update sequence element #" ++ decimal position ++ " has length "
      ++ decimal length ++ "; 2 is required"
  | notReversible kind => return "'" ++ kind ++ "' object is not reversible"
  | badOperands sign left right =>
    return "unsupported operand type(s) for " ++ sign ++ ": '" ++ left ++ "' and '" ++ right ++ "'"
  | notCallable kind => return "'" ++ kind ++ "' object is not callable"
  | infiniteInteger => return "cannot convert float infinity to integer"
  | integerTooLong =>
    return "Exceeds the limit (" ++ decimal Numeral.maxDigits
      ++ " digits) for integer string conversion"
      ++ "; use sys.set_int_max_str_digits() to increase the limit"
  | numeral fault => return fault.message
  | tooManyLimits given =>
    return "Limits.__new__() takes from 1 to 5 positional arguments but " ++ decimal (given + 1)
      ++ " were given"
  | limitTwice name => return "Limits.__new__() got multiple values for argument '" ++ name ++ "'"
  | limitUnknown name =>
    return "Limits.__new__() got an unexpected keyword argument '" ++ name ++ "'"
  | levelUnknown shown => return "Unknown level: " ++ shown
  | levelNotUsable shown => return "Level not an integer or a valid string: " ++ shown
  | markup fault => return fault.message
  | raised message => return message
  | eventNameTwice => return "emit() got multiple values for argument 'name'"
  | eventSenderTwice =>
    return "scriptvars.events.emit() got multiple values for keyword argument 'sender'"
  | eventFieldTwice =>
    return "blinker.base.Signal.send() got multiple values for keyword argument 'event'"
  | senderZero => return ""
  | unnamed name => return Text.quoted name
  | endless => return "maximum recursion depth exceeded"
  | endlessComparison => return "maximum recursion depth exceeded in comparison"
  | endlessText => return "maximum recursion depth exceeded while getting the repr of an object"

end Failure

end BoundedVars
