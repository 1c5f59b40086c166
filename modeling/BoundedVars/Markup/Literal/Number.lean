import BoundedVars.Markup.Literal.Cut

/-!
# Where a number ends

A number begins with a digit, or with a point before a digit.  Digits may be grouped by single
underscores; after `0x`, `0o` and `0b` they are those of the radix; a fraction, an exponent and the
mark `j` of an imaginary number may follow.  `Number.finish` passes over the number.
Letters right behind a number are a fault, unless they are one of the words that may follow one.
-/

namespace BoundedVars.Markup.Literal.Number

/-- What can be wrong with a number; `kind` is the kind of number that was begun. -/
inductive Fault where
  | invalid (kind : String)
  | badDigit (digit : Char) (kind : String)
  | leadingZeros
  deriving Repr, DecidableEq

/-- The wording of a fault. -/
def Fault.message : Fault → String
  | invalid kind => "invalid " ++ kind ++ " literal"
  | badDigit digit kind =>
    "invalid digit '" ++ String.singleton digit ++ "' in " ++ kind ++ " literal"
  | leadingZeros =>
    "leading zeros in decimal integer literals are not permitted; "
      ++ "use an 0o prefix for octal integers"

/-- A character that would make a word of the one before it: a letter or digit of ASCII, the
underscore, or anything beyond ASCII. -/
def isWordPart (c : Char) : Bool :=
  c.isAlphanum || c = '_' || 128 ≤ c.toNat

/-- The characters begin with the given ones. -/
def startsWith (cs : List Char) (word : String) : Bool :=
  word.toList.isPrefixOf cs

/-- The characters begin with a word that may stand right behind a number. -/
def startsFollower (cs : List Char) : Bool :=
  (["and", "else", "for", "or", "not"].any fun word =>
    startsWith cs word && !((cs.drop word.length).head?.any isWordPart))
  || ["if", "in", "is"].any (startsWith cs)

/-- A number of the given kind ends here.  Characters beyond ASCII are no matter of the number. -/
def finishAt (kind : String) (cut : Cut) : Except Fault Cut :=
  if cut.startsWith (fun c => isWordPart c && c.toNat < 128) && !startsFollower cut.rest then
    .error (.invalid kind)
  else .ok cut

/-- Passes over a run of digits with single underscores before some of them; when no digit follows
an underscore, over that. -/
def afterDigits (isDigit : Char → Bool) (passed : Nat) : List Char → Except Cut Cut
  | [] => .ok ⟨passed, []⟩
  | ['_'] => .error ⟨passed + 1, []⟩
  | '_' :: c :: rest =>
    if isDigit c then afterDigits isDigit (passed + 2) rest else .error ⟨passed + 1, c :: rest⟩
  | c :: rest =>
    if isDigit c then afterDigits isDigit (passed + 1) rest else .ok ⟨passed, c :: rest⟩

/-- Passes over a run of decimal digits. -/
def afterDecimals (cut : Cut) : Except Fault Cut :=
  (afterDigits Char.isDigit cut.passed cut.rest).mapError fun _ => .invalid "decimal"

/-- The fault of what is found in place of a digit of the radix. -/
def radixFault (kind : String) (cut : Cut) : Fault :=
  match cut.head? with
  | some c => if c.isDigit && kind != "hexadecimal" then .badDigit c kind else .invalid kind
  | none => .invalid kind

/-- Passes over a number of the given radix, from the character behind its mark on. -/
def finishRadix (kind : String) (isDigit : Char → Bool) (cut : Cut) : Except Fault Cut :=
  if cut.startsWith fun c => c = '_' || isDigit c then do
    let cut ← (afterDigits isDigit cut.passed cut.rest).mapError (radixFault kind)
    if cut.startsWith Char.isDigit then .error (radixFault kind cut) else finishAt kind cut
  else .error (radixFault kind cut)

/-- The end of a number, perhaps an imaginary one, from the character behind its digits on. -/
def finishDecimal (cut : Cut) : Except Fault Cut :=
  if cut.startsWith fun c => c = 'j' || c = 'J' then finishAt "imaginary" (cut.skip 1)
  else finishAt "decimal" cut

/-- The end of a number that has an exponent if one begins here. -/
def finishExponent (cut : Cut) : Except Fault Cut :=
  if cut.startsWith fun c => c = 'e' || c = 'E' then
    let exponent := cut.skip 1
    if exponent.startsWith fun c => c = '+' || c = '-' then
      if (exponent.skip 1).startsWith Char.isDigit then do
        finishDecimal (← afterDecimals (exponent.skip 1))
      else .error (.invalid "decimal")
    else if exponent.startsWith Char.isDigit then do finishDecimal (← afterDecimals exponent)
    else finishAt "decimal" cut
  else finishDecimal cut

/-- The end of a number, from the character behind its point on. -/
def finishFraction (cut : Cut) : Except Fault Cut := do
  finishExponent (← if cut.startsWith Char.isDigit then afterDecimals cut else .ok cut)

/-- Passes over a run of zeros with single underscores before some digits. -/
def afterZeros (passed : Nat) : List Char → Except Fault Cut
  | [] => .ok ⟨passed, []⟩
  | ['_'] => .error (.invalid "decimal")
  | '_' :: c :: rest =>
    if c = '0' then afterZeros (passed + 2) rest
    else if c.isDigit then .ok ⟨passed + 1, c :: rest⟩
    else .error (.invalid "decimal")
  | c :: rest => if c = '0' then afterZeros (passed + 1) rest else .ok ⟨passed, c :: rest⟩

/-- The end of a number that begins with zeros and has no mark of a radix.  An integer other than
zero must not begin with one. -/
def finishZeros (cut : Cut) : Except Fault Cut := do
  let digits ← afterZeros cut.passed cut.rest
  let isNonzero := digits.startsWith Char.isDigit
  let cut ← if isNonzero then afterDecimals digits else .ok digits
  if cut.startsWith (· == '.') then finishFraction (cut.skip 1)
  else if cut.startsWith ['e', 'E', 'j', 'J'].contains then finishExponent cut
  else if isNonzero then .error .leadingZeros
  else finishAt "decimal" cut

/-- A hexadecimal digit. -/
def isHexDigit (c : Char) : Bool :=
  c.isDigit || ('a' ≤ c && c ≤ 'f') || ('A' ≤ c && c ≤ 'F')

/-- The end of a number, from the character behind its first zero on. -/
def finishZero (cut : Cut) : Except Fault Cut :=
  if cut.startsWith fun c => c = 'x' || c = 'X' then
    finishRadix "hexadecimal" isHexDigit (cut.skip 1)
  else if cut.startsWith fun c => c = 'o' || c = 'O' then
    finishRadix "octal" (fun c => '0' ≤ c && c ≤ '7') (cut.skip 1)
  else if cut.startsWith fun c => c = 'b' || c = 'B' then
    finishRadix "binary" (fun c => c = '0' || c = '1') (cut.skip 1)
  else finishZeros cut

/-- Passes over the number that begins here. -/
def finish (cut : Cut) : Except Fault Cut :=
  if cut.startsWith (· == '0') then finishZero (cut.skip 1)
  else if cut.startsWith (· == '.') then finishFraction (cut.skip 1)
  else do
    let cut ← afterDecimals cut
    if cut.startsWith (· == '.') then finishFraction (cut.skip 1) else finishExponent cut

end BoundedVars.Markup.Literal.Number
