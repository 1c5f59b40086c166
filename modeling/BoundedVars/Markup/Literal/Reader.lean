import BoundedVars.Markup.Literal.Rule
import BoundedVars.Markup.Literal.Scan

/-!
# Reading by a grammar

`Rule.read` reads a rule at some place among the tokens of a text, by trying its alternatives in
order.  What has been read at a place is remembered for the rules that ask for it, so that trying
several alternatives costs no more than trying one.

Reading notes how many tokens it has asked for.  It stops where it asks for more tokens than could
be cut, where an alternative is a complaint, and where rules are nested too deep.
-/

namespace BoundedVars.Markup.Literal

/-- Why reading stopped. -/
inductive Stop where
  /-- a complaint about tokens that have been read -/
  | complaint (message : String)
  /-- a complaint about a text within a quoted text -/
  | innerComplaint (message : String)
  /-- a token was asked for that could not be cut -/
  | uncut (fault : Scan.Fault)
  /-- rules are nested too deep -/
  | tooDeep
  deriving Repr, DecidableEq

/-- What is read, and how quoted texts that belong together are made one. -/
structure Source where
  scan : Scan
  join : List Token → Except Stop Tree

/-- What was read of a rule at some place, and where that ended. -/
structure Memo where
  rule : Rule
  result : Option Tree
  finish : Nat

/-- Where reading stands: the number of the next token, the number of tokens asked for so far, how
deep rules are nested, whether mistakes are looked for, and what has been read at each place of the
rules that are remembered.  Readers pass their place on and keep none, so that the array is never
copied. -/
structure Place where
  position : Nat
  reached : Nat
  depth : Nat
  isStrict : Bool
  memos : Array (List Memo)

/-- The place before the first token, where nothing has been read yet. -/
def Source.start (source : Source) (reached : Nat) (isStrict : Bool) : Place :=
  ⟨0, reached, 0, isStrict, Array.replicate (source.scan.tokens.size + 1) []⟩

/-- A step of reading: what is there, if it fits. -/
abbrev Reader (α : Type) := Place → Except (Stop × Nat) (Option α × Place)

namespace Reader

variable {α β : Type}

/-- Stops for the given reason. -/
@[inline] def stop (reason : Stop) : Reader α := fun place =>
  .error (reason, place.reached)

/-- Does not fit. -/
@[inline] def fail : Reader α := fun place =>
  .ok (none, place)

/-- The most rules that may be nested. -/
def maxDepth : Nat := 6000

/-- Reads one level deeper. -/
@[inline] def deeper (reader : Reader α) : Reader α := fun place =>
  if maxDepth ≤ place.depth then .error (.tooDeep, place.reached)
  else do
    let depth := place.depth
    let (result, after) ← reader { place with depth := depth + 1 }
    return (result, { after with depth })

/-- Reads one level deeper if the condition holds. -/
@[inline] def deeperIf (condition : Bool) (reader : Reader α) : Reader α :=
  if condition then reader.deeper else reader

/-- Goes on with what was read. -/
@[inline] def andThen (reader : Reader α) (next : α → Reader β) : Reader β := fun place => do
  match ← reader place with
  | (none, place) => .ok (none, place)
  | (some a, place) => next a place

/-- What was read, changed. -/
@[inline] def map (f : α → β) (reader : Reader α) : Reader β := fun place => do
  let (result, place) ← reader place
  return (result.map f, place)

/-- Tries a second reader from the same place when the first does not fit. -/
@[inline] def orElse (first second : Reader α) : Reader α := fun place => do
  let start := place.position
  match ← first place with
  | (some a, place) => .ok (some a, place)
  | (none, after) => second { after with position := start }

/-- Reads, and gives whether it fits, without moving on. -/
@[inline] def peek (reader : Reader α) : Reader Bool := fun place => do
  let start := place.position
  let (result, after) ← reader place
  return (some result.isSome, { after with position := start })

/-- Reads as often as it fits, but at most the given number of times, after what has been `found`,
the last first. -/
def manyAfter (reader : Reader α) (found : List α) : Nat → Reader (List α)
  | 0 => fun place => .ok (some found.reverse, place)
  | times + 1 => fun place =>
    let start := place.position
    match reader place with
    | .error reason => .error reason
    | .ok (none, after) => .ok (some found.reverse, { after with position := start })
    | .ok (some a, place) => manyAfter reader (a :: found) times place

/-- Reads as often as it fits, but at most the given number of times. -/
def many (times : Nat) (reader : Reader α) : Reader (List α) :=
  manyAfter reader [] times

/-- The next token, if it satisfies `p`. -/
@[inline] def token (source : Source) (p : Token → Bool) : Reader Token := fun place =>
  let reached := max place.reached (place.position + 1)
  match source.scan.tokens[place.position]? with
  | some token =>
    if p token then .ok (some token, { place with position := place.position + 1, reached })
    else .ok (none, { place with reached })
  | none => .error (match source.scan.fault? with
    | some fault => (.uncut fault, place.reached)
    | none => (.tooDeep, place.reached))

end Reader

/-- What a token of a kind gives. -/
def Token.trees (token : Token) : List Tree :=
  match token.kind with
  | .name => [.node (.name token.text) []]
  | .number | .quoted => [.token token]
  | _ => []

mutual

/-- Reads a pattern, where `rule` reads a rule. -/
def Pattern.read (source : Source) (rule : Rule → Reader Tree) : Pattern → Reader (List Tree)
  | .word w => (Reader.token source (·.isWord w)).map fun _ => []
  | .oneOf words =>
    (Reader.token source fun token => words.any token.isWord).map fun token => [.token token]
  | .kind k =>
    (Reader.token source fun token => token.kind == k && (k != .name || token.isName)).map
      Token.trees
  | .softWord => (Reader.token source Token.isSoftWord).map fun _ => []
  | .phrase p => (rule (.phrase p)).map fun tree => [tree]
  | .mistake m => fun place =>
    if place.isStrict || m.isImmediate then (rule (.mistake m)).map (fun tree => [tree]) place
    else .ok (none, place)
  | .choice sequences => (Pattern.readAny source rule sequences).deeper
  | .optional sequence =>
    ((Pattern.readGroup source rule sequence).map fun tree => [tree]).orElse
      fun place => .ok (some [.absent], place)
  | .anyNumber sequence =>
    ((Reader.many (source.scan.tokens.size + 1) (Pattern.readGroup source rule sequence)).map
      fun found => [.list found]).deeper
  | .oneOrMore sequence =>
    let element := Pattern.readGroup source rule sequence
    (element.andThen fun first =>
      (Reader.many (source.scan.tokens.size + 1) element).map
        fun found => [.list (first :: found)]).deeper
  | .separated sequence =>
    let element := Pattern.readGroup source rule sequence
    (element.andThen fun first =>
      (Reader.many (source.scan.tokens.size + 1)
        ((Reader.token source (·.isWord ",")).andThen fun _ => element)).deeper.map
        fun found => [.list (first :: found)]).deeper
  | .ahead sequence =>
    (Pattern.readGroup source rule sequence).peek.andThen fun fits =>
      if fits then fun place => .ok (some [], place) else Reader.fail
  | .notAhead sequence =>
    (Pattern.readGroup source rule sequence).peek.andThen fun fits =>
      if fits then Reader.fail else fun place => .ok (some [], place)

/-- Reads a sequence of patterns. -/
def Pattern.readAll (source : Source) (rule : Rule → Reader Tree) :
    List Pattern → Reader (List Tree)
  | [] => fun place => .ok (some [], place)
  | pattern :: rest =>
    (Pattern.read source rule pattern).andThen fun trees =>
      (Pattern.readAll source rule rest).map (trees ++ ·)

/-- Reads a sequence of patterns as one tree, on a level of its own if there are several. -/
def Pattern.readGroup (source : Source) (rule : Rule → Reader Tree) :
    List Pattern → Reader Tree
  | [] => fun place => .ok (some .absent, place)
  | pattern :: rest =>
    (((Pattern.read source rule pattern).andThen fun trees =>
      (Pattern.readAll source rule rest).map (trees ++ ·)).map Tree.ofSequence).deeperIf
      (!rest.isEmpty)

/-- Reads the first of several sequences that fits. -/
def Pattern.readAny (source : Source) (rule : Rule → Reader Tree) :
    List (List Pattern) → Reader (List Tree)
  | [] => Reader.fail
  | sequence :: rest =>
    ((Pattern.readAll source rule sequence).map fun trees => [Tree.ofSequence trees]).orElse
      (Pattern.readAny source rule rest)

end

/-- Comes to the outcome of an alternative. -/
def Outcome.settle (source : Source) : Outcome → Reader Tree
  | .tree t => fun place => .ok (some t, place)
  | .nothing => Reader.fail
  | .complaint text => Reader.stop (.complaint text)
  | .complaintInside text => fun place =>
    match source.scan.tokens[place.position - 1]? with
    | some token =>
      if token.depth = 0 then .ok (none, place)
      else .error (.complaint text, place.reached)
    | none => .ok (none, place)
  | .quoted tokens => fun place =>
    match source.join (tokens.filterMap fun | .token t => some t | _ => none) with
    | .ok joined => .ok (some joined, place)
    | .error reason => .error (reason, place.reached)

/-- Reads the first of several alternatives that fits. -/
def Alternative.readAny (source : Source) (rule : Rule → Reader Tree) :
    List Alternative → Reader Tree
  | [] => Reader.fail
  | alternative :: rest => fun place => do
    let start := place.position
    match ← Pattern.readAll source rule alternative.parts place with
    | (none, after) =>
      Alternative.readAny source rule rest { after with position := start }
    | (some trees, place) =>
      ((Pattern.readAll source rule alternative.committed).andThen fun more =>
        (alternative.outcome (trees ++ more)).settle source) place

/-- What was read of a rule at the present place, if that is remembered. -/
def Place.recall? (rule : Rule) (place : Place) : Option Memo :=
  (place.memos.getD place.position []).find? (·.rule = rule)

/-- Remembers what was read of a rule at `start`, up to the present place. -/
def Place.remember (rule : Rule) (start : Nat) (result : Option Tree) (place : Place) : Place :=
  let finish := place.position
  { place with memos := place.memos.modify start (⟨rule, result, finish⟩ :: ·) }

/-- Reads a rule that may begin with itself again and again, each time with what was read last in
place of itself, for as long as that reaches farther. -/
def Reader.grow (rule : Rule) (reader : Reader Tree) (start : Nat) :
    Nat → Option Tree → Reader Tree
  | 0, best => fun place => .ok (best, place)
  | times + 1, best => fun place => do
    let finish := place.position
    let (result, after) ← reader { place.remember rule start best with position := start }
    if result.isSome && finish < after.position then
      Reader.grow rule reader start times result after
    else .ok (best, { after with position := finish })

/-- Reads by a definition of a rule. -/
def Definition.read (source : Source) (rule : Rule) (read : Rule → Reader Tree)
    (definition : Definition) : Reader Tree := fun place =>
  let reader := Alternative.readAny source read definition.alternatives
  match definition.memory with
  | .none =>
    if definition.isLenient then do
      let isStrict := place.isStrict
      let (result, after) ← reader { place with isStrict := false }
      return (result, { after with isStrict })
    else reader place
  | memory =>
    match place.recall? rule with
    | some memo => .ok (memo.result, { place with position := memo.finish })
    | none =>
      if memory = .growing then
        Reader.grow rule reader.deeper place.position (source.scan.tokens.size + 1) none place
      else do
        let start := place.position
        let (result, after) ← reader place
        return (result, after.remember rule start result)

/-- Reads a rule of a grammar in which at most `fuel` rules are nested. -/
def Rule.readWith (grammar : Rule → Definition) (source : Source) : Nat → Rule → Reader Tree
  | 0, _ => Reader.stop .tooDeep
  | fuel + 1, rule =>
    ((grammar rule).read source rule
      (fun inner => Rule.readWith grammar source fuel inner)).deeper

/-- Reads a rule of a grammar.  Each rule is a level deeper than the one it is read in, so that the
bound on levels is one on rules as well. -/
def Rule.read (grammar : Rule → Definition) (source : Source) (rule : Rule) : Reader Tree :=
  Rule.readWith grammar source (Reader.maxDepth + 1) rule

end BoundedVars.Markup.Literal
