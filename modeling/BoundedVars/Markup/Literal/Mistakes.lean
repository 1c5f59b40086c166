import BoundedVars.Markup.Literal.Grammar

/-!
# What is commonly written wrong

`Mistake.definition` says what each mistake looks like and what is said of it.  A mistake that
turns out to be none has the outcome that nothing fits there.
-/

namespace BoundedVars.Markup.Literal

/-- The complaint about a missing comma. -/
def missingComma : List Tree → Outcome
  | tree :: _ =>
    match tree.legacyName? with
    | some _ => .nothing
    | none => .complaintInside "invalid syntax. Perhaps you forgot a comma?"
  | [] => .nothing

/-- The complaint about an instruction that used to be written without brackets. -/
def missingBrackets : List Tree → Outcome
  | tree :: _ =>
    match tree.legacyName? with
    | some name => .complaint
      ("Missing parentheses in call to '" ++ name ++ "'. Did you mean " ++ name ++ "(...)?")
    | none => .nothing
  | [] => .nothing

/-- A complaint that calls the first part by its name. -/
def naming (before after : String) : List Tree → Outcome
  | tree :: _ => .complaint (before ++ tree.designation ++ after)
  | [] => .nothing

/-- A complaint that cites the first part, a word. -/
def citing (before : String) : List Tree → Outcome
  | .token token :: _ => .complaint (before ++ token.text)
  | _ => .nothing

/-- The complaint about something that no value can be assigned to. -/
def badTarget : List Tree → Outcome
  | tree :: _ =>
    match tree.unassignable? with
    | some part => .complaint ("cannot assign to " ++ part.designation)
    | none => .nothing
  | [] => .nothing

/-- What is said of a generator among other arguments. -/
def bareGenerator : String :=
  "Generator expression must be parenthesized"

/-- The complaint about a generator behind other arguments. -/
def generatorAmong : List Tree → Outcome
  | arguments :: _ =>
    if 1 < (arguments.items.filter fun tree => !tree.isKeyword).length then
      .complaint bareGenerator
    else .nothing
  | [] => .nothing

/-- The complaint about arguments in the wrong order. -/
def misplacedArgument : List Tree → Outcome
  | arguments :: _ =>
    .complaint (if arguments.items.any Tree.isKeywords then
      "positional argument follows keyword argument unpacking"
    else "positional argument follows keyword argument")
  | [] => .nothing

/-- What is said of `=` in place of a comparison. -/
def wrongEquals : String :=
  "invalid syntax. Maybe you meant '==' or ':=' instead of '='?"

/-- What is said of a target of several names without brackets. -/
def bareTarget : String :=
  "did you forget parentheses around the comprehension target?"

/-- What is said of a value that is unpacked. -/
def starredValue : String :=
  "cannot use a starred expression in a dictionary value"

/-- What is said of a value that is missing. -/
def missingValue : String :=
  "expression expected after dictionary key and ':'"

/-- What is said of parameters behind those of the other keywords. -/
def afterKeywords : String :=
  "arguments cannot follow var-keyword argument"

/-- The definitions of the mistakes. -/
def Mistake.definition : Mistake → Definition
  | .ofExpression => fresh [
      alternative [.notAhead [.choice [[.kind .name, .kind .quoted], [.softWord]]],
        Phrase.disjunction, Phrase.plainExpression] missingComma,
      complaining [Phrase.disjunction, "if", Phrase.disjunction, .notAhead [.oneOf ["else", ":"]]]
        "expected 'else' after 'if' expression"]
  | .ofLegacyCall => fresh [
      alternative [.kind .name, .notAhead ["("], Phrase.starExpressions] missingBrackets]
  | .ofNamedExpression => remembered [
      alternative [Phrase.expression, ":=", Phrase.expression]
        (naming "cannot use assignment expressions with " ""),
      complaining [.kind .name, "=", Phrase.bitOr, .notAhead [.oneOf ["=", ":="]]] wrongEquals,
      alternative [
        .notAhead [
          .choice [[Phrase.tuple], [Phrase.generator], [.oneOf ["True", "None", "False"]]]],
        Phrase.bitOr, "=", Phrase.bitOr, .notAhead [.oneOf ["=", ":="]]]
        (naming "cannot assign to " " here. Maybe you meant '==' instead of '='?")]
  | .ofGroup => fresh [
      complaining ["(", Phrase.starredArgument, ")"] "cannot use starred expression here",
      complaining ["(", "**", Phrase.expression, ")"] "cannot use double starred expression here"]
  | .ofParameters => fresh [
      complaining [.anyNumber [Phrase.plainParameter],
        .choice [[Phrase.leadingDefault], [.oneOrMore [Phrase.defaultParameter]]],
        Phrase.plainParameter] "non-default argument follows default argument",
      complaining [.anyNumber [Phrase.plainParameter], "(", .separated [Phrase.parameter],
        .optional [","], ")"] "Lambda expression parameters cannot be parenthesized",
      complaining ["/", ","] "at least one argument must precede /",
      complaining [.choice [[Phrase.leadingPlain], [Phrase.leadingDefault]],
        .anyNumber [Phrase.anyParameter], "/"] "/ may appear only once",
      complaining [.optional [.choice [[Phrase.leadingPlain], [Phrase.leadingDefault]]],
        .anyNumber [Phrase.anyParameter], "*", .choice [[","], [Phrase.plainParameter]],
        .anyNumber [Phrase.anyParameter], "/"] "/ must be ahead of *",
      complaining [.oneOrMore [Phrase.anyParameter], "/", "*"] "expected comma between / and *"]
  | .ofStarredParameters => fresh [
      complaining ["*", .choice [[":"], [",", .oneOf [":", "**"]]]]
        "named arguments must follow bare *",
      complaining ["*", Phrase.parameter, "="]
        "var-positional argument cannot have default value",
      complaining ["*", .choice [[Phrase.plainParameter], [","]],
        .anyNumber [Phrase.anyParameter], "*", .choice [[Phrase.plainParameter], [","]]]
        "* argument may appear only once"]
  | .ofKeywordParameters => fresh [
      complaining ["**", Phrase.parameter, "="] "var-keyword argument cannot have default value",
      complaining ["**", Phrase.parameter, ",", Phrase.parameter] afterKeywords,
      complaining ["**", Phrase.parameter, ",", .oneOf ["*", "**", "/"]] afterKeywords]
  | .ofDefaultValue => fresh [
      complaining ["=", .ahead [.oneOf [")", ","]]] "expected default value expression"]
  | .ofPairs => fresh [
      passing [.separated [Phrase.pair], ",", Mistake.ofPair],
      complaining [Phrase.expression, ":", "*", Phrase.bitOr] starredValue,
      complaining [Phrase.expression, ":", .ahead [.oneOf ["\x7d", ","]]] missingValue]
  | .ofPair => fresh [
      complaining [Phrase.expression, .notAhead [":"]] "':' expected after dictionary key",
      complaining [Phrase.expression, ":", "*", Phrase.bitOr] starredValue,
      complaining [Phrase.expression, ":", .ahead [.oneOf ["\x7d", ","]]] missingValue]
  | .ofComprehension => fresh [
      complaining [.oneOf ["(", "\x7b"], Phrase.starredArgument, Phrase.clauses]
        "iterable unpacking cannot be used in comprehension",
      complaining ["\x7b", Phrase.starNamedExpression, ",", Phrase.starNamedExpressions,
        Phrase.clauses] bareTarget,
      complaining ["\x7b", Phrase.starNamedExpression, ",", Phrase.clauses] bareTarget]
  | .ofDictionaryOf => fresh [
      complaining ["\x7b", "**", Phrase.bitOr, Phrase.clauses, "\x7d"]
        "dict unpacking cannot be used in dict comprehension"]
  | .ofTarget => fresh [
      alternative ["async", "for", Phrase.starExpressions] badTarget,
      alternative ["for", Phrase.starExpressions] badTarget]
  | .ofArguments => fresh [
      complaining [.choice [[plainArguments, ",", Phrase.keywordArguments],
          [Phrase.keywordArguments]],
        ",", .separated [Phrase.starredArgument, .notAhead ["="]]]
        "iterable argument unpacking follows keyword argument unpacking",
      complaining [Phrase.expression, Phrase.clauses, ",",
        .optional [.choice [[Phrase.argumentList], [Phrase.expression, Phrase.clauses]]]]
        bareGenerator,
      complaining [.kind .name, "=", Phrase.expression, Phrase.clauses] wrongEquals,
      alternative [Phrase.argumentList, Phrase.clauses] generatorAmong,
      complaining [Phrase.argumentList, ",", Phrase.expression, Phrase.clauses] bareGenerator,
      alternative [Phrase.argumentList, ",", Phrase.argumentList] misplacedArgument]
  | .ofKeywordArgument => fresh [
      alternative [.oneOf ["True", "False", "None"], "="] (citing "cannot assign to "),
      complaining [.kind .name, "=", Phrase.expression, Phrase.clauses] wrongEquals,
      complaining [.notAhead [.kind .name, "="], Phrase.expression, "="]
        "expression cannot contain assignment, perhaps you meant \"==\"?"]

/-- The whole grammar. -/
def Rule.definition : Rule → Definition
  | .phrase p => p.definition
  | .mistake m => m.definition

end BoundedVars.Markup.Literal
