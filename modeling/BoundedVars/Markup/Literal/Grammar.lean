import BoundedVars.Markup.Literal.Constant
import BoundedVars.Markup.Literal.Rule

/-!
# The grammar of literals

`Phrase.definition` is the grammar by which a literal is read.  It covers all expressions of the
notation that literals are written in, not only those that denote something: what is well formed,
but no literal, is sorted out later.
-/

namespace BoundedVars.Markup.Literal

instance : Coe String Pattern := ⟨.word⟩

instance : Coe Phrase Pattern := ⟨.phrase⟩

instance : Coe Mistake Pattern := ⟨.mistake⟩

/-- The outcome of an operator between two operands. -/
def binaryOf : List Tree → Outcome
  | [left, .token operator, right] => .tree (.node (.binary operator.text) [left, right])
  | _ => .nothing

/-- A rule for operators that group to the left: operands are separated by one of the operators. -/
def leftGrouping (self operand : Phrase) (operators : List String) : Definition :=
  growing [
    alternative [self, .oneOf operators, operand] binaryOf,
    passing [operand]]

/-- The outcome of a comparison: what matters is its left side, and whether it is a membership. -/
def comparisonOf (trees : List Tree) : Outcome :=
  match Tree.itemsOfAll trees with
  | left :: .token operator :: rest =>
    .tree (.node (.comparison (operator.text == "in")) (left :: rest.filter fun
      | .token _ => false
      | _ => true))
  | _ => .nothing

/-- The outcome of a constant that is a word. -/
def constant (value : Constant) (_ : List Tree) : Outcome :=
  .tree (.node (.constant value) [])

/-- The outcome of a number. -/
def numberOf : List Tree → Outcome
  | [.token token] =>
    match Constant.ofNumeral token.text.toList with
    | .ok value => .tree (.node (.constant value) [])
    | .error fault => .complaint (Constant.complaintOf fault)
  | _ => .nothing

/-- An argument in brackets that is no argument of a keyword. -/
def plainArgument : Pattern :=
  .choice [[Phrase.assignment], [Phrase.expression, .notAhead [":="]]]

/-- Arguments in brackets that are no arguments of keywords. -/
def plainArguments : Pattern :=
  .separated [.choice [[Phrase.starredArgument], [plainArgument, .notAhead ["="]]]]

/-- What follows the value of a parameter, or its name when it has no value: a comma, which is
passed, or the colon behind the last parameter. -/
def parameterEnd : Pattern :=
  .choice [[","], [.ahead [":"]]]

/-! ### Phrases that occur in their own definitions

Each is a constant, and so is what the definition of phrases makes of them. -/

namespace Grammar

/-- An expression. -/
def expression : Definition := remembered [
    passing [Mistake.ofExpression],
    passing [Mistake.ofLegacyCall],
    forming .conditional
      [Phrase.disjunction, "if", Phrase.disjunction, "else", Phrase.expression],
    passing [Phrase.disjunction],
    passing [Phrase.abstraction]]

/-- A comparison that is perhaps negated. -/
def inversion : Definition := remembered [
    forming (.unary "not") ["not", Phrase.inversion],
    passing [Phrase.comparison]]

/-- Operands of `|`. -/
def bitOr : Definition := leftGrouping .bitOr .bitXor ["|"]

/-- Operands of `^`. -/
def bitXor : Definition := leftGrouping .bitXor .bitAnd ["^"]

/-- Operands of `&`. -/
def bitAnd : Definition := leftGrouping .bitAnd .shift ["&"]

/-- Operands of the shifts. -/
def shift : Definition := leftGrouping .shift .sum ["<<", ">>"]

/-- Operands of `+` and `-`. -/
def sum : Definition := leftGrouping .sum .term ["+", "-"]

/-- Operands of the operators that multiply and divide. -/
def term : Definition := leftGrouping .term .factor ["*", "/", "//", "%", "@"]

/-- A power with signs. -/
def factor : Definition := remembered [
    forming (.unary "+") ["+", Phrase.factor],
    forming (.unary "-") ["-", Phrase.factor],
    forming (.unary "~") ["~", Phrase.factor],
    passing [Phrase.power]]

/-- An atom with attributes and calls behind it. -/
def primary : Definition := growing [
    alternative [Phrase.primary, ".", .kind .name] fun trees =>
      Outcome.form .attribute (trees.take 1),
    forming .call [Phrase.primary, Phrase.generator],
    forming .call [Phrase.primary, "(", .optional [Phrase.arguments], ")"],
    passing [Phrase.atom]]

/-- What a clause assigns to. -/
def target : Definition := remembered [
    passing ["*", .notAhead ["*"], Phrase.target],
    passing [Phrase.targetBody]]

/-- What stands before the last attribute of a target. -/
def targetPrimary : Definition := growing [
    passing [Phrase.targetPrimary, ".", .kind .name, .ahead [.oneOf ["(", "[", "."]]],
    passing [Phrase.targetPrimary, Phrase.generator, .ahead [.oneOf ["(", "[", "."]]],
    passing [Phrase.targetPrimary, "(", .optional [Phrase.arguments], ")",
      .ahead [.oneOf ["(", "[", "."]]],
    passing [Phrase.atom, .ahead [.oneOf ["(", "[", "."]]]]

end Grammar

/-! ### All phrases -/

/-- The definitions of the phrases. -/
def Phrase.definition : Phrase → Definition
  | .start => fresh [
      alternative [Phrase.expressions, .anyNumber [.kind .newline], .kind .ending] fun trees =>
        Outcome.pass (trees.take 1)]
  | .formattedStart => fresh [passing [Phrase.starExpressions]]
  | .expressions => fresh [
      forming .tuple [Phrase.expression, .oneOrMore [",", Phrase.expression], .optional [","]],
      forming .tuple [Phrase.expression, ","],
      passing [Phrase.expression]]
  | .expression => Grammar.expression
  | .plainExpression => ⟨[
      forming .conditional
        [Phrase.disjunction, "if", Phrase.disjunction, "else", Phrase.expression],
      passing [Phrase.disjunction],
      passing [Phrase.abstraction]], .none, true⟩
  | .yielded => fresh [
      forming .yielded ["yield", "from", Phrase.expression],
      forming .yielded ["yield", .optional [Phrase.starExpressions]]]
  | .starExpressions => fresh [
      forming .tuple
        [Phrase.starExpression, .oneOrMore [",", Phrase.starExpression], .optional [","]],
      forming .tuple [Phrase.starExpression, ","],
      passing [Phrase.starExpression]]
  | .starExpression => remembered [
      forming .starred ["*", Phrase.bitOr],
      passing [Phrase.expression]]
  | .starNamedExpressions => fresh [
      passing [.separated [Phrase.starNamedExpression], .optional [","]]]
  | .starNamedExpression => fresh [
      forming .starred ["*", Phrase.bitOr],
      passing [Phrase.namedExpression]]
  | .assignment => fresh [
      ⟨[.kind .name, ":="], [Phrase.expression], Outcome.form .assignment⟩]
  | .namedExpression => fresh [
      passing [Phrase.assignment],
      passing [Mistake.ofNamedExpression],
      passing [Phrase.expression, .notAhead [":="]]]
  | .disjunction => remembered [
      forming .connected [Phrase.conjunction, .oneOrMore ["or", Phrase.conjunction]],
      passing [Phrase.conjunction]]
  | .conjunction => remembered [
      forming .connected [Phrase.inversion, .oneOrMore ["and", Phrase.inversion]],
      passing [Phrase.inversion]]
  | .inversion => Grammar.inversion
  | .comparison => fresh [
      alternative [Phrase.bitOr, .oneOrMore [Phrase.comparisonRest]] comparisonOf,
      passing [Phrase.bitOr]]
  | .comparisonRest => fresh [
      passing [.oneOf ["==", "!=", "<=", "<", ">=", ">"], Phrase.bitOr],
      passing [.oneOf ["not"], "in", Phrase.bitOr],
      passing [.oneOf ["in"], Phrase.bitOr],
      passing [.oneOf ["is"], "not", Phrase.bitOr],
      passing [.oneOf ["is"], Phrase.bitOr]]
  | .bitOr => Grammar.bitOr
  | .bitXor => Grammar.bitXor
  | .bitAnd => Grammar.bitAnd
  | .shift => Grammar.shift
  | .sum => Grammar.sum
  | .term => Grammar.term
  | .factor => Grammar.factor
  | .power => fresh [
      forming (.binary "**") [Phrase.awaited, "**", Phrase.factor],
      passing [Phrase.awaited]]
  | .awaited => remembered [
      forming .awaited ["await", Phrase.primary],
      passing [Phrase.primary]]
  | .primary => Grammar.primary
  | .atom => fresh [
      passing [.kind .name],
      alternative ["True"] (constant (.truth true)),
      alternative ["False"] (constant (.truth false)),
      alternative ["None"] (constant .none),
      passing [.ahead [.kind .quoted], Phrase.quotedTexts],
      alternative [.kind .number] numberOf,
      passing [.ahead ["("], .choice [[Phrase.tuple], [Phrase.group], [Phrase.generator]]],
      passing [.ahead ["\x7b"],
        .choice [[Phrase.dictionary], [Phrase.set], [Phrase.dictionaryOf], [Phrase.setOf]]],
      alternative ["..."] (constant .ellipsis)]
  | .group => fresh [
      passing ["(", .choice [[Phrase.yielded], [Phrase.namedExpression]], ")"],
      passing [Mistake.ofGroup]]
  | .abstraction => fresh [
      alternative ["lambda", .optional [Phrase.parameters], ":", Phrase.expression] fun trees =>
        Outcome.form .abstraction (trees.drop 1)]
  | .parameters => fresh [
      passing [Mistake.ofParameters],
      passing [Phrase.parameterList]]
  | .parameterList => fresh [
      passing [Phrase.leadingPlain, .anyNumber [Phrase.plainParameter],
        .anyNumber [Phrase.defaultParameter], .optional [Phrase.starredParameters]],
      passing [Phrase.leadingDefault, .anyNumber [Phrase.defaultParameter],
        .optional [Phrase.starredParameters]],
      passing [.oneOrMore [Phrase.plainParameter], .anyNumber [Phrase.defaultParameter],
        .optional [Phrase.starredParameters]],
      passing [.oneOrMore [Phrase.defaultParameter], .optional [Phrase.starredParameters]],
      passing [Phrase.starredParameters]]
  | .leadingPlain => fresh [
      passing [.oneOrMore [Phrase.plainParameter], "/", parameterEnd]]
  | .leadingDefault => fresh [
      passing [.anyNumber [Phrase.plainParameter], .oneOrMore [Phrase.defaultParameter], "/",
        parameterEnd]]
  | .starredParameters => fresh [
      passing [Mistake.ofStarredParameters],
      passing ["*", Phrase.plainParameter, .anyNumber [Phrase.anyParameter],
        .optional [Phrase.keywordParameters]],
      passing ["*", ",", .oneOrMore [Phrase.anyParameter], .optional [Phrase.keywordParameters]],
      passing [Phrase.keywordParameters]]
  | .keywordParameters => fresh [
      passing [Mistake.ofKeywordParameters],
      passing ["**", Phrase.plainParameter]]
  | .plainParameter => fresh [passing [Phrase.parameter, parameterEnd]]
  | .defaultParameter => fresh [passing [Phrase.parameter, Phrase.defaultValue, parameterEnd]]
  | .anyParameter => fresh [
      passing [Phrase.parameter, .optional [Phrase.defaultValue], parameterEnd]]
  | .parameter => fresh [passing [.kind .name]]
  | .defaultValue => fresh [
      passing ["=", Phrase.expression],
      passing [Mistake.ofDefaultValue]]
  | .quotedTexts => remembered [
      alternative [.oneOrMore [.kind .quoted]] fun trees => .quoted (Tree.itemsOfAll trees)]
  | .tuple => fresh [
      forming .tuple ["(",
        .optional [Phrase.starNamedExpression, ",", .optional [Phrase.starNamedExpressions]],
        ")"]]
  | .set => fresh [forming .set ["\x7b", Phrase.starNamedExpressions, "\x7d"]]
  | .dictionary => fresh [
      forming .dictionary ["\x7b", .optional [Phrase.pairs], "\x7d"],
      passing ["\x7b", Mistake.ofPairs, "\x7d"]]
  | .pairs => fresh [passing [.separated [Phrase.pair], .optional [","]]]
  | .pair => fresh [
      forming .pair ["**", Phrase.bitOr],
      passing [Phrase.keyValue]]
  | .keyValue => fresh [forming .pair [Phrase.expression, ":", Phrase.expression]]
  | .clauses => fresh [passing [.oneOrMore [Phrase.clause]]]
  | .clause => fresh [
      ⟨["async", "for", Phrase.targets, "in"],
        [Phrase.disjunction, .anyNumber ["if", Phrase.disjunction]], Outcome.pass⟩,
      ⟨["for", Phrase.targets, "in"],
        [Phrase.disjunction, .anyNumber ["if", Phrase.disjunction]], Outcome.pass⟩,
      passing [Mistake.ofTarget]]
  | .setOf => fresh [
      forming .setOf ["\x7b", Phrase.namedExpression, Phrase.clauses, "\x7d"],
      passing [Mistake.ofComprehension]]
  | .generator => fresh [
      forming .generator ["(", plainArgument, Phrase.clauses, ")"],
      passing [Mistake.ofComprehension]]
  | .dictionaryOf => fresh [
      forming .dictionaryOf ["\x7b", Phrase.keyValue, Phrase.clauses, "\x7d"],
      passing [Mistake.ofDictionaryOf]]
  | .arguments => remembered [
      passing [Phrase.argumentList, .optional [","], .ahead [")"]],
      passing [Mistake.ofArguments]]
  | .argumentList => fresh [
      passing [plainArguments, .optional [",", Phrase.keywordArguments]],
      passing [Phrase.keywordArguments]]
  | .keywordArguments => fresh [
      passing [.separated [Phrase.keywordOrStarred], ",",
        .separated [Phrase.keywordOrDoubleStarred]],
      passing [.separated [Phrase.keywordOrStarred]],
      passing [.separated [Phrase.keywordOrDoubleStarred]]]
  | .starredArgument => fresh [
      forming .starred ["*", Phrase.expression],
      complaining ["*"] "Invalid star expression"]
  | .keywordOrStarred => fresh [
      passing [Mistake.ofKeywordArgument],
      alternative [.kind .name, "=", Phrase.expression] fun trees =>
        Outcome.form .keyword (trees.drop 1),
      passing [Phrase.starredArgument]]
  | .keywordOrDoubleStarred => fresh [
      passing [Mistake.ofKeywordArgument],
      alternative [.kind .name, "=", Phrase.expression] fun trees =>
        Outcome.form .keyword (trees.drop 1),
      forming .keywords ["**", Phrase.expression]]
  | .targets => fresh [
      passing [Phrase.target, .notAhead [","]],
      passing [Phrase.target, .anyNumber [",", Phrase.target], .optional [","]]]
  | .targetSequence => fresh [
      passing [Phrase.target, .oneOrMore [",", Phrase.target], .optional [","]],
      passing [Phrase.target, ","]]
  | .target => Grammar.target
  | .targetBody => remembered [
      passing [Phrase.targetPrimary, ".", .kind .name, .notAhead [.oneOf ["(", "[", "."]]],
      passing [Phrase.targetAtom]]
  | .targetAtom => fresh [
      passing [.kind .name],
      passing ["(", Phrase.targetBody, ")"],
      passing ["(", .optional [Phrase.targetSequence], ")"]]
  | .targetPrimary => Grammar.targetPrimary

end BoundedVars.Markup.Literal
