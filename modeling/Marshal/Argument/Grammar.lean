import Marshal.Argument.Pattern

/-!
# The grammar of expressions

The patterns of expressions without square brackets, which no tag can hold, and of what is taken for
a mistake in one. The more loosely an operator binds the earlier its rule comes.
-/

namespace Marshal.Argument
set_option autoImplicit false

namespace Pattern

def name : Pattern := .make .name (.kind .name)

/-- Operands between operators that group from the left. -/
def operators (operand : Rule) (signs : List String) : Pattern :=
  .grow (.rule operand) (choice (signs.map fun s => .make .binary (seq [.sign s, .rule operand])))

def words (operand : Rule) (word : String) : Pattern :=
  .either
    (.make .logical (seq [.rule operand, some (seq [.mark word, .rule operand])]))
    (.rule operand)

/-- Items between commas: more than one, or one with a comma, or one alone. -/
def commas (item : Rule) : Pattern :=
  choice [
    .make .tuple (seq [.rule item, some (seq [.mark ",", .rule item]), optional (.mark ",")]),
    .make .tuple (seq [.rule item, .mark ","]),
    .rule item]

/-- An expression that does not get a name. -/
def unnamed : Pattern := seq [.rule .expression, .unless (.mark ":=")]

/-- An expression that may get a name. -/
def positional : Pattern := .either (.rule .assignment) unnamed

def assignedOnce : Pattern := .unless (.either (.mark "=") (.mark ":="))

/-- What follows a part of a target if there is more of it. -/
def targetRest : Pattern := .either (.mark "(") (.mark ".")

def parameterEnd : Pattern := .either (.mark ",") (.ahead (.mark ":"))

/-- The beginning of parameters that may be given by position alone. -/
def slash : Pattern := .either (.rule .slashPlain) (.rule .slashDefault)

end Pattern

open Pattern

/-- The names that were commands once. -/
def formerCommands : List String := ["print", "exec"]

/-- Whether an expression is the name of a former command. -/
def isCommand (e : Node) : Bool := e.name?.any formerCommands.contains

/-- The names that may have an expression behind them. -/
def softWords : List String := ["_", "case", "match"]

/-- Texts side by side, with a test of them. -/
def quotedTexts (test : List Token → Option Mistake) : Pattern :=
  .checked (some (.kind .text)) fun ns => test (ns.filterMap Node.token?)

/-- Whether a number is a whole one in decimal digits, and not zero. -/
def isWhole (cs : List Char) : Bool :=
  cs.head? != Option.some '0' && cs.all fun c => c.isDigit || c == '_'

/-- The mistake of a number with too many digits. -/
def longNumber (ns : List Node) : Option Mistake :=
  match ns with
  | [.leaf t] =>
    let digits := t.text.toList.filter (· != '_')
    if isWhole t.text.toList then
      match Text.checkDigits digits.length with
      | .ok _ => none
      | .error f => Option.some (.numeral f)
    else none
  | _ => none

/-- Whether a part of arguments is given by name. -/
def isNamedArgument (e : Node) : Bool := e.label? == Option.some .argument

/-- Whether a part of arguments is a map of arguments. -/
def isSpread (e : Node) : Bool := e.label? == Option.some .spread

/-- The pattern of a rule, with a test of the texts that stand side by side. -/
def Rule.pattern (test : List Token → Option Mistake) : Rule → Pattern
  | .whole => seq [.rule .expressions, .many (.kind .lineEnd), .kind .finish]
  | .expressions => commas .expression
  | .expression =>
    choice [.late (.rule .badExpression), .late (.rule .badCommand), .rule .plainExpression]
  | .plainExpression =>
    choice [
      .make .conditional (seq [.rule .disjunction, .mark "if", .rule .disjunction, .mark "else",
        .rule .expression]),
      .rule .disjunction,
      .rule .function]
  | .yielding =>
    choice [
      .make .yielded (seq [.mark "yield", .mark "from", .rule .expression]),
      .make .yielded (seq [.mark "yield", optional (.rule .starExpressions)])]
  | .starExpressions => commas .starExpression
  | .starExpression =>
    .either (.make .starred (seq [.mark "*", .rule .union])) (.rule .expression)
  | .starItems => seq [separated "," (.rule .starItem), optional (.mark ",")]
  | .starItem =>
    .either (.make .starred (seq [.mark "*", .rule .union])) (.rule .namedExpression)
  | .assignment => .make .named (seq [name, .mark ":=", .rule .expression])
  | .namedExpression => choice [.rule .assignment, .late (.rule .badNamed), unnamed]
  | .disjunction => words .conjunction "or"
  | .conjunction => words .inversion "and"
  | .inversion =>
    .either (.make .unary (seq [.mark "not", .rule .inversion])) (.rule .comparison)
  | .comparison =>
    .either
      (.make .comparison (seq [.rule .union, some (.rule .comparisonPair)]))
      (.rule .union)
  | .comparisonPair =>
    choice (["==", "!=", "<=", "<", ">=", ">"].map (fun s => seq [.sign s, .rule .union]) ++ [
      seq [.sign "not", .sign "in", .rule .union],
      seq [.sign "in", .rule .union],
      seq [.sign "is", .sign "not", .rule .union],
      seq [.sign "is", .rule .union]])
  | .union => operators .difference ["|"]
  | .difference => operators .intersection ["^"]
  | .intersection => operators .shift ["&"]
  | .shift => operators .sum ["<<", ">>"]
  | .sum => operators .term ["+", "-"]
  | .term => operators .factor ["*", "/", "//", "%", "@"]
  | .factor =>
    choice (["+", "-", "~"].map (fun s => .make .unary (seq [.sign s, .rule .factor])) ++ [
      .rule .power])
  | .power =>
    .either
      (.make .binary (seq [.rule .awaited, .sign "**", .rule .factor]))
      (.rule .awaited)
  | .awaited => .either (.make .awaited (seq [.mark "await", .rule .primary])) (.rule .primary)
  | .primary =>
    .grow (.rule .atom) (choice [
      .make .attribute (seq [.mark ".", name]),
      .make .call (.rule .generator),
      .make .call (seq [.mark "(", optional (.rule .arguments), .mark ")"])])
  | .atom =>
    choice [
      name,
      .make .yes (.mark "True"),
      .make .no (.mark "False"),
      .make .nothing (.mark "None"),
      seq [.ahead (.kind .text), .rule .texts],
      .make .number (.checked (.kind .number) longNumber),
      seq [.ahead (.mark "("), choice [.rule .tuple, .rule .group, .rule .generator]],
      seq [.ahead (.mark "\x7b"),
        choice [.rule .dict, .rule .set, .rule .dictFor, .rule .setFor]],
      .make .dots (.mark "...")]
  | .texts => .make .text (quotedTexts test)
  | .group =>
    choice [
      seq [.mark "(", .either (.rule .yielding) (.rule .namedExpression), .mark ")"],
      .late (.rule .badGroup)]
  | .tuple =>
    .make .tuple (seq [.mark "(",
      optional (seq [.rule .starItem, .mark ",", optional (.rule .starItems)]), .mark ")"])
  | .set => .make .set (seq [.mark "\x7b", .rule .starItems, .mark "\x7d"])
  | .dict =>
    choice [
      .make .dict (seq [.mark "\x7b", optional (.rule .entries), .mark "\x7d"]),
      seq [.mark "\x7b", .rule .badEntries, .mark "\x7d"]]
  | .entries => seq [separated "," (.rule .entry), optional (.mark ",")]
  | .entry => .either (.make .spread (seq [.mark "**", .rule .union])) (.rule .keyValue)
  | .keyValue => .make .entry (seq [.rule .expression, .mark ":", .rule .expression])
  | .clauses => some (.rule .clause)
  | .clause =>
    let source := seq [.mark "for", .rule .targets, .mark "in"]
    let rest := seq [.rule .disjunction, .many (seq [.mark "if", .rule .disjunction])]
    choice [
      seq [.mark "async", source, rest],
      seq [source, rest],
      .late (seq [.unless (.either (seq [.mark "async", source]) source), .rule .badTarget])]
  | .generator =>
    choice [
      .make .generator (seq [.mark "(", positional, .rule .clauses, .mark ")"]),
      .late (.rule .badGenerator)]
  | .setFor =>
    choice [
      .make .setFor (seq [.mark "\x7b", .rule .namedExpression, .rule .clauses, .mark "\x7d"]),
      .late (.rule .badGenerator)]
  | .dictFor =>
    choice [
      .make .dictFor (seq [.mark "\x7b", .rule .keyValue, .rule .clauses, .mark "\x7d"]),
      .late (.rule .badDictFor)]
  | .arguments =>
    choice [
      seq [.rule .argumentList, optional (.mark ","), .ahead (.mark ")")],
      .late (.rule .badArguments)]
  | .argumentList =>
    choice [
      seq [separated "," (.either (.rule .starArgument) (seq [positional, .unless (.mark "=")])),
        optional (seq [.mark ",", .rule .namedArguments])],
      .rule .namedArguments]
  | .namedArguments =>
    choice [
      seq [separated "," (.rule .namedOrStarred), .mark ",",
        separated "," (.rule .namedOrSpread)],
      separated "," (.rule .namedOrStarred),
      separated "," (.rule .namedOrSpread)]
  | .starArgument => .make .starred (seq [.mark "*", .rule .expression])
  | .namedOrStarred =>
    choice [
      .late (.rule .badNamedArgument),
      .make .argument (seq [name, .mark "=", .rule .expression]),
      .rule .starArgument]
  | .namedOrSpread =>
    choice [
      .late (.rule .badNamedArgument),
      .make .argument (seq [name, .mark "=", .rule .expression]),
      .make .spread (seq [.mark "**", .rule .expression])]
  | .targets =>
    choice [
      seq [.rule .target, .unless (.mark ",")],
      seq [.rule .target, .many (seq [.mark ",", .rule .target]), optional (.mark ",")]]
  | .targetList =>
    choice [
      seq [.rule .target, some (seq [.mark ",", .rule .target]), optional (.mark ",")],
      seq [.rule .target, .mark ","]]
  | .target =>
    .either (seq [.mark "*", .unless (.mark "*"), .rule .target]) (.rule .targetAtom)
  | .targetAtom =>
    choice [
      seq [.rule .targetPrimary, .mark ".", name, .unless targetRest],
      name,
      seq [.mark "(", .rule .targetAtom, .mark ")"],
      seq [.mark "(", optional (.rule .targetList), .mark ")"]]
  | .targetPrimary =>
    .grow (seq [.rule .atom, .ahead targetRest]) (choice [
      seq [.make .attribute (seq [.mark ".", name]), .ahead targetRest],
      seq [.make .call (.rule .generator), .ahead targetRest],
      seq [.make .call (seq [.mark "(", optional (.rule .arguments), .mark ")"]),
        .ahead targetRest]])
  | .function =>
    .make .function (seq [.mark "lambda", optional (.rule .parameters), .mark ":",
      .rule .expression])
  | .parameters =>
    choice [
      .late (.rule .badParameters),
      seq [.rule .slashPlain, .many (.rule .plainParameter), .many (.rule .defaultParameter),
        optional (.rule .starParameters)],
      seq [.rule .slashDefault, .many (.rule .defaultParameter),
        optional (.rule .starParameters)],
      seq [some (.rule .plainParameter), .many (.rule .defaultParameter),
        optional (.rule .starParameters)],
      seq [some (.rule .defaultParameter), optional (.rule .starParameters)],
      .rule .starParameters]
  | .slashPlain => seq [some (.rule .plainParameter), .mark "/", parameterEnd]
  | .slashDefault =>
    seq [.many (.rule .plainParameter), some (.rule .defaultParameter), .mark "/", parameterEnd]
  | .starParameters =>
    choice [
      .late (.rule .badStarParameters),
      seq [.mark "*", .rule .plainParameter, .many (.rule .anyParameter),
        optional (.rule .spreadParameter)],
      seq [.mark "*", .mark ",", some (.rule .anyParameter), optional (.rule .spreadParameter)],
      .rule .spreadParameter]
  | .spreadParameter =>
    choice [.late (.rule .badSpreadParameter), seq [.mark "**", .rule .plainParameter]]
  | .plainParameter => seq [name, parameterEnd]
  | .defaultParameter => seq [name, .rule .default, parameterEnd]
  | .anyParameter => seq [name, optional (.rule .default), parameterEnd]
  | .default =>
    choice [
      seq [.mark "=", .rule .expression],
      .late (refuse [.mark "=", .ahead (.either (.mark ")") (.mark ","))] .missingDefault)]
  | .badExpression =>
    choice [
      .mistake (seq [.unless (.either (seq [.kind .name, .kind .text]) (.word softWords)),
          .rule .disjunction, .plain (.rule .plainExpression), .inside]) fun ns =>
        if ns.head?.any isCommand then none else Option.some .missingComma,
      refuse [.rule .disjunction, .mark "if", .rule .disjunction,
        .unless (.either (.mark "else") (.mark ":"))] .missingElse]
  | .badCommand =>
    .mistake (seq [name, .unless (.mark "("), .rule .starExpressions]) fun ns =>
      match ns.head? with
      | Option.some e => if isCommand e then e.name?.map .command else none
      | none => none
  | .badNamed =>
    choice [
      .mistake (seq [.rule .expression, .mark ":=", .rule .expression]) fun ns =>
        ns.head?.map fun e => .badName e.title,
      refuse [name, .mark "=", .rule .union, assignedOnce] .equalsSign,
      .mistake (seq [
          .unless (choice [.rule .tuple, .rule .generator, .mark "True", .mark "None",
            .mark "False"]),
          .rule .union, .mark "=", .rule .union, assignedOnce]) fun ns =>
        ns.head?.map fun e => .assignedHere e.title]
  | .badArguments =>
    choice [
      refuse [.rule .argumentList, .mark ",", .mark "*"] .starredAfterSpread,
      refuse [.rule .expression, .rule .clauses, .mark ",",
        optional (.either (.rule .argumentList) (seq [.rule .expression, .rule .clauses]))]
        .unbracketedGenerator,
      refuse [name, .mark "=", .rule .expression, .rule .clauses] .equalsSign,
      .mistake (seq [.make .call (.rule .argumentList), .rule .clauses]) fun ns =>
        match ns.head? with
        | Option.some (.node _ args) =>
          if 1 < (args.filter fun a => !isNamedArgument a && !isSpread a).length then
            Option.some .unbracketedGenerator
          else none
        | _ => none,
      refuse [.rule .argumentList, .mark ",", .rule .expression, .rule .clauses]
        .unbracketedGenerator,
      .mistake (seq [.make .call (.rule .argumentList), .mark ",", .rule .argumentList]) fun ns =>
        match ns.head? with
        | Option.some (.node _ args) =>
          Option.some (if args.any isSpread then .positionalAfterSpread else .positionalAfterNamed)
        | _ => none]
  | .badNamedArgument =>
    choice [
      .mistake (seq [choice [.sign "True", .sign "False", .sign "None"], .mark "="]) fun ns =>
        ns.head?.map fun e => .assigned e.title,
      refuse [name, .mark "=", .rule .expression, .rule .clauses] .equalsSign,
      refuse [.unless (seq [.kind .name, .mark "="]), .rule .expression, .mark "="]
        .assignedArgument]
  | .badGenerator =>
    choice [
      refuse [.either (.mark "(") (.mark "\x7b"), .rule .starArgument, .rule .clauses]
        .starredSource,
      refuse [.mark "\x7b", .rule .starItem, .mark ",", .rule .starItems, .rule .clauses]
        .unbracketedTarget,
      refuse [.mark "\x7b", .rule .starItem, .mark ",", .rule .clauses] .unbracketedTarget]
  | .badDictFor =>
    refuse [.mark "\x7b", .mark "**", .rule .union, .rule .clauses, .mark "\x7d"] .spreadSource
  | .badGroup =>
    choice [
      refuse [.mark "(", .rule .starArgument, .mark ")"] .starred,
      refuse [.mark "(", .mark "**", .rule .expression, .mark ")"] .spread]
  | .badEntries =>
    choice [
      seq [separated "," (.rule .entry), .mark ",", .rule .badEntry],
      refuse [.rule .expression, .mark ":", .mark "*", .rule .union] .starredEntry,
      refuse [.rule .expression, .mark ":", .ahead (.either (.mark "\x7d") (.mark ","))]
        .missingValue]
  | .badEntry =>
    choice [
      refuse [.rule .expression, .unless (.mark ":")] .missingColon,
      refuse [.rule .expression, .mark ":", .mark "*", .rule .union] .starredEntry,
      refuse [.rule .expression, .mark ":", .ahead (.either (.mark "\x7d") (.mark ","))]
        .missingValue]
  | .badTarget =>
    .mistake (seq [optional (.mark "async"), .mark "for", .rule .starExpressions]) fun ns =>
      match ns.head? with
      | Option.some e => e.unfit?.map fun u => .assigned u.title
      | none => none
  | .badParameters =>
    choice [
      refuse [.many (.rule .plainParameter),
        .either (.rule .slashDefault) (some (.rule .defaultParameter)), .rule .plainParameter]
        .defaultFirst,
      refuse [.many (.rule .plainParameter), .mark "(", separated "," name,
        optional (.mark ","), .mark ")"] .bracketedParameters,
      refuse [.mark "/", .mark ","] .slashFirst,
      refuse [slash, .many (.rule .anyParameter), .mark "/"] .secondSlash,
      refuse [optional slash, .many (.rule .anyParameter), .mark "*",
        .either (.mark ",") (.rule .plainParameter), .many (.rule .anyParameter), .mark "/"]
        .slashAfterStar,
      refuse [some (.rule .anyParameter), .mark "/", .mark "*"] .slashStar]
  | .badStarParameters =>
    choice [
      refuse [.mark "*",
        .either (.mark ":") (seq [.mark ",", .either (.mark ":") (.mark "**")])] .bareStar,
      refuse [.mark "*", name, .mark "="] .starDefault,
      refuse [.mark "*", .either (.rule .plainParameter) (.mark ","),
        .many (.rule .anyParameter), .mark "*",
        .either (.rule .plainParameter) (.mark ",")] .secondStar]
  | .badSpreadParameter =>
    choice [
      refuse [.mark "**", name, .mark "="] .spreadDefault,
      refuse [.mark "**", name, .mark ",", name] .afterSpread,
      refuse [.mark "**", name, .mark ",", choice [.mark "*", .mark "**", .mark "/"]]
        .afterSpread]

/-- Whether a rule is matched only once at a place, even if mistakes are looked for later. -/
def Rule.isRemembered : Rule → Bool
  | .expression | .starExpression | .disjunction | .conjunction | .inversion | .union
  | .difference | .intersection | .shift | .sum | .term | .factor | .awaited | .primary | .texts
  | .arguments | .target | .targetAtom | .targetPrimary | .badNamed => true
  | _ => false

end Marshal.Argument
