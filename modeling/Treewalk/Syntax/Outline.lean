/-
Outlines: a tree shown as labelled nodes with named fields. Lines and layout are not part of an outline, so two
statements have the same outline exactly when they are the same statement wherever they stand.
-/
import Treewalk.Syntax.Tree

namespace Treewalk

mutual

inductive Outline where
  | node (label : String) (fields : List Field)
  | list (items : List Outline)
  | literal (value : Literal)

inductive Field where
  | mk (name : String) (value : Outline)

end

namespace Outline

/-! ## Text -/

mutual

/-- The text of an outline; none if it holds an integer past the digit limit. -/
def text? : Outline → Option String
  | .node label fields => do return label ++ "(" ++ String.intercalate ", " (← fieldTexts? fields) ++ ")"
  | .list items => do return "[" ++ String.intercalate ", " (← texts? items) ++ "]"
  | .literal value => value.shown?

def texts? : List Outline → Option (List String)
  | [] => some []
  | o :: rest => do return (← text? o) :: (← texts? rest)

def fieldText? : Field → Option String
  | .mk name value => do return name ++ "=" ++ (← text? value)

def fieldTexts? : List Field → Option (List String)
  | [] => some []
  | f :: rest => do return (← fieldText? f) :: (← fieldTexts? rest)

end

/-! ## Parts -/

def leaf (label : String) : Outline := .node label []

def text (s : String) : Outline := .literal (.string s)

def number (n : Int) : Outline := .literal (.int n)

def missing : Outline := .literal .none

def flag (b : Bool) : Outline := number (if b then 1 else 0)

/-- A field that is left out when it has no value. -/
def optional (name : String) : Option Outline → List Field
  | none => []
  | some value => [.mk name value]

end Outline

def Context.outline (c : Context) : Outline := .leaf c.label

def Operator.outline (op : Operator) : Outline := .leaf op.label

/-! ## Expressions -/

mutual

def Expr.outline : Expr → Outline
  | .constant value kind =>
    .node "Constant" (.mk "value" (.literal value) :: Outline.optional "kind" (kind.map Outline.text))
  | .name id ctx => .node "Name" [.mk "id" (.text id), .mk "ctx" ctx.outline]
  | .attribute value attr ctx =>
    .node "Attribute" [.mk "value" value.outline, .mk "attr" (.text attr), .mk "ctx" ctx.outline]
  | .subscript value index ctx =>
    .node "Subscript" [.mk "value" value.outline, .mk "slice" index.outline, .mk "ctx" ctx.outline]
  | .slice lower upper step =>
    .node "Slice" (Outline.optional "lower" (outlineIfAny lower) ++ Outline.optional "upper" (outlineIfAny upper) ++
      Outline.optional "step" (outlineIfAny step))
  | .starred value ctx => .node "Starred" [.mk "value" value.outline, .mk "ctx" ctx.outline]
  | .tuple items ctx => .node "Tuple" [.mk "elts" (.list (outlineAll items)), .mk "ctx" ctx.outline]
  | .list items ctx => .node "List" [.mk "elts" (.list (outlineAll items)), .mk "ctx" ctx.outline]
  | .set items => .node "Set" [.mk "elts" (.list (outlineAll items))]
  | .dict keys values =>
    .node "Dict" [.mk "keys" (.list (outlineSlots keys)), .mk "values" (.list (outlineAll values))]
  | .unary op operand => .node "UnaryOp" [.mk "op" op.outline, .mk "operand" operand.outline]
  | .binary left op right =>
    .node "BinOp" [.mk "left" left.outline, .mk "op" op.outline, .mk "right" right.outline]
  | .boolean op operands => .node "BoolOp" [.mk "op" op.outline, .mk "values" (.list (outlineAll operands))]
  | .compare left ops operands =>
    .node "Compare" [.mk "left" left.outline, .mk "ops" (.list (ops.map Operator.outline)),
      .mk "comparators" (.list (outlineAll operands))]
  | .conditional test body orelse =>
    .node "IfExp" [.mk "test" test.outline, .mk "body" body.outline, .mk "orelse" orelse.outline]
  | .call callee args keywords =>
    .node "Call" [.mk "func" callee.outline, .mk "args" (.list (outlineAll args)),
      .mk "keywords" (.list (outlineKeywords keywords))]
  | .lambda params body => .node "Lambda" [.mk "args" params.outline, .mk "body" body.outline]
  | .named target value => .node "NamedExpr" [.mk "target" target.outline, .mk "value" value.outline]
  | .listComp item clauses =>
    .node "ListComp" [.mk "elt" item.outline, .mk "generators" (.list (outlineClauses clauses))]
  | .setComp item clauses =>
    .node "SetComp" [.mk "elt" item.outline, .mk "generators" (.list (outlineClauses clauses))]
  | .dictComp key value clauses =>
    .node "DictComp" [.mk "key" key.outline, .mk "value" value.outline,
      .mk "generators" (.list (outlineClauses clauses))]
  | .generator item clauses =>
    .node "GeneratorExp" [.mk "elt" item.outline, .mk "generators" (.list (outlineClauses clauses))]
  | .await value => .node "Await" [.mk "value" value.outline]
  | .yield value => .node "Yield" (Outline.optional "value" (outlineIfAny value))
  | .yieldFrom value => .node "YieldFrom" [.mk "value" value.outline]
  | .joined parts => .node "JoinedStr" [.mk "values" (.list (outlineAll parts))]
  | .formatted value conversion spec =>
    .node "FormattedValue" ([.mk "value" value.outline, .mk "conversion" (.number conversion)] ++
      Outline.optional "format_spec" (outlineIfAny spec))

def outlineAll : List Expr → List Outline
  | [] => []
  | e :: rest => e.outline :: outlineAll rest

def outlineIfAny : Option Expr → Option Outline
  | none => none
  | some e => some e.outline

def outlineSlots : List (Option Expr) → List Outline
  | [] => []
  | slot :: rest => (outlineIfAny slot).getD .missing :: outlineSlots rest

def Keyword.outline : Keyword → Outline
  | .mk name value =>
    .node "keyword" (Outline.optional "arg" (name.map Outline.text) ++ [.mk "value" value.outline])

def outlineKeywords : List Keyword → List Outline
  | [] => []
  | k :: rest => k.outline :: outlineKeywords rest

def Clause.outline : Clause → Outline
  | .mk target source conditions isAsync =>
    .node "comprehension" [.mk "target" target.outline, .mk "iter" source.outline,
      .mk "ifs" (.list (outlineAll conditions)), .mk "is_async" (.flag isAsync)]

def outlineClauses : List Clause → List Outline
  | [] => []
  | c :: rest => c.outline :: outlineClauses rest

def Param.outline : Param → Outline
  | .mk name hint =>
    .node "arg" (.mk "arg" (.text name) :: Outline.optional "annotation" (outlineIfAny hint))

def outlineParams : List Param → List Outline
  | [] => []
  | p :: rest => p.outline :: outlineParams rest

def outlineRest : Option Param → Option Outline
  | none => none
  | some p => some p.outline

def Params.outline : Params → Outline
  | .mk positionalOnly positional rest keywordOnly keywordDefaults keywordRest defaults =>
    .node "arguments" ([.mk "posonlyargs" (.list (outlineParams positionalOnly)),
      .mk "args" (.list (outlineParams positional))] ++ Outline.optional "vararg" (outlineRest rest) ++
      [.mk "kwonlyargs" (.list (outlineParams keywordOnly)),
        .mk "kw_defaults" (.list (outlineSlots keywordDefaults))] ++
      Outline.optional "kwarg" (outlineRest keywordRest) ++ [.mk "defaults" (.list (outlineAll defaults))])

end

/-! ## Statements -/

mutual

def Pattern.outline : Pattern → Outline
  | .value value => .node "MatchValue" [.mk "value" value.outline]
  | .singleton value => .node "MatchSingleton" [.mk "value" (.literal value)]
  | .sequence items => .node "MatchSequence" [.mk "patterns" (.list (outlinePatterns items))]
  | .mapping keys items rest =>
    .node "MatchMapping" ([.mk "keys" (.list (outlineAll keys)), .mk "patterns" (.list (outlinePatterns items))] ++
      Outline.optional "rest" (rest.map Outline.text))
  | .classOf type items names named =>
    .node "MatchClass" [.mk "cls" type.outline, .mk "patterns" (.list (outlinePatterns items)),
      .mk "kwd_attrs" (.list (names.map Outline.text)), .mk "kwd_patterns" (.list (outlinePatterns named))]
  | .star name => .node "MatchStar" (Outline.optional "name" (name.map Outline.text))
  | .binding item name =>
    .node "MatchAs" (Outline.optional "pattern" (outlinePattern item) ++
      Outline.optional "name" (name.map Outline.text))
  | .oneOf items => .node "MatchOr" [.mk "patterns" (.list (outlinePatterns items))]

def outlinePatterns : List Pattern → List Outline
  | [] => []
  | p :: rest => p.outline :: outlinePatterns rest

def outlinePattern : Option Pattern → Option Outline
  | none => none
  | some p => some p.outline

end

def Alias.outline (a : Alias) : Outline :=
  .node "alias" (.mk "name" (.text a.name) :: Outline.optional "asname" (a.asName.map Outline.text))

def WithItem.outline (i : WithItem) : Outline :=
  .node "withitem" (.mk "context_expr" i.value.outline :: Outline.optional "optional_vars" (outlineIfAny i.target))

mutual

def Stmt.outline : Stmt → Outline
  | .expr value => .node "Expr" [.mk "value" value.outline]
  | .pass => .leaf "Pass"
  | .assert test message =>
    .node "Assert" (.mk "test" test.outline :: Outline.optional "msg" (outlineIfAny message))
  | .assign targets value =>
    .node "Assign" [.mk "targets" (.list (outlineAll targets)), .mk "value" value.outline]
  | .augAssign target op value =>
    .node "AugAssign" [.mk "target" target.outline, .mk "op" op.outline, .mk "value" value.outline]
  | .annAssign target hint value simple =>
    .node "AnnAssign" ([.mk "target" target.outline, .mk "annotation" hint.outline] ++
      Outline.optional "value" (outlineIfAny value) ++ [.mk "simple" (.flag simple)])
  | .delete targets => .node "Delete" [.mk "targets" (.list (outlineAll targets))]
  | .ifStmt test body orelse =>
    .node "If" [.mk "test" test.outline, .mk "body" (.list (outlineBlock body)),
      .mk "orelse" (.list (outlineBlock orelse))]
  | .whileStmt test body orelse =>
    .node "While" [.mk "test" test.outline, .mk "body" (.list (outlineBlock body)),
      .mk "orelse" (.list (outlineBlock orelse))]
  | .forStmt isAsync target source body orelse =>
    .node (if isAsync then "AsyncFor" else "For") [.mk "target" target.outline, .mk "iter" source.outline,
      .mk "body" (.list (outlineBlock body)), .mk "orelse" (.list (outlineBlock orelse))]
  | .breakStmt _ => .leaf "Break"
  | .continueStmt _ => .leaf "Continue"
  | .returnStmt _ value => .node "Return" (Outline.optional "value" (outlineIfAny value))
  | .functionDef isAsync name params body decorators returns =>
    .node (if isAsync then "AsyncFunctionDef" else "FunctionDef") ([.mk "name" (.text name),
      .mk "args" params.outline, .mk "body" (.list (outlineBlock body)),
      .mk "decorator_list" (.list (outlineAll decorators))] ++ Outline.optional "returns" (outlineIfAny returns))
  | .classDef name bases keywords body decorators =>
    .node "ClassDef" [.mk "name" (.text name), .mk "bases" (.list (outlineAll bases)),
      .mk "keywords" (.list (outlineKeywords keywords)), .mk "body" (.list (outlineBlock body)),
      .mk "decorator_list" (.list (outlineAll decorators))]
  | .withStmt isAsync items body =>
    .node (if isAsync then "AsyncWith" else "With") [.mk "items" (.list (items.map WithItem.outline)),
      .mk "body" (.list (outlineBlock body))]
  | .raise error cause =>
    .node "Raise" (Outline.optional "exc" (outlineIfAny error) ++ Outline.optional "cause" (outlineIfAny cause))
  | .tryStmt star body handlers orelse final =>
    .node (if star then "TryStar" else "Try") [.mk "body" (.list (outlineBlock body)),
      .mk "handlers" (.list (outlineHandlers handlers)), .mk "orelse" (.list (outlineBlock orelse)),
      .mk "finalbody" (.list (outlineBlock final))]
  | .importNames names => .node "Import" [.mk "names" (.list (names.map Alias.outline))]
  | .importFrom source names level =>
    .node "ImportFrom" (Outline.optional "module" (source.map Outline.text) ++
      [.mk "names" (.list (names.map Alias.outline)), .mk "level" (.number level)])
  | .globalNames names => .node "Global" [.mk "names" (.list (names.map Outline.text))]
  | .nonlocalNames names => .node "Nonlocal" [.mk "names" (.list (names.map Outline.text))]
  | .matchStmt subject cases =>
    .node "Match" [.mk "subject" subject.outline, .mk "cases" (.list (outlineCases cases))]

def outlineBlock : List Stmt → List Outline
  | [] => []
  | s :: rest => s.outline :: outlineBlock rest

def Handler.outline : Handler → Outline
  | .mk type name body =>
    .node "ExceptHandler" (Outline.optional "type" (outlineIfAny type) ++
      Outline.optional "name" (name.map Outline.text) ++ [.mk "body" (.list (outlineBlock body))])

def outlineHandlers : List Handler → List Outline
  | [] => []
  | h :: rest => h.outline :: outlineHandlers rest

def Case.outline : Case → Outline
  | .mk pattern guard body =>
    .node "match_case" (.mk "pattern" pattern.outline :: Outline.optional "guard" (outlineIfAny guard) ++
      [.mk "body" (.list (outlineBlock body))])

def outlineCases : List Case → List Outline
  | [] => []
  | c :: rest => c.outline :: outlineCases rest

end

end Treewalk
