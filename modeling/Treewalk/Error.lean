/-
The errors that end an evaluation: what went wrong, the kind it is reported under, and the words of its message.
-/
import Treewalk.Syntax.Operator
import Treewalk.Text.Quoted
import Treewalk.Unwritable

namespace Treewalk

/-- The kinds of values. -/
inductive Kind where
  | none | bool | int | float | imaginary | string | tuple | function | cls | object
deriving Repr, DecidableEq, Inhabited

def Kind.label : Kind → String
  | .none => "None"
  | .bool => "Bool"
  | .int => "Int"
  | .float => "Float"
  | .imaginary => "Imaginary"
  | .string => "String"
  | .tuple => "Tuple"
  | .function => "Function"
  | .cls => "Class"
  | .object => "Object"

def Kind.isNumeric : Kind → Bool
  | .int | .float => true
  | _ => false

/-! ## Kinds of errors -/

inductive ErrorKind where
  | evaluation | parse | unknownSymbol | unknownAttribute | unknownMethod | invalidReceiver | notCallable
  | unsupportedOperand | arithmeticFailure | assertionFailed | unimplemented | invalidTarget
  | recursionDepthExceeded | internalInvariant
deriving Repr, DecidableEq, Inhabited

namespace ErrorKind

def label : ErrorKind → String
  | .evaluation => "EvaluationError"
  | .parse => "ParseError"
  | .unknownSymbol => "UnknownSymbol"
  | .unknownAttribute => "UnknownAttribute"
  | .unknownMethod => "UnknownMethod"
  | .invalidReceiver => "InvalidReceiver"
  | .notCallable => "NotCallable"
  | .unsupportedOperand => "UnsupportedOperand"
  | .arithmeticFailure => "ArithmeticFailure"
  | .assertionFailed => "AssertionFailed"
  | .unimplemented => "Unimplemented"
  | .invalidTarget => "InvalidTarget"
  | .recursionDepthExceeded => "RecursionDepthExceeded"
  | .internalInvariant => "InternalInvariantViolation"

def all : List ErrorKind :=
  [.evaluation, .parse, .unknownSymbol, .unknownAttribute, .unknownMethod, .invalidReceiver, .notCallable,
    .unsupportedOperand, .arithmeticFailure, .assertionFailed, .unimplemented, .invalidTarget,
    .recursionDepthExceeded, .internalInvariant]

def ofLabel? (label : String) : Option ErrorKind := all.find? fun kind => kind.label == label

/-- An error in one line; an empty message is left out. -/
def describe (kind : ErrorKind) (message : Text) : Text :=
  if message.isEmpty then kind.label else kind.label ++ ": " ++ message

end ErrorKind

/-! ## Causes -/

/-- Why an operator on numbers or strings has no result. -/
inductive ArithmeticFault where
  | divisionByZero | integerModulo | floatModulo | intTooLarge | infinityToInteger | nanToInteger
  | domain | range | outOfRange | tooManyDigits | tooLarge | notIndexSized | repeatedTooLong
deriving Repr, DecidableEq

def ArithmeticFault.text : ArithmeticFault → String
  | .divisionByZero => "float division by zero"
  | .integerModulo => "integer modulo by zero"
  | .floatModulo => "float modulo"
  | .intTooLarge => "int too large to convert to float"
  | .infinityToInteger => "cannot convert float infinity to integer"
  | .nanToInteger => "cannot convert float NaN to integer"
  | .domain => "math domain error"
  | .range => "math range error"
  | .outOfRange => "float result out of range"
  | .tooManyDigits => "too many digits in integer"
  | .tooLarge => "result too large"
  | .notIndexSized => "cannot fit 'int' into an index-sized integer"
  | .repeatedTooLong => "repeated string is too long"

/-- The statements that leave a loop or a function. -/
inductive Exit where
  | breakLoop | continueLoop | returnCall
deriving Repr, DecidableEq

namespace Exit

/-- What is wrong with an exit that stands in the wrong place. -/
def misplacement : Exit → String
  | .breakLoop => "'break' outside loop"
  | .continueLoop => "'continue' not properly in loop"
  | .returnCall => "'return' outside function"

/-- What is wrong with an exit that is executed where nothing can catch it. -/
def violation : Exit → String
  | .breakLoop => "'break' outside loop"
  | .continueLoop => "'continue' outside loop"
  | .returnCall => "'return' used outside of a function"

def signal : Exit → String
  | .breakLoop => "BreakSignal"
  | .continueLoop => "ContinueSignal"
  | .returnCall => "ReturnSignal"

end Exit

/-- An error that ends an evaluation, by its cause. -/
inductive EvalError where
  /-- The program text cannot be read. -/
  | unreadable (file : String)
  | misplaced (exit : Exit) (file : String) (line : Option Int)
  | unknownSymbol (name : String)
  | unknownAttribute (name : String)
  | unknownMethod (name : String)
  | noAttributes (kind : Kind)
  | noClassAttributes (kind : Kind)
  | cannotSetAttribute (name : String) (kind : Kind)
  | notCallable (shown : Text)
  | unsupportedUnary (op : Operator) (operand : Kind)
  | unsupportedBinary (op : Operator) (left right : Kind)
  | arithmetic (op : Operator) (fault : ArithmeticFault)
  | negativePower
  | negativeShift
  | assertionFailed
  | constantNotSupported (shown : String)
  | nameNotLoaded
  | expressionNotSupported (form : String)
  | statementNotSupported (form : String)
  | keywordArguments
  | deletion (shown : Text)
  | parametersNotPlain (function : String)
  | functionDecorated (function : String)
  | classNotPlain (name : String)
  | invalidTarget (shown : Text)
  | depthExceeded
  | foreignValue (type : String)
  | objectWithoutClass
  | uncaught (exit : Exit)
  | globalFramePopped
  | escaped (exit : Exit)
deriving Repr, DecidableEq

namespace EvalError

def kind : EvalError → ErrorKind
  | .unreadable _ | .misplaced .. => .parse
  | .unknownSymbol _ => .unknownSymbol
  | .unknownAttribute _ => .unknownAttribute
  | .unknownMethod _ => .unknownMethod
  | .noAttributes _ | .noClassAttributes _ | .cannotSetAttribute .. => .invalidReceiver
  | .notCallable _ => .notCallable
  | .unsupportedUnary .. | .unsupportedBinary .. => .unsupportedOperand
  | .arithmetic .. | .negativePower | .negativeShift => .arithmeticFailure
  | .assertionFailed => .assertionFailed
  | .constantNotSupported _ | .nameNotLoaded | .expressionNotSupported _ | .statementNotSupported _
  | .keywordArguments | .deletion _ | .parametersNotPlain _ | .functionDecorated _ | .classNotPlain _ =>
    .unimplemented
  | .invalidTarget _ => .invalidTarget
  | .depthExceeded => .recursionDepthExceeded
  | .foreignValue _ | .objectWithoutClass | .uncaught _ | .globalFramePopped | .escaped _ => .internalInvariant

/-- A file and a line of it; a tree built by hand has no lines. -/
def place (file : String) (line : Option Int) : String :=
  "(" ++ file ++ ", line " ++ (match line with
    | some n => toString n
    | none => "?") ++ ")"

def message : EvalError → Text
  | .unreadable file => "invalid syntax (" ++ file ++ ")"
  | .misplaced exit file line => exit.misplacement ++ " " ++ place file line
  | .unknownSymbol name => "Unknown symbol: " ++ name
  | .unknownAttribute name => "No attribute " ++ name
  | .unknownMethod name => "Unknown method: " ++ name
  | .noAttributes kind => "only classes and objects have attributes, not " ++ kind.label
  | .noClassAttributes kind => "only objects have class attributes, not " ++ kind.label
  | .cannotSetAttribute name kind => "cannot set attribute " ++ Text.quoted name ++ " on " ++ kind.label
  | .notCallable shown => "Unable to call " ++ shown
  | .unsupportedUnary op operand =>
    "unsupported operand type for " ++ op.symbol ++ ": '" ++ operand.label ++ "'"
  | .unsupportedBinary op left right =>
    "unsupported operand type(s) for " ++ op.symbol ++ ": '" ++ left.label ++ "' and '" ++ right.label ++ "'"
  | .arithmetic op fault => op.symbol ++ ": " ++ fault.text
  | .negativePower => "integer power with a negative exponent"
  | .negativeShift => "negative shift count"
  | .assertionFailed => "Assertion failed!"
  | .constantNotSupported shown => "Constant not supported: " ++ shown
  | .nameNotLoaded => "Name ctx other than Load not supported here"
  | .expressionNotSupported form => "Expression not supported: " ++ form
  | .statementNotSupported form => "Statement not supported: " ++ form
  | .keywordArguments => "keyword arguments and argument unpacking are not supported"
  | .deletion shown => "Unimplemented: " ++ shown
  | .parametersNotPlain function => "def " ++ function ++ ": only plain positional parameters are supported"
  | .functionDecorated function => "def " ++ function ++ ": decorators are not supported"
  | .classNotPlain name => "class " ++ name ++ ": keywords and decorators are not supported"
  | .invalidTarget shown => "cannot assign to " ++ shown
  | .depthExceeded => "maximum recursion depth exceeded"
  | .foreignValue type => "not an evaluator value: " ++ type
  | .objectWithoutClass => "object must be associated with a class"
  | .uncaught exit => exit.violation
  | .globalFramePopped => "cannot pop the global frame"
  | .escaped exit => exit.signal ++ " escaped to module level"

def describe (e : EvalError) : Text := e.kind.describe e.message

end EvalError

/-- What can end the rendering or the comparison of values: an error of the evaluation, or a text that does not exist. -/
inductive Failure where
  | error (e : EvalError)
  | unwritable (cause : Unwritable)
deriving Repr, DecidableEq

/-- What exists unless an integer in it is too long. -/
def Failure.orLimit {α : Type} : Option α → Except Failure α
  | some a => .ok a
  | none => .error (.unwritable .digitLimit)

end Treewalk
