import SciCalc.Fault
import SciCalc.Packing

/-!
# Failures

A `Failure` is why a request got no answer: a fault of an expression, or a request that cannot be met
whatever its expressions are.
-/

namespace SciCalc

/-- What is wrong with a comma separated file. -/
inductive CsvFault where
  /-- There is no header line. -/
  | noColumns
  /-- A line has more fields than the lines before it. -/
  | tooManyFields (expected line found : Nat)
  /-- A quote is still open at the end of the file. -/
  | openQuote (row : Nat)
deriving DecidableEq, Repr

def CsvFault.message : CsvFault → String
  | noColumns => "No columns to parse from file"
  | tooManyFields expected line found =>
    s!"Error tokenizing data. C error: Expected {expected} fields in line {line}, saw {found}\n"
  | openQuote row => s!"Error tokenizing data. C error: EOF inside string starting at row {row}"

/-- A bound or a default of the settings that makes no sense. -/
inductive SettingsFault where
  | angleUnit
  | maxLength
  | precision
  | zeroThreshold
  | maxEntries
  | maxSessions
  | logLevel
deriving DecidableEq, Repr

def SettingsFault.message : SettingsFault → String
  | angleUnit => "角度单位只能是 degrees 或 radians"
  | maxLength => "输入长度上限必须为正"
  | precision => "double 最多17位有效数字"
  | zeroThreshold => "零值阈值不能为负"
  | maxEntries => "历史记录上限必须为正"
  | maxSessions => "会话数上限必须为正"
  | logLevel => ""

inductive Failure where
  | fault (fault : Fault)
  /-- A number token whose text is no number. -/
  | unreadableNumber (text : String)
  /-- A word that names no kind of token. -/
  | unknownTokenKind (word : String)
  /-- An operator token that the table of operators does not list. -/
  | unlistedOperator (symbol : String)
  /-- The parser's stacks are out of step; no token list leads here. -/
  | stacksOutOfStep
  | unknownAngleUnit (given : Scalar)
  /-- A number of significant digits below zero. -/
  | negativePrecision
  | precisionTooBig
  /-- A number of significant digits that does not even fit into a machine word. -/
  | precisionUnreadable
  /-- An infinite value has no mantissa and exponent. -/
  | noExponent
  /-- A history whose capacity is below zero. -/
  | negativeCapacity
  /-- A history whose capacity does not fit into a machine word. -/
  | capacityTooBig
  /-- Nothing is left to evict from a store whose bound is below zero. -/
  | emptyStore
  | missingExpressionColumn (name : String)
  | missingAngleColumn (name : String)
  /-- A column asked for by an empty list. -/
  | columnWithoutName
  | csv (fault : CsvFault)
  | settings (fault : SettingsFault)
  /-- Values of kinds that have no order. -/
  | incomparable (left sign right : String)
  /-- A postfix element that is a mere mark has no kind to show. -/
  | markWithoutKind
  | unknownLogLevel (name : String)
  | fileNotFound (path : String)
  | isDirectory (path : String)
  /-- A path that leads on behind a file. -/
  | notDirectory (path : String)
  | nameTooLong (path : String)
  /-- A path with a NUL in it. -/
  | nulInPath
  /-- The directory that a file is to be put in. -/
  | directoryNotFound (path : String)
  | packing (fault : PackingFault)
  /-- A kind of file that only an optional part can open. -/
  | missingPart (name : String)
  /-- Nested calls that leave no room on the stack. -/
  | recursionTooDeep

namespace Failure

def message : Failure → String
  | fault found => found.message
  | unreadableNumber text => s!"could not convert string to float: {Text.quoted text}"
  | unknownTokenKind word => s!"{Text.quoted word} is not a valid TokenType"
  | unlistedOperator symbol => Text.quoted symbol
  | stacksOutOfStep => "operator stack out of step"
  | unknownAngleUnit given => s!"Unknown angle unit: {given.cite}"
  | negativePrecision => "Format specifier missing precision"
  | precisionTooBig => "precision too big"
  | precisionUnreadable => "Too many decimal digits in format string"
  | noExponent => "not enough values to unpack (expected 2, got 1)"
  | negativeCapacity => "maxlen must be non-negative"
  | capacityTooBig => "Python int too large to convert to C ssize_t"
  | emptyStore => Text.quoted "dictionary is empty"
  | missingExpressionColumn name => s!"Expression column '{name}' not found in dataset."
  | missingAngleColumn name => s!"Angle column '{name}' not found in dataset."
  | columnWithoutName => "unhashable type: 'list'"
  | csv found => found.message
  | settings found => found.message
  | incomparable left sign right => s!"'{sign}' not supported between instances of '{left}' and '{right}'"
  | markWithoutKind => "'str' object has no attribute 'name'"
  | unknownLogLevel name => s!"module 'logging' has no attribute '{name}'"
  | fileNotFound path => s!"[Errno 2] No such file or directory: {Text.quoted path}"
  | isDirectory path => s!"[Errno 21] Is a directory: {Text.quoted path}"
  | notDirectory path => s!"[Errno 20] Not a directory: {Text.quoted path}"
  | nameTooLong path => s!"[Errno 36] File name too long: {Text.quoted path}"
  | nulInPath => "embedded null byte"
  | directoryNotFound path => s!"Cannot save file into a non-existent directory: '{path}'"
  | packing found => found.message
  | missingPart name =>
    s!"Missing optional dependency '{name}'.  Use pip or conda to install {name}."
  | recursionTooDeep => "maximum recursion depth exceeded"

end Failure

/-- A computation that may find a fault counts as one that may fail. -/
instance : MonadLift (Except Fault) (Except Failure) where
  monadLift := fun
    | .ok value => .ok value
    | .error fault => .error (.fault fault)

end SciCalc
