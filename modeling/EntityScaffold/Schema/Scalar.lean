/-!
Scalar types of the schema language, and what each becomes in the generated code: a type, a validator
and a way to be shown. A type name that is not a scalar is the name of an entity or an enum.
-/

namespace EntityScaffold

/-- the types a column can have -/
inductive Scalar
  | string
  | boolean
  | int
  | bigInt
  | float
  | decimal
  | dateTime
  | json
  | bytes
  | unsupported
deriving DecidableEq, Repr

inductive ValidatorKind
  | coercedNumber
  | coercedBoolean
  | string
  | opaqueValue
deriving DecidableEq, Repr

/-- how a value is shown in a form -/
inductive Display
  | text
  | number
  | boolean
  | date
  | relation
  | unknown
deriving DecidableEq, Repr

namespace Scalar

def all : List Scalar :=
  [.string, .boolean, .int, .bigInt, .float, .decimal, .dateTime, .json, .bytes, .unsupported]

/-- the name of the type in a schema -/
def name : Scalar → String
  | .string => "String"
  | .boolean => "Boolean"
  | .int => "Int"
  | .bigInt => "BigInt"
  | .float => "Float"
  | .decimal => "Decimal"
  | .dateTime => "DateTime"
  | .json => "Json"
  | .bytes => "Bytes"
  | .unsupported => "Unsupported"

/-- the scalar type a type name stands for; an argument in parentheses, as in
`Unsupported("point")`, plays no part -/
def ofName? (typeName : List Char) : Option Scalar :=
  all.find? fun s => s.name.toList = typeName.takeWhile (· ≠ '(')

/-- the type in the generated code -/
def targetType : Scalar → String
  | .string => "string"
  | .boolean => "boolean"
  | .int | .float | .decimal => "number"
  | .bigInt => "bigint"
  | .dateTime => "Date"
  | .json | .unsupported => "unknown"
  | .bytes => "Buffer"

/-- how an input value of the type is validated -/
def validatorKind : Scalar → ValidatorKind
  | .int | .bigInt | .float | .decimal => .coercedNumber
  | .boolean => .coercedBoolean
  | .string | .dateTime => .string
  | .json | .bytes | .unsupported => .opaqueValue

/-- how a value of the type is shown -/
def display : Scalar → Display
  | .string => .text
  | .int | .bigInt | .float | .decimal => .number
  | .boolean => .boolean
  | .dateTime => .date
  | .json | .bytes | .unsupported => .unknown

end Scalar

/-- the validator expression in the generated code -/
def ValidatorKind.expression : ValidatorKind → String
  | .coercedNumber => "z.coerce.number()"
  | .coercedBoolean => "z.coerce.boolean()"
  | .string => "z.string()"
  | .opaqueValue => "z.any()"

/-- the validator expression for values of the type -/
def Scalar.validator (s : Scalar) : String := s.validatorKind.expression

/-- a type is found under its own name -/
theorem Scalar.ofName?_name (s : Scalar) : Scalar.ofName? s.name.toList = some s := by
  cases s <;> decide

end EntityScaffold
