/-
**Why an operation fails.**

An operation is refused when it makes no sense of the types it is given (`Refusal`), and it cannot
run at all on a handle that the registry never gave out (`Fault.unissued`). `Refusal.message` and
`Fault.message` hold the wording.
-/

import JavaTypes.Shape
import JavaTypes.Text.Quoted

namespace JavaTypes

/-- Why the registry refuses a request. -/
inductive Refusal where
  /-- The word is none of the nine primitive keywords. -/
  | notPrimitive (word : String)
  /-- An array of `void` was asked for. -/
  | arrayOfVoid
  /-- The element type was asked of a type that is no array. -/
  | notArray (fullName : String)
  /-- The string is no class name. -/
  | invalidClassName (name : String)
  /-- Nesting and type arguments need a raw class. -/
  | notClass (fullName : String)
  /-- A class was to be applied to no type arguments. -/
  | noTypeArguments
  /-- One of the type arguments was `void`. -/
  | voidTypeArgument
  deriving DecidableEq, Repr

/-- The wording of a refusal. Only a rejected class name is quoted. -/
def Refusal.message : Refusal → String
  | notPrimitive word => "not a primitive type: " ++ word
  | arrayOfVoid => "void has no array type"
  | notArray fullName => "not an array type: " ++ fullName
  | invalidClassName name => "invalid class name: " ++ Text.quoted name
  | notClass fullName => "not a class type: " ++ fullName
  | noTypeArguments => "type argument list cannot be empty"
  | voidTypeArgument => "void cannot be used as a type argument"

/-- Why an operation fails. -/
inductive Fault where
  /-- The request is refused. -/
  | refused (why : Refusal)
  /-- The registry never gave out the handle. -/
  | unissued (id : Handle)
  /-- The pool never gave out the number of a name. -/
  | unissuedName (id : NameId)
  deriving DecidableEq, Repr

/-- The wording of a fault. -/
def Fault.message : Fault → String
  | refused why => why.message
  | unissued id =>
    "CodeModel: type id " ++ toString id.index ++ " not found (out of range for this model)"
  | unissuedName id => "name id " ++ toString id.index ++ " not found"

end JavaTypes
