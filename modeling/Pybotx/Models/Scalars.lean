/-
Scalars of the API models.

How pydantic reads identifiers, numbers, flags and dates from JSON is a parameter: in its
lax mode it takes more than the declared type.  Texts, objects, lists, literals and
enumerations are read by the validators of the library.
-/

import Pybotx.Foundation.Validation
import Pybotx.Errors

set_option autoImplicit false

namespace Pybotx

/-- A `datetime`: microseconds since the epoch and, if it is aware, the offset. -/
structure DateTime where
  microseconds : Int
  offset : Option Int
  deriving DecidableEq

structure Scalars where
  uuid : Json → Option UUID
  int : Json → Option Int
  bool : Json → Option Bool
  float : Json → Option PyFloat
  datetime : Json → Option DateTime
  /-- `str` of a float. -/
  floatStr : PyFloat → String

namespace Scalars

/-- A scalar given in its own type. -/
def strict : Scalars where
  uuid := fun value => match value with
    | .str text => UUID.parse text
    | _ => none
  int := fun value => match value with
    | .int number => some number
    | _ => none
  bool := fun value => match value with
    | .bool flag => some flag
    | _ => none
  float := fun value => match value with
    | .float number => some number
    | _ => none
  datetime := fun _ => none
  floatStr := fun _ => ""

variable (scalars : Scalars) {ε : Type}

abbrev Check (α : Type) := Validator PyError α

def checkUuid : Validator ε UUID := Validator.ofOption scalars.uuid

def checkInt : Validator ε Int := Validator.ofOption scalars.int

def checkBool : Validator ε Bool := Validator.ofOption scalars.bool

def checkDatetime : Validator ε DateTime := Validator.ofOption scalars.datetime

/-- `str | float`; the text of either. -/
def checkStrOrFloat : Check String := fun value =>
  match value with
  | .str text => .valid text
  | other => scalars.floatStr <$> Validator.ofOption scalars.float other

end Scalars

end Pybotx
