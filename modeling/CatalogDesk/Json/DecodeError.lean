import CatalogDesk.Calendar.Reader
import CatalogDesk.Json.Basic
import CatalogDesk.Number.Reader
import CatalogDesk.Text.Quoted

/-! # Why a data value is not a record

    One cause for each way in which a value can fail to be a record, and one function
    that words them. -/

namespace CatalogDesk

/-- Why a data value is not the record that was asked for. -/
inductive DecodeError where
  | missingField (name : String)
  | duplicateField (name : String)
  | unknownVariant (given : String) (known : List String)
  /-- A value of the wrong kind. -/
  | invalidType (found : Json) (expected : String)
  /-- A value of the right kind that is not allowed. -/
  | invalidValue (found : Json) (expected : String)
  | invalidLength (length : Nat) (expected : String)
  | time (cause : TimeError)
  | amount (cause : NumberError)

namespace DecodeError

/-- What was found, with its value where that is short. -/
def describe : Json → String
  | .null => "null"
  | .bool b => if b then "boolean `true`" else "boolean `false`"
  | .number (.integer i) => "integer `" ++ toString i ++ "`"
  | .number (.real x) => "floating point `" ++ x.dataText ++ "`"
  | .text s => "string " ++ Text.quoted s
  | .list _ => "sequence"
  | .object _ => "map"

/-- The names that would have been right. -/
def oneOf (known : List String) : String :=
  match known.map (fun k => "`" ++ k ++ "`") with
  | [] => "there are no variants"
  | [a] => "expected " ++ a
  | [a, b] => "expected " ++ a ++ " or " ++ b
  | ks => "expected one of " ++ String.intercalate ", " ks

def message : DecodeError → String
  | .missingField name => "missing field `" ++ name ++ "`"
  | .duplicateField name => "duplicate field `" ++ name ++ "`"
  | .unknownVariant given known => "unknown variant `" ++ given ++ "`, " ++ oneOf known
  | .invalidType found expected => "invalid type: " ++ describe found ++ ", expected " ++ expected
  | .invalidValue found expected =>
    "invalid value: " ++ describe found ++ ", expected " ++ expected
  | .invalidLength length expected =>
    "invalid length " ++ toString length ++ ", expected " ++ expected
  | .time cause => cause.message
  | .amount cause => cause.message

end DecodeError

end CatalogDesk
