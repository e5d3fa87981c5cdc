/-!
# JSON values

Values with ordered fields, the lookup of a field, and the merging of one value onto another.
Integers and floats are apart: an integer written without a fraction or exponent stays exact.
-/

namespace DomainStory

/-- A JSON value. The fields of an object keep the order in which they were written. -/
inductive Json where
  | null
  | bool (value : Bool)
  | int (value : Int)
  | float (value : Float)
  | str (value : String)
  | arr (items : List Json)
  | obj (fields : List (String × Json))
  /-- A text that has the form of a value but denotes none: a number out of range, or a string
  with an unpaired surrogate. -/
  | unreadable

namespace Json

abbrev Fields := List (String × Json)

def Fields.get? (fields : Fields) (key : String) : Option Json :=
  (fields.find? fun f => f.1 = key).map Prod.snd

/-- Gives a field a value: in place when the name is present, else as the last field. -/
def Fields.set (key : String) (value : Json) : Fields → Fields
  | [] => [(key, value)]
  | f :: rest => if f.1 = key then (key, value) :: rest else f :: Fields.set key value rest

def isObject : Json → Bool
  | obj _ => true
  | _ => false

def field? : Json → String → Option Json
  | obj fields, key => Fields.get? fields key
  | _, _ => none

def path? : Json → List String → Option Json
  | value, [] => some value
  | value, key :: rest => (value.field? key).bind fun inner => inner.path? rest

/-- The integer itself as a float, a float as it is, and nothing for other values. -/
def float? : Json → Option Float
  | int n => some (Float.ofInt n)
  | float x => some x
  | _ => none

def nat? : Json → Option Nat
  | int (.ofNat n) => some n
  | _ => none

def str? : Json → Option String
  | str s => some s
  | _ => none

def items? : Json → Option (List Json)
  | arr items => some items
  | _ => none

/-! ## Merging -/

mutual

/-- Lays a value over a base. Objects merge field by field; anything else replaces the base. -/
def merge (base : Json) : Json → Json
  | obj upper =>
    match base with
    | obj fields => obj (mergeFields fields upper)
    | _ => obj upper
  | upper => upper

/-- Lays fields over a base, one after the other. A field of the base keeps its place, a new one
goes last. -/
def mergeFields (base : Fields) : Fields → Fields
  | [] => base
  | (key, upper) :: rest =>
    let merged := match Fields.get? base key with
      | some value => merge value upper
      | none => upper
    mergeFields (Fields.set key merged base) rest

end

end Json

end DomainStory
