import DomainStory.Json.Basic

/-!
# Records as JSON values

A record is written as an object with its fields in order. It is read from an object with these
fields, others being ignored and none repeated, or from an array that holds exactly the values of
the fields in order. An optional field may be missing or null.
-/

namespace DomainStory.Json

def record? (names : List String) : Json → Option (List (Option Json))
  | obj fields =>
    names.mapM fun name =>
      match fields.filter fun f => f.1 = name with
      | [] => some none
      | [f] => some (some f.2)
      | _ => none
  | arr items => if items.length = names.length then some (items.map some) else none
  | _ => none

def required {β : Type} (read : Json → Option β) (field : Option Json) : Option β :=
  field.bind read

/-- Reads a field that may be missing or null. -/
def optional {β : Type} (read : Json → Option β) : Option Json → Option (Option β)
  | none => some none
  | some null => some none
  | some value => (read value).map some

def list? {β : Type} (read : Json → Option β) (value : Json) : Option (List β) :=
  value.items?.bind fun items => items.mapM read

/-- The name of a variant: a string, or an object whose only field has that name and is null. -/
def variant? : Json → Option String
  | str name => some name
  | obj [(name, null)] => some name
  | _ => none

def ofOption {β : Type} (write : β → Json) : Option β → Json
  | some value => write value
  | none => null

/-- A float; one that is not finite has no JSON form and becomes null. -/
def ofFloat (x : Float) : Json := if x.isFinite then float x else null

def ofNat (n : Nat) : Json := int n

def ofList {β : Type} (write : β → Json) (items : List β) : Json := arr (items.map write)

end DomainStory.Json
