import DomainStory.Json.Basic
import DomainStory.Decimal.Shortest
import DomainStory.Text.Natural

/-!
# Writing JSON text

Compact text has no white space; indented text puts every item and field on a line of its own,
two blanks deeper than its container. Floats are written with the fewest digits that read back and
never without a point or an exponent; a float that is not finite is written as null.
-/

namespace DomainStory.Json

def zeros (n : Nat) : String := String.ofList (List.replicate n '0')

/-- Writes digits with the point after the first `place` of them: positional for places from -4
to 16, with an exponent otherwise. -/
def floatLayout (digits : String) (place : Int) : String :=
  let count := digits.length
  if 0 < place && place ≤ 16 then
    let whole := place.toNat
    if count ≤ whole then digits ++ zeros (whole - count) ++ ".0"
    else
      String.ofList (digits.toList.take whole) ++ "." ++ String.ofList (digits.toList.drop whole)
  else if -5 < place && place ≤ 0 then "0." ++ zeros (-place).toNat ++ digits
  else
    let tail := String.ofList (digits.toList.drop 1)
    let mantissa :=
      String.ofList (digits.toList.take 1) ++ (if tail.isEmpty then "" else "." ++ tail)
    let power := place - 1
    mantissa ++ "e" ++ (if power < 0 then "-" else "") ++ Text.natural power.natAbs

def floatText (x : Float) : String :=
  if x.isNaN || x.isInf then "null"
  else
    let sign := if x.toBits.toNat / Nat.pow 2 63 = 1 then "-" else ""
    if x == 0.0 then sign ++ "0.0"
    else
      let d := Decimal.shortest x
      let digits := Text.natural d.digits
      sign ++ floatLayout digits (digits.length + d.exponent)

def intText (n : Int) : String := (if n < 0 then "-" else "") ++ Text.natural n.natAbs

def hexChar (n : Nat) : Char := if n < 10 then Char.ofNat (0x30 + n) else Char.ofNat (0x57 + n)

/-- A character inside quotes. Quotes, backslashes and control characters are escaped. -/
def quotedChar (c : Char) : List Char :=
  if c = '"' then ['\\', '"']
  else if c = '\\' then ['\\', '\\']
  else if c = '\x08' then ['\\', 'b']
  else if c = '\x0c' then ['\\', 'f']
  else if c = '\n' then ['\\', 'n']
  else if c = '\r' then ['\\', 'r']
  else if c = '\t' then ['\\', 't']
  else if c.toNat < 0x20 then ['\\', 'u', '0', '0', hexChar (c.toNat / 16), hexChar (c.toNat % 16)]
  else [c]

def quoted (s : String) : String := "\"" ++ String.ofList (s.toList.flatMap quotedChar) ++ "\""

mutual

def compact : Json → String
  | null => "null"
  | bool b => if b then "true" else "false"
  | int n => intText n
  | float x => floatText x
  | str s => quoted s
  | arr items => "[" ++ compactItems items ++ "]"
  | obj fields => "\x7b" ++ compactFields fields ++ "\x7d"
  | unreadable => "null"

def compactItems : List Json → String
  | [] => ""
  | [item] => compact item
  | item :: rest => compact item ++ "," ++ compactItems rest

def compactFields : List (String × Json) → String
  | [] => ""
  | [(key, item)] => quoted key ++ ":" ++ compact item
  | (key, item) :: rest => quoted key ++ ":" ++ compact item ++ "," ++ compactFields rest

end

def newline (depth : Nat) : String := "\n" ++ String.ofList (List.replicate (2 * depth) ' ')

mutual

/-- The value on indented lines, inside containers nested to `depth`. -/
def indented (depth : Nat) : Json → String
  | null => "null"
  | bool b => if b then "true" else "false"
  | int n => intText n
  | float x => floatText x
  | str s => quoted s
  | arr [] => "[]"
  | arr (item :: rest) =>
    "[" ++ newline (depth + 1) ++ indented (depth + 1) item ++ indentedItems (depth + 1) rest
      ++ newline depth ++ "]"
  | obj [] => "{}"
  | obj ((key, item) :: rest) =>
    "\x7b" ++ newline (depth + 1) ++ quoted key ++ ": " ++ indented (depth + 1) item
      ++ indentedFields (depth + 1) rest ++ newline depth ++ "\x7d"
  | unreadable => "null"

/-- The items after the first, each after a comma on a line of its own. -/
def indentedItems (depth : Nat) : List Json → String
  | [] => ""
  | item :: rest => "," ++ newline depth ++ indented depth item ++ indentedItems depth rest

def indentedFields (depth : Nat) : List (String × Json) → String
  | [] => ""
  | (key, item) :: rest =>
    "," ++ newline depth ++ quoted key ++ ": " ++ indented depth item ++ indentedFields depth rest

end

def text (pretty : Bool) (value : Json) : String :=
  if pretty then indented 0 value else compact value

end DomainStory.Json
