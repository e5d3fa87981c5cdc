import DomainStory.Json.Numeral

/-!
# Reading JSON text

The strict grammar: no comments, no trailing commas, no white space but blank, tab, newline and
carriage return. `read?` gives the value as written, repeated fields included and parts that
denote nothing marked `unreadable`. `parse?` gives the document that a text denotes: it refuses
unreadable parts and deep nesting, and of repeated fields it takes the last value at the place of
the first.
-/

namespace DomainStory.Json

def isSpace (c : Char) : Bool := c == ' ' || c == '\n' || c == '\t' || c == '\r'

def skipSpace (cs : List Char) : List Char := cs.dropWhile isSpace

def digit (c : Char) : Nat := c.toNat - '0'.toNat

def takeDigits (cs : List Char) : List Nat × List Char :=
  ((cs.takeWhile Char.isDigit).map digit, cs.dropWhile Char.isDigit)

/-! ## Numbers -/

/-- The digits before the point: a zero alone, or digits that do not start with a zero. -/
def readWhole (cs : List Char) : Option (List Nat × List Char) :=
  match takeDigits cs with
  | ([], _) => none
  | (0 :: _ :: _, _) => none
  | (digits, rest) => some (digits, rest)

def readFraction : List Char → Option (Option (List Nat) × List Char)
  | '.' :: cs =>
    match takeDigits cs with
    | ([], _) => none
    | (digits, rest) => some (some digits, rest)
  | cs => some (none, cs)

def readSignedDigits (down : Bool) (cs : List Char) :
    Option (Option (Bool × List Nat) × List Char) :=
  match takeDigits cs with
  | ([], _) => none
  | (digits, rest) => some (some (down, digits), rest)

def readExponent : List Char → Option (Option (Bool × List Nat) × List Char)
  | c :: cs =>
    if c = 'e' || c = 'E' then
      match cs with
      | '+' :: ds => readSignedDigits false ds
      | '-' :: ds => readSignedDigits true ds
      | ds => readSignedDigits false ds
    else some (none, c :: cs)
  | [] => some (none, [])

def readNumeral (negative : Bool) (cs : List Char) : Option (Json × List Char) := do
  let (whole, cs) ← readWhole cs
  let (fraction, cs) ← readFraction cs
  let (exponent, cs) ← readExponent cs
  return (Numeral.value ⟨negative, whole, fraction, exponent⟩, cs)

/-! ## Strings -/

def hexDigit? (c : Char) : Option Nat :=
  if c.isDigit then some (digit c)
  else if 'a' ≤ c && c ≤ 'f' then some (c.toNat - 'a'.toNat + 10)
  else if 'A' ≤ c && c ≤ 'F' then some (c.toNat - 'A'.toNat + 10)
  else none

def hexUnit? (a b c d : Char) : Option Nat := do
  return (((← hexDigit? a) * 16 + (← hexDigit? b)) * 16 + (← hexDigit? c)) * 16 + (← hexDigit? d)

def escaped? : Char → Option Char
  | '"' => some '"'
  | '\\' => some '\\'
  | '/' => some '/'
  | 'b' => some '\x08'
  | 'f' => some '\x0c'
  | 'n' => some '\n'
  | 'r' => some '\r'
  | 't' => some '\t'
  | _ => none

/-- What a string spells, its characters listed last first; `none` once an escape named half of a
surrogate pair without the other half. -/
abbrev Spelled := Option (List Char)

def Spelled.push (spelled : Spelled) (code : Nat) : Spelled :=
  spelled.map fun cs => Char.ofNat code :: cs

/-- Reads a string after its opening quote, up to and including the closing one. -/
def readString (spelled : Spelled) : List Char → Option (Spelled × List Char)
  | [] => none
  | '"' :: rest => some (spelled, rest)
  | '\\' :: 'u' :: a :: b :: c :: d :: '\\' :: 'u' :: a' :: b' :: c' :: d' :: rest =>
    match hexUnit? a b c d with
    | none => none
    | some high =>
      match hexUnit? a' b' c' d' with
      | none => none
      | some low =>
        -- two halves of a pair make one character; half a pair alone leaves the string unreadable
        if 0xd800 ≤ high && high < 0xdc00 && 0xdc00 ≤ low && low < 0xe000 then
          readString (Spelled.push spelled (0x10000 + (high - 0xd800) * 0x400 + (low - 0xdc00)))
            rest
        else if 0xd800 ≤ high && high < 0xe000 then
          readString none ('\\' :: 'u' :: a' :: b' :: c' :: d' :: rest)
        else
          readString (Spelled.push spelled high) ('\\' :: 'u' :: a' :: b' :: c' :: d' :: rest)
  | '\\' :: 'u' :: a :: b :: c :: d :: rest =>
    match hexUnit? a b c d with
    | none => none
    | some code =>
      if 0xd800 ≤ code && code < 0xe000 then readString none rest
      else readString (Spelled.push spelled code) rest
  | '\\' :: c :: rest =>
    match escaped? c with
    | none => none
    | some e => readString (Spelled.push spelled e.toNat) rest
  -- control characters have to be escaped, and a backslash cannot be the last character
  | c :: rest => if c.toNat < 0x20 || c = '\\' then none else readString (spelled.map (c :: ·)) rest

def spelledValue : Spelled → Json
  | some cs => .str (String.ofList cs.reverse)
  | none => .unreadable

/-! ## Values -/

def afterWord (word : String) (cs : List Char) : Option (List Char) :=
  if word.toList.isPrefixOf cs then some (cs.drop word.length) else none

/-- The value of an object: unreadable when one of its names is. -/
def objectValue (fields : List (Spelled × Json)) : Json :=
  match fields.mapM fun f => f.1.map fun key => (String.ofList key.reverse, f.2) with
  | some fields => .obj fields
  | none => .unreadable

mutual

/-- Reads a value at the start of a text. The fuel bounds the depth of nested reads. Of any two
such reads one follows a character, so that twice the length of the text is enough. -/
def readValue (fuel : Nat) (cs : List Char) : Option (Json × List Char) :=
  match fuel with
  | 0 => none
  | fuel + 1 =>
    match skipSpace cs with
    | '[' :: rest =>
      match skipSpace rest with
      | ']' :: rest => some (.arr [], rest)
      | rest => (readItems fuel rest).map fun (items, rest) => (.arr items, rest)
    | '{' :: rest =>
      match skipSpace rest with
      | '}' :: rest => some (.obj [], rest)
      | rest => (readFields fuel rest).map fun (fields, rest) => (objectValue fields, rest)
    | '"' :: rest => (readString (some []) rest).map fun (s, rest) => (spelledValue s, rest)
    | '-' :: rest => readNumeral true rest
    | 't' :: rest => (afterWord "rue" rest).map fun rest => (.bool true, rest)
    | 'f' :: rest => (afterWord "alse" rest).map fun rest => (.bool false, rest)
    | 'n' :: rest => (afterWord "ull" rest).map fun rest => (.null, rest)
    | rest => readNumeral false rest

/-- Reads the items of an array up to and including its closing bracket. -/
def readItems (fuel : Nat) (cs : List Char) : Option (List Json × List Char) :=
  match fuel with
  | 0 => none
  | fuel + 1 =>
    match readValue fuel cs with
    | none => none
    | some (item, rest) =>
      match skipSpace rest with
      | ',' :: rest => (readItems fuel rest).map fun (items, rest) => (item :: items, rest)
      | ']' :: rest => some ([item], rest)
      | _ => none

def readFields (fuel : Nat) (cs : List Char) : Option (List (Spelled × Json) × List Char) :=
  match fuel with
  | 0 => none
  | fuel + 1 =>
    match skipSpace cs with
    | '"' :: rest =>
      match readString (some []) rest with
      | none => none
      | some (key, rest) =>
        match skipSpace rest with
        | ':' :: rest =>
          match readValue fuel rest with
          | none => none
          | some (item, rest) =>
            match skipSpace rest with
            | ',' :: rest =>
              (readFields fuel rest).map fun (fields, rest) => ((key, item) :: fields, rest)
            | '}' :: rest => some ([(key, item)], rest)
            | _ => none
        | _ => none
    | _ => none

end

def read? (text : String) : Option Json :=
  let cs := text.toList
  match readValue (2 * cs.length + 2) cs with
  | some (value, rest) => if (skipSpace rest).isEmpty then some value else none
  | none => none

/-! ## Documents -/

mutual

/-- Whether every part denotes a value and no part is nested deeper than `depth` containers. -/
def readable (depth : Nat) : Json → Bool
  | .unreadable => false
  | .arr items =>
    match depth with
    | 0 => false
    | depth + 1 => readableItems depth items
  | .obj fields =>
    match depth with
    | 0 => false
    | depth + 1 => readableFields depth fields
  | _ => true

def readableItems (depth : Nat) : List Json → Bool
  | [] => true
  | item :: rest => readable depth item && readableItems depth rest

def readableFields (depth : Nat) : Fields → Bool
  | [] => true
  | (_, item) :: rest => readable depth item && readableFields depth rest

end

mutual

/-- The value with repeated fields united: each name at its first place, with its last value. -/
def united : Json → Json
  | .arr items => .arr (unitedItems items)
  | .obj fields => .obj (unitedFields [] fields)
  | value => value

def unitedItems : List Json → List Json
  | [] => []
  | item :: rest => united item :: unitedItems rest

def unitedFields (done : Fields) : Fields → Fields
  | [] => done
  | (key, item) :: rest => unitedFields (Fields.set key (united item) done) rest

end

/-- The number of containers that may be nested in each other in a document. -/
def nestingLimit : Nat := 127

def parse? (text : String) : Option Json :=
  match read? text with
  | some value => if readable nestingLimit value then some (united value) else none
  | none => none

end DomainStory.Json
