import DomainStory.Text.Alphanumeric
import DomainStory.Text.Lowercase
import DomainStory.Text.Pieces

/-!
# Actor names at the ends of a text

A name matches an end of a text that equals it character by character, ignoring case, unless the
match would cut a word in two. Of the names that match, the longest wins, and of equally long ones
the first.
-/

namespace DomainStory

open Text

/-- A name that covers part of a text, with what stands before and after that part. -/
structure NameMatch where
  name : String
  before : List Char
  covered : List Char
  after : List Char

namespace NameMatch

def start (m : NameMatch) : Nat := byteCount m.before

def stop (m : NameMatch) : Nat := m.start + byteCount m.covered

/-- Whether a cut between two characters would split a word. -/
def splitsWord (edge neighbour : Option Char) : Bool :=
  edge.any isWord && neighbour.any isWord

/-- Splits as many characters off a text as the name has, provided they equal it ignoring case. -/
def splitName : (name text : List Char) → Option (List Char × List Char)
  | [], text => some ([], text)
  | _ :: _, [] => none
  | n :: name, c :: text =>
    if sameIgnoringCase c n then
      (splitName name text).map fun (covered, rest) => (c :: covered, rest)
    else none

def atStart? (text : List Char) (name : String) : Option NameMatch :=
  match splitName name.toList text with
  | none => none
  | some (covered, rest) =>
    if covered.isEmpty || splitsWord covered.getLast? rest.head? then none
    else some ⟨name, [], covered, rest⟩

def atEnd? (text : List Char) (name : String) : Option NameMatch :=
  -- the end of the text is the start of the reversed text
  match splitName name.toList.reverse text.reverse with
  | none => none
  | some (covered, rest) =>
    if covered.isEmpty || splitsWord covered.getLast? rest.head? then none
    else some ⟨name, rest.reverse, covered.reverse, []⟩

/-- The match that covers most characters, the first of those that cover equally many. -/
def longest : List NameMatch → Option NameMatch
  | [] => none
  | m :: rest =>
    match longest rest with
    | none => some m
    -- of equally long matches the earlier one stays
    | some m' => if m.covered.length < m'.covered.length then some m' else some m

def first? (names : List String) (text : List Char) : Option NameMatch :=
  longest (names.filterMap (atStart? text))

def last? (names : List String) (text : List Char) : Option NameMatch :=
  longest (names.filterMap (atEnd? text))

end NameMatch

/-- Whether some name occurs in the text once both are in lower case. -/
def mentionsAny (names : List String) (text : List Char) : Bool :=
  let lowered := lowercase text
  names.any fun name => !name.isEmpty && occursIn (lowercase name.toList) lowered

end DomainStory
