import DomainStory.Story.Basic
import DomainStory.Story.NameMatch
import DomainStory.Text.Blank

/-!
# What a line says

Every line of a story belongs to one category, found by its first characters. A line without a
mark of its own is taken for a step when it mentions an actor of the domain, and for prose when it
does not.
-/

namespace DomainStory

open Text

inductive Line where
  | blank
  | domainHeader (title : String)
  | note (note : Note)
  | actor (decl : ActorDecl)
  /-- A line that starts like an actor declaration but is none. -/
  | malformedActor
  | flowHeader (title : String)
  | comment
  /-- A line that mentions a known actor and is read as a step. -/
  | stepCandidate
  | prose
deriving DecidableEq

/-! ## Notes -/

/-- Reads a tag off the start of a text: a word, or two words with a dash between them. Returns the
tag and what follows it. -/
def Note.takeTag? (cs : List Char) : Option (List Char × List Char) :=
  let first := cs.takeWhile isWord
  if first.isEmpty then none
  else
    match cs.dropWhile isWord with
    | '-' :: rest =>
      -- a dash has to lead to a second word
      let second := rest.takeWhile isWord
      if second.isEmpty then none else some (first ++ '-' :: second, rest.dropWhile isWord)
    | rest => some (first, rest)

/-- Splits a tag in brackets off the start of a note, if text follows it. Returns the tag and the
trimmed text. -/
def Note.splitTag (text : List Char) : Option (List Char × List Char) :=
  match text with
  | '[' :: rest =>
    match takeTag? rest with
    | some (tag, ']' :: after) =>
      let content := trim after
      if content.isEmpty then none else some (tag, content)
    | _ => none
  | _ => none

/-- The note of a text that starts with the tag of a kind of note. -/
def Note.tagged? (text : List Char) : Option Note :=
  (splitTag text).bind fun (tag, content) =>
    (NoteKind.ofTag? tag).map fun kind => ⟨kind, String.ofList content⟩

/-- The note that the text after the mark `>` makes, unless that text is blank. -/
def Note.ofBody? (body : List Char) : Option Note :=
  let text := trim body
  if text.isEmpty then none
  else
    match tagged? text with
    | some note => some note
    | none => some ⟨.note, String.ofList text⟩

/-! ## Actor declarations -/

/-- What may follow an icon: nothing, or a remark in quotes. -/
def ActorDecl.remark? : List Char → Option (Option String)
  | [] => some none
  | '"' :: rest =>
    if rest.getLast? = some '"' && !rest.dropLast.isEmpty then
      some (some (String.ofList rest.dropLast))
    else none
  | _ => none

/-- The declaration whose name stands before an opening parenthesis and whose icon follows it. -/
def ActorDecl.atParenthesis? (name rest : List Char) : Option ActorDecl :=
  let icon := rest.takeWhile isWord
  if name.isEmpty || icon.isEmpty then none
  else
    match rest.dropWhile isWord with
    | ')' :: tail =>
      (remark? (trimStart tail)).map fun remark =>
        ⟨String.ofList name, String.ofList icon, remark⟩
    | _ => none

/-- Tries the opening parentheses from left to right; `before` holds the characters already
passed, the last first. -/
def ActorDecl.scan? (before : List Char) : List Char → Option ActorDecl
  | [] => none
  | c :: rest =>
    let here := if c = '(' then atParenthesis? (trim before.reverse) rest else none
    here.or (scan? (c :: before) rest)

/-- The declaration that the text after the mark `@` makes. A name may itself hold parentheses:
the shortest name for which the rest is an icon with an optional remark counts. -/
def ActorDecl.ofBody? (body : List Char) : Option ActorDecl := scan? [] body

/-! ## Classification -/

namespace Line

def classifyTrimmed (known : List String) (line : List Char) : Line :=
  match line with
  | '#' :: '#' :: rest =>
    -- any number of marks from two on opens a flow
    .flowHeader (String.ofList (trim (rest.dropWhile (· = '#'))))
  | '#' :: c :: rest => .domainHeader (String.ofList (trim (c :: rest)))
  | '>' :: rest =>
    match Note.ofBody? rest with
    | some found => .note found
    | none => .blank
  | '@' :: rest =>
    match ActorDecl.ofBody? rest with
    | some decl => .actor decl
    | none => .malformedActor
  | '/' :: '/' :: _ => .comment
  | _ => if mentionsAny known line then .stepCandidate else .prose

def classify (known : List String) (line : List Char) : Line :=
  match trim line with
  | [] => .blank
  | c :: rest => classifyTrimmed known (c :: rest)

end Line

end DomainStory
