import DomainStory.Decimal.Reading
import DomainStory.View

/-!
# The command line

The words of the command line, read from left to right. A command may stand anywhere, the last one
counts. Of an option that is given twice the last value counts. At most one word names the input.
-/

namespace DomainStory.Command

inductive Task where
  | parse
  | layout
  | outline
  | summary
deriving DecidableEq

structure Options where
  task : Task
  /-- The file to read; the standard input when absent or `-`. -/
  input : Option String
  pretty : Bool
  view : View
  layout : Option String
  config : Option String
  canvasWidth : Option Float
  canvasHeight : Option Float
  viewportWidth : Float
  viewportHeight : Float

def Options.default : Options where
  task := .parse
  input := none
  pretty := false
  view := .all
  layout := none
  config := none
  canvasWidth := none
  canvasHeight := none
  viewportWidth := 800.0
  viewportHeight := 600.0

inductive Misuse where
  /-- Help is asked for, a value is missing or unusable, or there are two inputs. -/
  | usage
  | invalidView (refusal : Refusal)
  | unknownOption (word : String)

def usage : String :=
  "narwhal-cli\n\nUSAGE:\n"
    ++ "narwhal-cli [parse] [--pretty] [--config <file.json>] [<path>|-]\n"
    ++ "narwhal-cli layout [--pretty] [--view all|<index>] [--layout radial|grid|flow|force] "
    ++ "[--canvas-width <w>] [--canvas-height <h>] [--viewport-width <w>] "
    ++ "[--viewport-height <h>] [--config <file.json>] [<path>|-]\n"
    ++ "narwhal-cli outline [--view all|<index>] [<path>|-]\n"
    ++ "narwhal-cli summary [<path>|-]\n\nOPTIONS:\n"
    ++ "-v, --verbose   log to stderr (repeat for more detail)\n\nNOTES:\n"
    ++ "- If <path> is omitted or '-', input is read from stdin.\n"
    ++ "- parse prints {domains, errors}; story errors do not change the exit status.\n"
    ++ "- summary exits with status 1 when the story has errors.\n"

def Misuse.message : Misuse → String
  | usage => Command.usage
  | invalidView refusal => refusal.message ++ "\n\n" ++ Command.usage
  | unknownOption word => "unknown option: " ++ word ++ "\n\n" ++ Command.usage

namespace Options

/-- Reads a word that takes no value. The words for logging are accepted and ask for nothing. -/
def readWord (options : Options) (word : String) : Except Misuse Options :=
  match word with
  | "--help" | "-h" => .error .usage
  | "parse" => .ok { options with task := .parse }
  | "layout" => .ok { options with task := .layout }
  | "outline" => .ok { options with task := .outline }
  | "summary" => .ok { options with task := .summary }
  | "--pretty" => .ok { options with pretty := true }
  | "-v" | "--verbose" | "-vv" => .ok options
  | _ =>
    if word.toList.head? = some '-' && word ≠ "-" then .error (.unknownOption word)
    else
      match options.input with
      | some _ => .error .usage
      | none => .ok { options with input := some word }

def size (value : String) : Except Misuse Float :=
  match Decimal.positive? value with
  | some x => .ok x
  | none => .error .usage

/-- Reads a word together with its value; `none` for a word that takes no value. -/
def readPair (options : Options) (word value : String) : Option (Except Misuse Options) :=
  match word with
  | "--view" => some <|
    match View.read? value with
    | .ok view => .ok { options with view }
    | .error refusal => .error (.invalidView refusal)
  | "--layout" => some (.ok { options with layout := some value })
  | "--config" => some (.ok { options with config := some value })
  | "--canvas-width" => some ((size value).map fun x => { options with canvasWidth := some x })
  | "--canvas-height" => some ((size value).map fun x => { options with canvasHeight := some x })
  | "--viewport-width" => some ((size value).map fun x => { options with viewportWidth := x })
  | "--viewport-height" => some ((size value).map fun x => { options with viewportHeight := x })
  | _ => none

def takesValue (word : String) : Bool :=
  ["--view", "--layout", "--config", "--canvas-width", "--canvas-height", "--viewport-width",
    "--viewport-height"].contains word

def readWords (options : Options) : List String → Except Misuse Options
  | [] => .ok options
  | [word] => if takesValue word then .error .usage else options.readWord word
  | word :: value :: rest =>
    match options.readPair word value with
    | some (.ok changed) => readWords changed rest
    | some (.error misuse) => .error misuse
    | none =>
      match options.readWord word with
      | .ok changed => readWords changed (value :: rest)
      | .error misuse => .error misuse

/-- Reads a command line, without the name of the program. -/
def read (words : List String) : Except Misuse Options := readWords default words

end Options

end DomainStory.Command
