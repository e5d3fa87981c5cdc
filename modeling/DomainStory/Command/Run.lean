import DomainStory.Command.Options
import DomainStory.Diagram.Codec
import DomainStory.Json.Printer
import DomainStory.Session.Basic

/-!
# Running a command

`respond` is what the program answers to its options, once the configuration and the story text are
there. `run` reads them first, in any monad that can read a source, and reports what cannot be read.
-/

namespace DomainStory.Command

inductive Source where
  | standardInput
  | file (path : String)

inductive ReadFailure where
  | notFound
  | isDirectory
  | notDirectory
  | notUtf8
  | other (description : String)

def ReadFailure.message : ReadFailure → String
  | notFound => "No such file or directory (os error 2)"
  | isDirectory => "Is a directory (os error 21)"
  | notDirectory => "Not a directory (os error 20)"
  | notUtf8 => "stream did not contain valid UTF-8"
  | other description => description

def decodeText (bytes : ByteArray) : Except ReadFailure String :=
  match String.fromUTF8? bytes with
  | some text => .ok text
  | none => .error .notUtf8

/-- What the program leaves behind. -/
structure Outcome where
  status : Nat
  stdout : String
  stderr : String

namespace Outcome

def success (stdout : String) : Outcome := ⟨0, stdout, ""⟩

def failure (status : Nat) (message : String) : Outcome := ⟨status, "", message ++ "\n"⟩

end Outcome

def written (options : Options) (value : Json) : Outcome :=
  .success (value.text options.pretty ++ "\n")

def openSession (config : Config) : Session Float := .start config

/-- The diagram of a story, laid out, routed and fitted. -/
def respondLayout (options : Options) (config : Config) (text : String) : Outcome :=
  let session := openSession config
  let canvas := session.canvas.size
  let session := session.withCanvas
    ⟨options.canvasWidth.getD canvas.width, options.canvasHeight.getD canvas.height⟩
  let chosen : Except Refusal (Option (Algorithm Float)) :=
    match options.layout with
    | none => .ok none
    | some name => (Algorithm.read? (.ofConfig config) name).map some
  match chosen with
  | .error refusal => .failure 1 refusal.message
  | .ok algorithm =>
    let session := (session.updateText text).setView options.view
    let arranged : Except Refusal (Session Float) :=
      match algorithm with
      | none => .ok session
      | some algorithm => session.layout algorithm
    match arranged with
    | .error refusal => .failure 1 refusal.message
    | .ok session =>
      let fitted := session.fit ⟨options.viewportWidth, options.viewportHeight⟩
      let (routed, edges) := fitted.route
      written options <| .obj [
        ("view", routed.view.toJson),
        ("algorithm", Json.ofOption (fun algorithm => .str (Algorithm.name algorithm)) algorithm),
        ("actors", .ofList DiagramActor.toJson routed.diagram.actors.values),
        ("edges", .ofList RoutedEdge.toJson edges),
        ("viewport", routed.viewport.toJson)]

def respond (options : Options) (config : Config) (text : String) : Outcome :=
  match options.task with
  | .parse => written options (Story.read config text).toJson
  | .layout => respondLayout options config text
  | .outline =>
    .success (((openSession config).updateText text).setView options.view).outline.text
  | .summary =>
    let summary := ((openSession config).updateText text).summary
    ⟨if summary.isFailing then 1 else 0, summary.text ++ "\n", ""⟩

def Options.source (options : Options) : Source :=
  match options.input with
  | none | some "-" => .standardInput
  | some path => .file path

def configOf (text : Except ReadFailure String) : Except String Config :=
  match text with
  | .error failure => .error ("I/O error: " ++ failure.message)
  | .ok text =>
    match Config.ofText? text with
    | .error refusal => .error refusal.message
    | .ok config => .ok config.forEngine

/-- Runs the program on its words. The story is read before the configuration. -/
def run {m : Type → Type} [Monad m] (read : Source → m (Except ReadFailure String))
    (words : List String) : m Outcome := do
  match Options.read words with
  | .error misuse => return .failure 2 misuse.message
  | .ok options =>
    match ← read options.source with
    | .error failure => return .failure 1 ("I/O error: " ++ failure.message)
    | .ok text =>
      match options.config with
      | none => return respond options .default text
      | some path =>
        match configOf (← read (.file path)) with
        | .error message => return .failure 1 message
        | .ok config => return respond options config text

end DomainStory.Command
