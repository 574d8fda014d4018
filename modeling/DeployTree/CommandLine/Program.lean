import DeployTree.CommandLine.Arguments
import DeployTree.CommandLine.FileStore
import DeployTree.Description.Document
import DeployTree.Log.Filter
import DeployTree.Text.Encoded

/-! # The program

The program reads its arguments and does what they ask for. A document is read,
and its output is generated or the document is only checked. Nothing is printed or
written before everything else has succeeded: a failure leaves the standard output
empty and the output file as it was. A failure is reported as a chain of messages,
from what was attempted to its cause.
-/

namespace DeployTree.CommandLine

/-- How the program ends: with success, with a failure and its messages, the outermost first, or
with a refusal of the arguments. -/
inductive Ending where
  | succeeded
  | failed (messages : List String)
  | refused (fault : UsageFault)
deriving DecidableEq

namespace Ending

/-- The exit status. -/
def code : Ending → Nat
  | succeeded => 0
  | failed _ => 1
  | refused _ => 2

/-- The messages of a failure. -/
def messages : Ending → List String
  | failed messages => messages
  | succeeded | refused _ => []

/-- The first line of the message about refused arguments. -/
def usage? : Ending → Option String
  | refused fault => some (firstLine fault.text)
  | succeeded | failed _ => none

end Ending

/-- What a run of the program leaves beside its effects: its events in order, and its ending. -/
structure Outcome where
  trail : List Event
  ending : Ending

/-- The interpolator of an invocation: its bindings in front of those of the process, which are
asked at once where the invocation has none. -/
def Invocation.interpolator (invocation : Invocation) (process : Lookup) : Interpolator where
  names := ⟨invocation.envPrefix⟩
  source :=
    if invocation.bindings.isEmpty then process
    else Bindings.shadowing (Dictionary.ofList invocation.bindings) process

/-- The variable that overrides the log level. -/
def filterVariable : String := "RUST_LOG"

/-- The filter in force: the one that the process asks for if it is well formed, else the log
level for the targets of the program. -/
def Invocation.filter (invocation : Invocation) (process : Lookup) : Log.Filter :=
  match (process filterVariable).bind Log.Filter.parse? with
  | some filter => filter
  | none => Log.Filter.ofText ("convergdb=" ++ invocation.logLevel)

/-- The records of an outcome that are logged. -/
def Invocation.logged (invocation : Invocation) (process : Lookup) (outcome : Outcome) :
    List Record :=
  (outcome.trail.filterMap Event.record?).filter (invocation.filter process).passes

section Commands

variable {m : Type → Type} [Monad m] [FileStore m] [Console m]

/-- Reads a document; a failure is a chain of messages. -/
def readDocument (file : String) : m (Except (List String) String) := do
  let refuse (fault : FileFault) : Except (List String) String :=
    .error ["failed to read " ++ file, fault.text]
  match ← FileStore.read (Path.ofText file) with
  | .error fault => pure (refuse fault)
  | .ok content =>
      match Text.decode? content with
      | none => pure (refuse .notText)
      | some document => pure (.ok document)

/-- Makes the folder above a path. -/
def makeRoom (path : Path) : m (Except (List String) Unit) := do
  match path.parent? with
  | none => pure (.ok ())
  | some parent =>
      match ← ensureFolders parent.start parent.steps with
      | .ok () => pure (.ok ())
      | .error fault => pure (.error ["failed to create " ++ parent.text, fault.text])

/-- Writes the output to a file, in a folder that is made if needed. -/
def writeOutput (out text : String) : m (Except (List String) Unit) := do
  match ← makeRoom (Path.ofText out) with
  | .error messages => pure (.error messages)
  | .ok () =>
      match ← FileStore.write (Path.ofText out) (Text.encode text) with
      | .ok () => pure (.ok ())
      | .error fault => pure (.error ["failed to write " ++ out, fault.text])

/-- The text of an output, on one line or over several. -/
def layOut (pretty : Bool) (output : Json) : String :=
  if pretty then output.indented else output.compact

/-- The messages about an error in generating the output for a document. -/
def generationFailed (file : String) (error : Error) : List String :=
  ("generation failed for " ++ file) :: error.chain

/-- Generates the output for a document. -/
def generate (file : String) (out : Option String) (pretty : Bool) (interpolator : Interpolator) :
    m Outcome := do
  match ← readDocument file with
  | .error messages => pure ⟨[], .failed messages⟩
  | .ok document =>
      let run := Description.generateFrom document interpolator
      match run.outcome with
      | .error error => pure ⟨run.trail, .failed (generationFailed file error)⟩
      | .ok output =>
          let rendered := layOut pretty output
          match out with
          | none =>
              Console.print (rendered ++ "\n")
              pure ⟨run.trail, .succeeded⟩
          | some path =>
              match ← writeOutput path rendered with
              | .error messages => pure ⟨run.trail, .failed messages⟩
              | .ok () => pure ⟨run.trail ++ [.outputWritten path], .succeeded⟩

/-- Checks a document. The messages about an error in building the tree do not say what failed. -/
def check (file : String) (interpolator : Interpolator) : m Outcome := do
  match ← readDocument file with
  | .error messages => pure ⟨[], .failed messages⟩
  | .ok document =>
      match Description.parse document with
      | .error error => pure ⟨[], .failed (generationFailed file error)⟩
      | .ok description =>
          let built := description.build
          match built.outcome with
          | .error error => pure ⟨built.trail, .failed error.chain⟩
          | .ok tree =>
              let passed := tree.resolve interpolator >>= Tree.validate
              let trail := built.trail ++ passed.trail
              match passed.outcome with
              | .error error => pure ⟨trail, .failed (generationFailed file error)⟩
              | .ok _ =>
                  Console.print (file ++ ": ok (" ++ toString tree.size ++ " nodes)\n")
                  pure ⟨trail, .succeeded⟩

/-- Does what an invocation asks for. -/
def Invocation.run (invocation : Invocation) (process : Lookup) : m Outcome :=
  let interpolator := invocation.interpolator process
  match invocation.command with
  | .generate file out pretty => generate file out pretty interpolator
  | .check file => check file interpolator

end Commands

/-- The answer to `--version`. -/
def versionText : String := "convergdb 0.1.0\n"

/-- The answer to `--help`. -/
def helpText : String :=
  "convergdb - resolve and validate deployment IR\n\n" ++
  "Usage: convergdb [OPTIONS] <COMMAND>\n\n" ++
  "Commands:\n" ++
  "  generate  Resolve, validate, and structure a deployment; print the IR\n" ++
  "  check     Resolve and validate a deployment without emitting anything\n" ++
  "  help      Print this message or the help of the given subcommand(s)\n\n" ++
  "Options:\n" ++
  "      --env-prefix <ENV_PREFIX>  Namespace prefix environment references must carry " ++
  "[default: CONVERGDB_]\n" ++
  "      --env <BINDINGS>           Extra variable binding, KEY=VALUE (repeatable); " ++
  "shadows the process environment\n" ++
  "      --log-level <LOG_LEVEL>    Log level when RUST_LOG is unset [default: info]\n" ++
  "      --log-format <LOG_FORMAT>  Log output format [default: text] " ++
  "[possible values: text, json]\n" ++
  "  -h, --help                     Print help\n" ++
  "  -V, --version                  Print version\n"

/-- Ends a run when the reading of its arguments ends early. -/
def Halt.run {m : Type → Type} [Monad m] [Console m] : Halt → m Ending
  | .help => do
      Console.print helpText
      pure .succeeded
  | .version => do
      Console.print versionText
      pure .succeeded
  | .refused fault => pure (.refused fault)

/-- A whole run: the invocation, if the arguments describe one, the records that are logged, in
order, and the ending. -/
structure Report where
  invocation : Option Invocation
  logged : List Record
  ending : Ending

/-- Runs the program with some arguments and the variables of a process. -/
def run {m : Type → Type} [Monad m] [FileStore m] [Console m] (arguments : List String)
    (process : Lookup) : m Report := do
  match parse arguments with
  | .error halt => pure ⟨none, [], ← halt.run⟩
  | .ok invocation =>
      let outcome ← invocation.run process
      pure ⟨some invocation, invocation.logged process outcome, outcome.ending⟩

end DeployTree.CommandLine
