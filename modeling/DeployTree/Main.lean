import DeployTree.CommandLine.Program

/-! # The entry of the program

The program runs on the files of the system and with the environment block of its
process. Its messages and its log go to the standard error, everything else to the
standard output.
-/

namespace DeployTree.CommandLine

/-- The number of a system error; some operations report it with the sign reversed. -/
def systemNumber (code : UInt32) : UInt32 := min code (0 - code)

/-- A fault with the words and the number of the system. -/
def describedFault (details : String) (code : UInt32) : FileFault :=
  .described (details ++ " (os error " ++ toString (systemNumber code) ++ ")")

/-- What the system says about a failed operation on files. -/
def faultOf : IO.Error → FileFault
  | .noFileOrDirectory .. => .missing
  | .alreadyExists _ code details =>
      if systemNumber code = 17 then .exists else describedFault details code
  | .inappropriateType _ code details =>
      if systemNumber code = 20 then .notFolder
      else if systemNumber code = 21 then .isFolder
      else describedFault details code
  | .permissionDenied _ code details => describedFault details code
  | error => .described error.toString

/-- The outcome of an operation on files. -/
def attempt {α : Type} (operation : IO α) : IO (Except FileFault α) := do
  match ← operation.toBaseIO with
  | .ok value => pure (.ok value)
  | .error error => pure (.error (faultOf error))

instance : FileStore IO where
  read path := attempt do
    let content ← IO.FS.readBinFile path.text
    pure content.toList
  write path content := attempt (IO.FS.writeBinFile path.text ⟨content.toArray⟩)
  makeFolder path := attempt (IO.FS.createDir path.text)
  isFolder path := do
    let answer ← attempt do
      let place ← IO.FS.realPath path.text
      place.isDir
    pure (answer.toOption.getD false)

instance : Console IO where
  print text := do (← IO.getStdout).putStr text

/-- The entries of a block in which a null byte ends each entry. -/
def entriesOf (bytes : List UInt8) : List (List UInt8) :=
  let (entries, last) := bytes.foldr
    (fun byte (parts : List (List UInt8) × List UInt8) =>
      if byte = 0 then (parts.2 :: parts.1, []) else (parts.1, byte :: parts.2))
    ([], [])
  (last :: entries).filter fun entry => !entry.isEmpty

/-- The environment block of the process. -/
def environmentBlock : IO EnvironmentBlock := do
  match ← (IO.FS.readBinFile "/proc/self/environ").toBaseIO with
  | .ok bytes => pure ⟨entriesOf bytes.toList⟩
  | .error _ => pure ⟨[]⟩

/-- The messages of a failure, numbered from the outermost. -/
def numbered (messages : List String) : List String :=
  messages.zipIdx.map fun (message, index) => "   " ++ toString index ++ ": " ++ message

/-- A record as a line of the log. -/
def logLine (format : LogFormat) (record : Record) : String :=
  match format with
  | .json =>
      (Json.object
        [ ("level", .string record.level.text),
          ("fields", .object (("message", .string record.message) :: record.fields)),
          ("target", .string record.target) ]).compact
  | .text =>
      let fields := record.fields.map fun field => " " ++ field.1 ++ "=" ++ field.2.compact
      record.level.text ++ " " ++ record.target ++ ": " ++ record.message ++ String.join fields

/-- Runs the program on the files of the system; the exit status. -/
def runOnSystem (arguments : List String) : IO UInt32 := do
  let process := (← environmentBlock).lookup
  let report ← run arguments process
  let error ← IO.getStderr
  for record in report.logged do
    error.putStrLn (logLine ((report.invocation.map Invocation.logFormat).getD .text) record)
  if let some line := report.ending.usage? then error.putStrLn line
  unless report.ending.messages.isEmpty do
    error.putStrLn "Error: "
    for line in numbered report.ending.messages do
      error.putStrLn line
  pure report.ending.code.toUInt32

end DeployTree.CommandLine

/-- The entry of the program. -/
def main (arguments : List String) : IO UInt32 := DeployTree.CommandLine.runOnSystem arguments
