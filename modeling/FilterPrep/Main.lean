import FilterPrep.Command.Run

/-!
# The program

Reads the arguments, the environment and the files that a command asks for, and prints its report.
-/

namespace FilterPrep

/-- The cause behind a failed access to a file. -/
def DiskError.ofAccess : IO.Error → DiskError
  | .noFileOrDirectory .. => .notFound
  | .inappropriateType _ 20 _ => .notDirectory
  | .inappropriateType _ 21 _ => .isDirectory
  | .inappropriateType .. => .notDirectory
  | error => .other (toString error).toList

def readPath (path : Text) : IO (Except DiskError Text) := do
  if let some error := DiskError.ofPath? path then return .error error
  try
    let bytes ← IO.FS.readBinFile (String.ofList path)
    return DiskError.decode bytes.toList
  catch error => return .error (.ofAccess error)

def writePath (path content : Text) : IO (Except DiskError Unit) := do
  if let some error := DiskError.ofPath? path then return .error error
  try
    IO.FS.writeFile (String.ofList path) (String.ofList content)
    return .ok ()
  catch error => return .error (.ofAccess error)

def answer : Request → IO (Except FetchError Text)
  | .remote address => return .error (.requestFailed address (Remote.failure address))
  | .onDisk path origin => do
    let path := LocalPath.join origin path
    match ← readPath path with
    | .ok text => return .ok text
    | .error error => return .error (.unreadable path error.message)

/-- Answers that have been read so far. -/
abbrev Answers := List (Request × Except FetchError Text)

def Answers.fetcher (answers : Answers) : Fetcher := fun request =>
  match answers.find? fun a => a.1 == request with
  | some (_, response) => response
  | none => .error (.requestFailed [] [])

/-- Compiles with the answers at hand and reads the first one that is missing, until none is. -/
partial def compileWith (options : Command.Compile) (environment : Option (List UInt8))
    (answers : Answers) : IO Command.Effect := do
  let effect := options.effect environment answers.fetcher
  match effect.requests.find? fun request => !answers.any fun a => a.1 == request with
  | none => return effect
  | some request => compileWith options environment ((request, ← answer request) :: answers)

def perform : Command → IO Command.Report
  | .checksum file strict => return Command.checksumReport file strict (← readPath file)
  | .compile options => do
    let environment := (← IO.getEnv (String.ofList Environment.definesName)).map
      fun value => value.toUTF8.toList
    let effect ← compileWith options environment []
    match effect.write with
    | none => return effect.report (.ok ())
    | some (path, content) => return effect.report (← writePath path content)

end FilterPrep

open FilterPrep in
def main (arguments : List String) : IO UInt32 := do
  let report ← match Command.ofArguments (arguments.map String.toList) with
    | .ok command => perform command
    | .error stop => pure stop.report
  IO.print (String.ofList report.stdout)
  IO.eprint (String.ofList report.stderr)
  return report.exit.toUInt32
