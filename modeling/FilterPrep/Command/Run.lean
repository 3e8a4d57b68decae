import FilterPrep.Command.Arguments
import FilterPrep.Command.Report
import FilterPrep.Disk
import FilterPrep.Download

/-!
# Running commands

A command is run as a function of what it reads. What it writes is returned as data, together with
the report for either outcome of the writing.
-/

namespace FilterPrep.Command

/-- A run whose report depends on how writing a file goes. -/
structure Effect where
  requests : List Request
  /-- A path and what is written there. -/
  write : Option (Text × Text)
  report : Except DiskError Unit → Report

def Effect.only (requests : List Request) (report : Report) : Effect :=
  ⟨requests, none, fun _ => report⟩

def printed (lines : Lines) : Text := Text.join ['\n'] lines ++ ['\n']

def compileFailure (source : Text) (error : CompileError) : Report :=
  .failure ("unable to compile ".toList ++ source) (error.message :: error.causes)

def Compile.effect (options : Compile) (environment : Option (List UInt8)) (fetcher : Fetcher) :
    Effect :=
  match Environment.flagsWith environment options.defines with
  | .error error => .only [] (.failure error.message error.causes)
  | .ok flags =>
    let checks : Download.Options :=
      ⟨options.validateChecksum || options.strictChecksum, options.strictChecksum,
        options.allowEmpty⟩
    match options.rawOutput with
    | none =>
      let run := Download.download fetcher (some flags) checks options.source
      match run.result with
      | .ok lines => .only run.requests (.success (printed lines))
      | .error error => .only run.requests (compileFailure options.source error)
    | some path =>
      let run := Download.fresh fetcher (some flags) checks options.source
      match run.result with
      | .error error => .only run.requests (compileFailure options.source error)
      | .ok updated =>
        { requests := run.requests
          write := some (path, updated.raw)
          report := fun
            | .ok () => .success (printed updated.lines)
            | .error error => .failure ("unable to write ".toList ++ path) [error.message] }

def checksumReport (file : Text) (strict : Bool) (content : Except DiskError Text) : Report :=
  match content with
  | .error error => .failure ("unable to read ".toList ++ file) [error.message]
  | .ok content =>
    let stdout := Checksum.calculate content ++ ['\n']
    let declared := match Checksum.declared? content with
      | some value => "declared ".toList ++ value ++ ['\n']
      | none => "no checksum declared\n".toList
    if Checksum.isValid content strict then ⟨0, stdout, declared⟩
    else
      ⟨1, stdout, declared ++ Report.failureText ("invalid checksum in ".toList ++ file) []⟩

def versionText : Text := "filterlist 1.0\n".toList

def helpText : Text :=
  ("Filter list preprocessor\n\n" ++
    "Usage: filterlist [-v] compile <SOURCE> [-D <NAME[=VALUE]>]... [--validate-checksum]\n" ++
    "           [--strict-checksum] [--allow-empty] [--raw-output <FILE>]\n" ++
    "           [--timeout <SECONDS>]\n" ++
    "       filterlist [-v] checksum <FILE> [--strict]\n").toList

/-- The report of arguments that ask for no command. -/
def Stop.report : Stop → Report
  | misuse => ⟨2, [], helpText⟩
  | help => .success helpText
  | version => .success versionText

/-- Runs a command in a working directory and returns the directory afterwards. -/
def run (disk : Disk) (environment : Option (List UInt8)) : Command → Report × Disk
  | .checksum file strict => (checksumReport file strict (disk.read file), disk)
  | .compile options =>
    let effect := options.effect environment disk.fetcher
    match effect.write with
    | none => (effect.report (.ok ()), disk)
    | some (path, content) =>
      match disk.write path content with
      | .ok disk => (effect.report (.ok ()), disk)
      | .error error => (effect.report (.error error), disk)

/-- Runs the program with its arguments in a working directory. -/
def runArguments (disk : Disk) (environment : Option (List UInt8)) (arguments : List Text) :
    Report × Disk :=
  match ofArguments arguments with
  | .ok command => run disk environment command
  | .error stop => (stop.report, disk)

end FilterPrep.Command
