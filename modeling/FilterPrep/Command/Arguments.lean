import FilterPrep.Define

/-!
# Command line arguments

The program has two commands, `compile` and `checksum`. Options may stand anywhere behind their
command and short ones may be joined; everything behind `--` is taken as it is. Reading stops at
the first mistake or at a request for help.
-/

namespace FilterPrep

namespace Command

structure Compile where
  source : Text
  defines : List Define
  validateChecksum : Bool
  strictChecksum : Bool
  allowEmpty : Bool
  /-- Where the text of the list is written, unresolved. -/
  rawOutput : Option Text
  /-- In seconds. -/
  timeout : Nat
  deriving DecidableEq, Repr

end Command

inductive Command where
  | compile (options : Command.Compile)
  | checksum (file : Text) (strict : Bool)
  deriving DecidableEq, Repr

namespace Command

inductive Switch where
  | verbose
  | validateChecksum
  | strictChecksum
  | allowEmpty
  | strict
  | help
  | version
  deriving DecidableEq, Repr

inductive Setting where
  | define
  | rawOutput
  | timeout
  deriving DecidableEq, Repr

structure Spelling where
  short : Option Char
  long : Text

/-- The options of the program or of one of its commands. -/
structure Level where
  switches : List (Switch × Spelling)
  settings : List (Setting × Spelling)
  /-- Whether the argument that is not an option is the name of a file, which cannot be empty. -/
  takesFile : Bool

namespace Level

/-- The options that every level has. -/
def common : List (Switch × Spelling) :=
  [(.verbose, ⟨some 'v', "verbose".toList⟩), (.help, ⟨some 'h', "help".toList⟩)]

/-- In front of a command. -/
def program : Level := ⟨common ++ [(.version, ⟨some 'V', "version".toList⟩)], [], false⟩

def compile : Level where
  switches := common ++
    [(.validateChecksum, ⟨none, "validate-checksum".toList⟩),
      (.strictChecksum, ⟨none, "strict-checksum".toList⟩),
      (.allowEmpty, ⟨none, "allow-empty".toList⟩)]
  settings :=
    [(.define, ⟨some 'D', "define".toList⟩), (.rawOutput, ⟨none, "raw-output".toList⟩),
      (.timeout, ⟨none, "timeout".toList⟩)]
  takesFile := false

def checksum : Level := ⟨common ++ [(.strict, ⟨none, "strict".toList⟩)], [], true⟩

def shortSwitch? (level : Level) (c : Char) : Option Switch :=
  (level.switches.find? fun s => s.2.short == some c).map Prod.fst

def longSwitch? (level : Level) (name : Text) : Option Switch :=
  (level.switches.find? fun s => s.2.long == name).map Prod.fst

def shortSetting? (level : Level) (c : Char) : Option Setting :=
  (level.settings.find? fun s => s.2.short == some c).map Prod.fst

def longSetting? (level : Level) (name : Text) : Option Setting :=
  (level.settings.find? fun s => s.2.long == name).map Prod.fst

end Level

structure Given where
  switches : List Switch
  settings : List (Setting × Text)
  positional : List Text

def Given.nothing : Given := ⟨[], [], []⟩

inductive Stop where
  | misuse
  | help
  | version
  deriving DecidableEq, Repr

/-- A number of seconds: decimal digits, perhaps behind a plus sign, below `2 ^ 64`. -/
def seconds? (t : Text) : Option Nat :=
  let ds := (Text.after? ['+'] t).getD t
  let n := ds.foldl (fun n c => 10 * n + (c.toNat - '0'.toNat)) 0
  if ds.isEmpty ∨ !ds.all Char.isDigit ∨ UInt64.size ≤ n then none else some n

def Setting.accepts (value : Text) : Setting → Bool
  | define => (Define.ofText value).isOk
  | rawOutput => !value.isEmpty
  | timeout => (seconds? value).isSome

namespace Given

/-- Adds a switch, which may be given once. -/
def addSwitch (given : Given) : Switch → Except Stop Given
  | .help => .error .help
  | .version => .error .version
  | switch =>
    if switch ∈ given.switches then .error .misuse
    else .ok { given with switches := given.switches ++ [switch] }

/-- Adds a setting; only definitions may be repeated. -/
def addSetting (given : Given) (setting : Setting) (value : Text) : Except Stop Given :=
  if !setting.accepts value ∨ (setting ≠ .define ∧ setting ∈ given.settings.map Prod.fst) then
    .error .misuse
  else .ok { given with settings := given.settings ++ [(setting, value)] }

/-- Adds an argument that is not an option; there can be one. -/
def addPositional (level : Level) (given : Given) (value : Text) : Except Stop Given :=
  if !given.positional.isEmpty ∨ (level.takesFile ∧ value.isEmpty) then .error .misuse
  else .ok { given with positional := [value] }

def value? (given : Given) (setting : Setting) : Option Text :=
  (given.settings.find? fun s => s.1 == setting).map Prod.snd

def has (given : Given) (switch : Switch) : Bool := given.switches.contains switch

end Given

/-- Reads an option without its dashes. A setting without a value waits for the next argument. -/
def readLong (level : Level) (given : Given) (t : Text) :
    Except Stop (Given × Option Setting) := do
  let (name, value) := match Text.cutFirst? '=' t with
    | some (name, value) => (name, some value)
    | none => (t, none)
  match level.longSwitch? name, level.longSetting? name, value with
  | some switch, _, none => return (← given.addSwitch switch, none)
  | none, some setting, some value => return (← given.addSetting setting value, none)
  | none, some setting, none => return (given, some setting)
  | _, _, _ => .error .misuse

/-- Reads joined short options without their dash. -/
def readShort (level : Level) (given : Given) : Text → Except Stop (Given × Option Setting)
  | [] => .ok (given, none)
  | c :: t =>
    match level.shortSwitch? c, level.shortSetting? c with
    | some switch, _ =>
      match given.addSwitch switch with
      | .ok given => readShort level given t
      | .error stop => .error stop
    | none, some setting =>
      if t.isEmpty then .ok (given, some setting)
      else (given.addSetting setting ((Text.after? ['='] t).getD t)).map fun given => (given, none)
    | none, none => .error .misuse

/-- Whether an argument is an option or the end of options. A single dash is neither. -/
def isOption : Text → Bool
  | '-' :: _ :: _ => true
  | _ => false

def readOption (level : Level) (given : Given) (arg : Text) :
    Except Stop (Given × Option Setting) :=
  match arg with
  | '-' :: '-' :: t => readLong level given t
  | _ => readShort level given (arg.drop 1)

/-- Reads the arguments of a command; `awaiting` is the setting that waits for its value. -/
def readArguments (level : Level) (given : Given) (awaiting : Option Setting) :
    List Text → Except Stop Given
  | [] => if awaiting.isSome then .error .misuse else .ok given
  | arg :: rest =>
    match awaiting with
    | some setting =>
      if isOption arg then .error .misuse
      else
        match given.addSetting setting arg with
        | .ok given => readArguments level given none rest
        | .error stop => .error stop
    | none =>
      if arg = "--".toList then rest.foldlM (Given.addPositional level) given
      else if isOption arg then
        match readOption level given arg with
        | .ok (given, awaiting) => readArguments level given awaiting rest
        | .error stop => .error stop
      else
        match given.addPositional level arg with
        | .ok given => readArguments level given none rest
        | .error stop => .error stop

def ofCompile (given : Given) : Except Stop Command :=
  match given.positional with
  | [source] =>
    let defines := given.settings.filterMap fun (setting, value) =>
      if setting = .define then (Define.ofText value).toOption else none
    .ok <| .compile
      { source
        defines
        validateChecksum := given.has .validateChecksum
        strictChecksum := given.has .strictChecksum
        allowEmpty := given.has .allowEmpty
        rawOutput := given.value? .rawOutput
        timeout := ((given.value? .timeout).bind seconds?).getD 30 }
  | _ => .error .misuse

def ofChecksum (given : Given) : Except Stop Command :=
  match given.positional with
  | [file] => .ok (.checksum file (given.has .strict))
  | _ => .error .misuse

def compileWord : Text := "compile".toList

def checksumWord : Text := "checksum".toList

def helpWord : Text := "help".toList

/-- Reads the arguments of the program, with what was given in front of them. -/
def readProgram (given : Given) : List Text → Except Stop Command
  | [] => .error .misuse
  | arg :: rest =>
    if arg = compileWord then
      (readArguments .compile .nothing none rest).bind ofCompile
    else if arg = checksumWord then
      (readArguments .checksum .nothing none rest).bind ofChecksum
    else if arg = helpWord then
      if rest.isEmpty ∨ [[compileWord], [checksumWord], [helpWord]].contains rest then .error .help
      else .error .misuse
    else if isOption arg ∧ arg ≠ "--".toList then
      match readOption .program given arg with
      | .ok (given, _) => readProgram given rest
      | .error stop => .error stop
    else .error .misuse

def ofArguments (arguments : List Text) : Except Stop Command := readProgram .nothing arguments

end Command

end FilterPrep
