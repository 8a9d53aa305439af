import RecordMapper.Path

/-!
# Arguments of the command line

`Request.read` reads the words after the program's name. A value flag takes the next word or what
stands after an equals sign; a next word that begins with a hyphen is no value, except for a single
hyphen alone. Two hyphens alone end the flags, and no word may come after them. A flag that holds
one value, and a switch, may be given once.
-/

namespace RecordMapper.CommandLine

/-- A flag with a value. -/
inductive ValueFlag
  | input
  | out
  | package
  | fileName
  | report
  | option
  deriving DecidableEq, Repr

/-- A flag without a value. -/
inductive Switch
  | eraseGenerics
  | check
  | help
  deriving DecidableEq, Repr

/-- A flag. -/
inductive Flag
  | value (flag : ValueFlag)
  | switch (flag : Switch)
  deriving DecidableEq, Repr

/-- The flag with a long name, written without its dashes. -/
def Flag.ofName? : String → Option Flag
  | "in" => some (.value .input)
  | "out" => some (.value .out)
  | "package" => some (.value .package)
  | "file-name" => some (.value .fileName)
  | "report" => some (.value .report)
  | "option" => some (.value .option)
  | "erase-generics" => some (.switch .eraseGenerics)
  | "check" => some (.switch .check)
  | "help" => some (.switch .help)
  | _ => none

/-- The arguments of a generation. -/
structure GenerateArguments where
  input : Path
  out : Path
  package? : Option String
  fileName? : Option String
  eraseGenerics : Bool
  options : List String
  check : Bool
  report? : Option Path
  deriving Repr

/-- What the program is asked to do. -/
inductive Request
  | generate (arguments : GenerateArguments)
  | diagnostics
  | help
  deriving Repr

/-- Why reading the words stops early. -/
inductive Stop
  /-- The words are no valid command. -/
  | misuse
  /-- The words ask for help. -/
  | help
  deriving DecidableEq, Repr

/-- The flags that were given so far. -/
structure Given where
  input? : Option String
  out? : Option String
  package? : Option String
  fileName? : Option String
  report? : Option String
  options : List String
  eraseGenerics : Bool
  check : Bool
  deriving Repr

/-- No flags at all. -/
def Given.none : Given :=
  ⟨.none, .none, .none, .none, .none, [], false, false⟩

/-- The first value of a flag that holds one. -/
def onlyValue (earlier? : Option String) (value : String) : Except Stop (Option String) :=
  if earlier?.isSome then .error .misuse else .ok (some value)

/-- The first value of a flag that holds a path, which must not be empty. -/
def onlyPath (earlier? : Option String) (value : String) : Except Stop (Option String) :=
  if value.isEmpty then .error .misuse else onlyValue earlier? value

/-- Takes the value of a flag. Only options may be given more than once. -/
def Given.setValue (given : Given) (flag : ValueFlag) (value : String) : Except Stop Given :=
  match flag with
  | .input => do return { given with input? := ← onlyPath given.input? value }
  | .out => do return { given with out? := ← onlyPath given.out? value }
  | .package => do return { given with package? := ← onlyValue given.package? value }
  | .fileName => do return { given with fileName? := ← onlyValue given.fileName? value }
  | .report => do return { given with report? := ← onlyPath given.report? value }
  | .option => .ok { given with options := given.options ++ [value] }

/-- Takes a flag without a value, once. Asking for help stops the reading. -/
def Given.setSwitch (given : Given) : Switch → Except Stop Given
  | .eraseGenerics =>
    if given.eraseGenerics then .error .misuse else .ok { given with eraseGenerics := true }
  | .check => if given.check then .error .misuse else .ok { given with check := true }
  | .help => .error .help

/-- What was read so far: the flags, the flag that waits for its value, and whether two hyphens
alone have ended the flags. -/
structure Progress where
  given : Given
  waiting? : Option ValueFlag
  flagsEnded : Bool
  deriving Repr

namespace Progress

/-- Nothing is read yet. -/
def start : Progress :=
  ⟨.none, none, false⟩

/-- Takes in a flag with its value, if it came with one. -/
def takeFlag (progress : Progress) (flag? : Option Flag) (value? : Option String) :
    Except Stop Progress :=
  if progress.waiting?.isSome then .error .misuse
  else
    match flag?, value? with
    | some (.value flag), some value => do
      return { progress with given := ← progress.given.setValue flag value }
    | some (.value flag), none => .ok { progress with waiting? := some flag }
    | some (.switch flag), none => do
      return { progress with given := ← progress.given.setSwitch flag }
    | some (.switch _), some _ | none, _ => .error .misuse

/-- Takes in a word that is no flag. It has to be the value of a waiting flag. -/
def takeWord (progress : Progress) (word : String) : Except Stop Progress :=
  match progress.waiting? with
  | some flag => do
    return { progress with
      given := ← progress.given.setValue flag word
      waiting? := none }
  | none => .error .misuse

/-- The value that stands behind a short flag in the same word. An equals sign in front of it does
not count. -/
def attachedValue? : List Char → Option String
  | [] => none
  | '=' :: value => some (String.ofList value)
  | value => some (String.ofList value)

/-- Takes one word: a flag, or the value that the flag before it waits for. -/
def take (progress : Progress) (word : String) : Except Stop Progress :=
  if progress.flagsEnded then .error .misuse
  else
    match word.toList with
    | ['-', '-'] => .ok { progress with flagsEnded := true }
    | '-' :: '-' :: long =>
      let value? :=
        match long.dropWhile (· ≠ '=') with
        | [] => none
        | _ :: value => some (String.ofList value)
      progress.takeFlag (Flag.ofName? (String.ofList (long.takeWhile (· ≠ '=')))) value?
    | '-' :: 'O' :: attached => progress.takeFlag (some (.value .option)) (attachedValue? attached)
    | '-' :: 'h' :: _ => progress.takeFlag (some (.switch .help)) none
    | '-' :: _ :: _ => .error .misuse
    | _ => progress.takeWord word

/-- The arguments that were read. The manifest and the output directory have to be among them, and
no flag may still wait for its value. -/
def finish (progress : Progress) : Except Stop GenerateArguments :=
  match progress.waiting?, progress.given.input?, progress.given.out? with
  | none, some input, some out =>
    .ok {
      input := ⟨input⟩
      out := ⟨out⟩
      package? := progress.given.package?
      fileName? := progress.given.fileName?
      eraseGenerics := progress.given.eraseGenerics
      options := progress.given.options
      check := progress.given.check
      report? := progress.given.report?.map Path.mk }
  | _, _, _ => .error .misuse

end Progress

/-- Reads the words after the command for a generation. -/
def GenerateArguments.read (words : List String) : Except Stop GenerateArguments := do
  let progress ← words.foldlM Progress.take .start
  progress.finish

/-- Whether a word asks for help. -/
def asksForHelp (word : String) : Bool :=
  word = "-h" || word = "--help"

/-- The commands that help can be asked about. -/
def commandNames : List String :=
  ["generate", "diagnostics", "help"]

/-- Reads the words after the name of the program. The first one is the command. -/
def Request.read : List String → Except Stop Request
  | [] => .error .misuse
  | "generate" :: words => (GenerateArguments.read words).map .generate
  | "diagnostics" :: words =>
    match words with
    | [] | ["--"] => .ok .diagnostics
    | word :: _ => if asksForHelp word then .ok .help else .error .misuse
  | "help" :: words =>
    if words.length ≤ 1 && words.all commandNames.contains then .ok .help else .error .misuse
  | word :: _ => if asksForHelp word then .ok .help else .error .misuse

end RecordMapper.CommandLine
