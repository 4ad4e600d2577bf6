import Hotkeys.Shell.Builtin.Basic
import Hotkeys.Shell.Flags

/-!
# Builtin commands about names

The commands that give names values and take them away, and those that change settings and
arguments.
-/

set_option autoImplicit false

namespace Hotkeys.Shell

/-! ## Giving values -/

/-- The state after a complaint about a name that is none. -/
def State.refuseName (st : State) (line : Nat) (name whole : Text) : Except Text State :=
  match st.dialect with
  | .plain => .error (name ++ ": bad variable name".toList)
  | .bash =>
    .ok ((st.complain line ('\x60' :: whole ++ "': not a valid identifier".toList)).withStatus 1)

/-- The state after a complaint about a value that stays as it is. -/
def State.refuseChange (st : State) (line : Nat) (name : Text) : Except Text State :=
  match st.dialect with
  | .plain => .error (name ++ ": is read only".toList)
  | .bash =>
    let said := { st with speaker := [] }.complain line (name ++ ": readonly variable".toList)
    .ok { said with speaker := st.speaker, status := 1 }

/-- Goes through arguments that are names, or settings of names.  Each name is marked before it is
given its value. -/
def declare (mark : State → Text → State) (line : Nat) : List Text → State → Except Text State
  | [], st => .ok st
  | arg :: args, st => do
    let (name, value) : Text × Option Text :=
      match Text.splitFirst '=' arg with
      | some (name, value) => (name, some value)
      | none => (arg, none)
    let adding := st.dialect.isBash && name.getLast? == some '+'
    let name := if adding then name.dropLast else name
    if !isName name then declare mark line args (← st.refuseName line name arg)
    else if value.isSome && st.fixed.contains name then
      declare mark line args (← st.refuseChange line name)
    else
      let old := (st.get? name).getD []
      let st := mark st name
      declare mark line args
        (match value with
        | some value => st.set name (if adding then old ++ value else value)
        | none => st)

/-- A value as it could be written in a script: in single quotes. -/
def quotedValue (t : Text) : Text :=
  '\'' :: t.flatMap (fun c => if c = '\'' then "'\"'\"'".toList else [c]) ++ ['\'']

/-- The values of names in order, as commands that give them. -/
def listValues (st : State) (command : Text) (names : List Text) : Text :=
  let sorted := Text.Utf8.ordered (names.eraseDups.filter isName)
  sorted.flatMap fun name =>
    let value :=
      match st.get? name, st.dialect with
      | none, _ => []
      | some value, .plain => '=' :: quotedValue value
      | some value, .bash => "=\"".toList ++ value ++ ['"']
    command ++ name ++ value ++ ['\n']

/-- Hands values to programs. -/
def runExport : Builtin :=
  withFlags "export" "p" "fnp" fun line letters args st =>
    if args.isEmpty then
      let command := if st.dialect.isBash then "declare -x " else "export "
      .ok (st.printText line (listValues st command.toList st.exported))
    else if letters.contains 'n' then
      .ok { st with exported := st.exported.filter fun name => !args.contains name, status := 0 }
    else
      declare (fun st name => { st with exported := name :: st.exported }) line args
        (st.withStatus 0)

/-- Keeps values from changing. -/
def runReadonly : Builtin :=
  withFlags "readonly" "p" "aAfp" fun line _ args st =>
    if args.isEmpty then
      let command := if st.dialect.isBash then "declare -r " else "readonly "
      .ok (st.printText line (listValues st command.toList st.fixed))
    else
      declare (fun st name => { st with fixed := name :: st.fixed }) line args (st.withStatus 0)

/-- The state in which a name may be given a value that lasts as long as the call. -/
def State.hide (st : State) (name : Text) : State :=
  { st with
    hidden := (name, st.get? name) :: st.hidden
    values := if st.dialect.isBash then st.values.erase name else st.values }

/-- Gives names values that last as long as the call that the script is in. -/
def runLocal : Builtin := fun line args st =>
  if st.calls = 0 then
    match st.dialect with
    | .plain => .error "not in a function".toList
    | .bash => .error "can only be used in a function".toList
  else declare State.hide line (if st.dialect.isBash then withoutFlags args else args)
    (st.withStatus 0)

/-- Gives names values and properties. -/
def runDeclare : Builtin := fun line args st =>
  let (letters, names) := takeFlags args
  let mark (st : State) (name : Text) : State :=
    let st := if st.calls != 0 && !letters.contains 'g' then st.hide name else st
    let st := if letters.contains 'x' then { st with exported := name :: st.exported } else st
    if letters.contains 'r' then { st with fixed := name :: st.fixed } else st
  declare mark line names (st.withStatus 0)

/-! ## Taking values -/

/-- Takes values from names. -/
def unsetAll (line : Nat) : List Text → State → Except Text State
  | [], st => .ok st
  | name :: names, st => do
    if !isPlaceName st.dialect name then unsetAll line names (← st.refuseName line name name)
    else if st.fixed.contains name then
      match st.dialect with
      | .plain => .error (name ++ ": is read only".toList)
      | .bash =>
        let message := name ++ ": cannot unset: readonly variable".toList
        unsetAll line names ((st.complain line message).withStatus 1)
    else
      let elements := name ++ ['[']
      unsetAll line names { st with
        values := (st.values.erase name).filter fun v =>
          !st.dialect.isBash || !Text.beginsWith v.1 elements
        exported := st.exported.filter (· != name)
        commands :=
          if st.dialect.isBash && (st.get? name).isNone then
            st.commands.filter fun c => c.1 != name
          else st.commands }

/-- Takes values or commands from names. -/
def runUnset : Builtin :=
  withFlags "unset" "fv" "fnv" fun line letters args st =>
    if letters.contains 'f' then
      .ok { st with status := 0, commands := st.commands.filter fun c => !args.contains c.1 }
    else unsetAll line args (st.withStatus 0)

/-! ## Settings and arguments -/

/-- All values of a script, as they are listed. -/
def listAllValues (st : State) : Text :=
  let names := Text.Utf8.ordered ((st.values.map Prod.fst).filter isName).eraseDups
  names.flatMap fun name =>
    let value := (st.get? name).getD []
    let isPlain := value.all fun c => c.isAlphanum || "_@%+=:,./-".toList.contains c
    name ++ '=' :: (if st.dialect.isBash && isPlain then value else quotedValue value) ++ ['\n']

/-- Changes settings and arguments. -/
def runSet : Builtin := fun line args st =>
  if args.isEmpty then .ok (st.printText line (listAllValues st))
  else
    match Flags.ofArgs st.dialect st.settings args, st.dialect with
    | .error fault, .plain => .error (fault.message .plain)
    | .error fault, .bash =>
      let st := st.complain line (fault.message .bash)
      let st :=
        match fault with
        | .word _ => st
        | _ => st.say (usageOf "set".toList).toList
      .ok (st.withStatus 2)
    | .ok flags, _ =>
      let st := { st with
        settings := flags.settings
        params := if flags.closed || !flags.rest.isEmpty then flags.rest else st.params
        status := 0 }
      match flags.listed with
      | some asCommands => .ok (st.printText line (st.settings.listing st.dialect asCommands))
      | none => .ok st

/-- Drops arguments of the script. -/
def runShift : Builtin := fun _ args st => do
  match st.dialect with
  | .plain =>
    let n ← args.head?.elim (.ok 1) readCount
    if st.params.length < n then .error "can't shift that many".toList
    else return { st with params := st.params.drop n, status := 0 }
  | .bash =>
    match args with
    | [] => .ok (if st.params.isEmpty then st.withStatus 1
                 else { st with params := st.params.drop 1, status := 0 })
    | arg :: _ =>
      match wholeNumber? .bash arg with
      | none => .error (arg ++ ": numeric argument required".toList)
      | some (.negSucc _) => .error (arg ++ ": shift count out of range".toList)
      | some (.ofNat n) =>
        .ok (if st.params.length < n then st.withStatus 1
             else { st with params := st.params.drop n, status := 0 })

/-- Works out arithmetic expressions. -/
def runLet : Builtin := fun line args st =>
  args.foldl (fun result arg => do
    let st ← result
    match st.worth arg with
    | .ok (n, st) => .ok (st.withStatus (if n = 0 then 1 else 0))
    | .error fault =>
      let message := fault.message st.dialect arg
      .ok (if fault.endsScript then { st with speaker := [] }.fail line message
        else (st.complain line message).withStatus 1)) (.ok st)

/-! ## Options -/

/-- What the options of a script say next: the letter of one, its value, and what is wrong with it;
`none` at their end.  The position is an index among the arguments and a column in it. -/
structure NextOption where
  /-- The letter. -/
  letter : Char
  /-- Its value. -/
  value : Option Text
  /-- Whether the letter is none of the options. -/
  unknown : Bool
  /-- Whether its value is missing. -/
  lacking : Bool
  /-- The index of the next option. -/
  index : Nat
  /-- Its column. -/
  column : Nat
  deriving DecidableEq, Repr

/-- The next option among arguments. -/
def nextOption? (wanted : Text) (args : List Text) (index column : Nat) : Option NextOption :=
  match args[index]? with
  | some ('-' :: c :: cs) =>
    if c = '-' && cs.isEmpty && column = 0 then none
    else
      let letters := (c :: cs).drop column
      match letters with
      | [] => none
      | letter :: behind =>
        let isLast := behind.isEmpty
        let after (n : Nat) : Nat × Nat := if isLast then (n, 0) else (index, column + 1)
        let rest := wanted.dropWhile (· != letter)
        if letter = ':' || rest.isEmpty then
          let (index, column) := after (index + 1)
          some { letter, value := none, unknown := true, lacking := false, index, column }
        else if rest[1]? = some ':' then
          if !isLast then
            some { letter, value := some behind, unknown := false, lacking := false
                   index := index + 1, column := 0 }
          else
            match args[index + 1]? with
            | some value =>
              some { letter, value := some value, unknown := false, lacking := false
                     index := index + 2, column := 0 }
            | none =>
              some { letter, value := none, unknown := false, lacking := true
                     index := index + 1, column := 0 }
        else
          let (index, column) := after (index + 1)
          some { letter, value := none, unknown := false, lacking := false, index, column }
  | _ => none

/-- What is said of an option that is wrong. -/
def optionMessage (st : State) (o : NextOption) : Text :=
  match st.dialect, o.unknown with
  | .plain, true => "Illegal option -".toList ++ [o.letter]
  | .plain, false => "No arg for -".toList ++ [o.letter] ++ " option".toList
  | .bash, true => st.name ++ ": illegal option -- ".toList ++ [o.letter]
  | .bash, false => st.name ++ ": option requires an argument -- ".toList ++ [o.letter]

/-- Reads the next option of the script into a name. -/
def runGetopts : Builtin := fun _ args st =>
  match args with
  | wanted :: name :: given =>
    let params := if given.isEmpty then st.params else given
    let quiet := Text.beginsWith wanted [':']
    let index := (((st.get? "OPTIND".toList).bind (Text.numeral? 10)).getD 1) - 1
    let column := if index + 1 = st.optionIndex then st.optionColumn else 0
    match nextOption? (if quiet then wanted.drop 1 else wanted) params index column with
    | none =>
      let passed := if params[index]? = some ['-', '-'] then index + 2 else index + 1
      let st := (st.set name ['?']).set "OPTIND".toList (Text.ofNat passed)
      .ok { st with status := 1, optionColumn := 0 }
    | some o =>
      let wrong := o.unknown || o.lacking
      let st := if wrong && !quiet then st.say (optionMessage st o) else st
      let letter := if wrong then (if quiet && o.lacking then ':' else '?') else o.letter
      let st := st.set name [letter]
      let st :=
        if wrong && quiet then st.set "OPTARG".toList [o.letter]
        else
          match o.value with
          | some value => st.set "OPTARG".toList value
          | none => { st with values := st.values.erase "OPTARG".toList }
      let st := st.set "OPTIND".toList (Text.ofNat (o.index + 1))
      .ok { st with status := 0, optionIndex := o.index + 1, optionColumn := o.column }
  | _ =>
    match st.dialect with
    | .plain => .error "Usage: getopts optstring var [arg...]".toList
    | .bash => .ok ((st.say (usageOf "getopts".toList).toList).withStatus 2)

end Hotkeys.Shell
