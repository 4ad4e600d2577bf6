import Hotkeys.Tools.Naming

/-!
# Running programs

The tools that run other programs: in another environment or directory, for a limited time, or with
arguments that they read.
-/

set_option autoImplicit false

namespace Hotkeys.Tools

open Hotkeys.Host (Bytes Environment Files Launch SystemError)

/-- A tool that may start programs. -/
abbrev Starter := Launch → Body

/-- Starts a program on behalf of a tool, in an environment.  A file that holds no program is read
as a script. -/
def Work.start (w : Work) (launch : Launch) (env : Environment) (program : Text)
    (args : List Text) : Except SystemError Work := do
  let attempt (program : Text) (args : List Text) :=
    launch { program, args, env, input := w.rest } w.files
  let outcome ←
    match attempt program args with
    | .error .notExecutable =>
      attempt "/bin/sh".toList (((programPaths w program).headD program) :: args)
    | result => result
  return { w with
    rest := outcome.rest
    files := { outcome.files with here := w.files.here }
    written := outcome.written.reverse ++ w.written
    code := outcome.code }

/-- The code of a tool that could not start a program. -/
def startCode (e : SystemError) : Nat :=
  if e = .noEntry then 127 else 126

/-- Goes on as another program; `about` says which one could not be started. -/
def Work.become (w : Work) (launch : Launch) (about : Text) : List Text → Work
  | [] => w
  | program :: args =>
    match w.start launch w.env program args with
    | .ok w => w
    | .error e => w.refuse (startCode e) about e

/-! ## Surroundings -/

/-- The settings at the beginning of arguments, and the arguments behind them. -/
def leadingSettings : List Text → Environment × List Text
  | [] => ([], [])
  | arg :: args =>
    match Text.splitFirst '=' arg with
    | some ([], _) => ([], arg :: args)
    | some setting =>
      let (settings, rest) := leadingSettings args
      (setting :: settings, rest)
    | none => ([], arg :: args)

/-- The words of a text, which blanks separate and quotes keep together; `quote` is the one that a
word is in. -/
def quotedWords : (quote : Option Char) → (word : Option Text) → Text → List Text
  | _, word, [] => word.toList
  | none, word, '\\' :: d :: ds => quotedWords none (some (word.getD [] ++ [d])) ds
  | some q, word, c :: cs =>
    if c = q then quotedWords none (some (word.getD [])) cs
    else quotedWords (some q) (some (word.getD [] ++ [c])) cs
  | none, word, c :: cs =>
    if c = ' ' || c = '\t' || c = '\n' then word.toList ++ quotedWords none none cs
    else if c = '\'' || c = '"' then quotedWords (some c) (some (word.getD [])) cs
    else quotedWords none (some (word.getD [] ++ [c])) cs

/-- The options of the tool that changes the environment. -/
def envOptions : Options :=
  { letters := "0iu:C:S:v"
    words := [("ignore-environment", 'i'), ("null", '0'), ("unset", 'u'), ("chdir", 'C'),
      ("split-string", 'S'), ("debug", 'v')]
    stopping := true }

/-- Runs a program in a changed environment, or prints that. -/
def env : Starter := fun launch =>
  withOptions envOptions 125 fun a w =>
    let split := (a.values 'S').flatMap (quotedWords none none)
    let operands := split ++ a.operands
    let (bare, operands) : Bool × List Text :=
      match operands with
      | ['-'] :: rest => (true, rest)
      | rest => (false, rest)
    let kept := if bare || a.has 'i' then [] else w.env
    let kept := kept.filter fun e => !(a.values 'u').contains e.1
    let (settings, rest) := leadingSettings operands
    let changed : Environment := settings.foldl (fun env s => env.put s.1 s.2) kept
    let moved : Except (Text × SystemError) Files :=
      match a.value? 'C' with
      | none => .ok w.files
      | some path =>
        match w.files.lookUp path with
        | .ok (place, .directory) => .ok { w.files with here := place }
        | .ok _ => .error (path, .notDirectory)
        | .error e => .error (path, e)
    match moved, rest with
    | _, [] =>
      if a.has 'C' then w.misuse 125 "must specify command with --chdir (-C)".toList
      else
        w.print (changed.flatMap fun e =>
          e.1 ++ '=' :: e.2 ++ [if a.has '0' then '\x00' else '\n'])
    | .error (path, e), _ =>
      w.refuse 125 ("cannot change directory to ".toList ++ quoted path) e
    | .ok files, program :: _ =>
      let here := w.files.here
      let after := { w with files, env := changed }.become launch (quoted program) rest
      let after :=
        if after.code = 127 && program.contains ' ' && (programPaths w program).isEmpty then
          after.complain 127 "use -[v]S to pass options in shebang lines".toList
        else after
      { after with files := { after.files with here } }

/-! ## Limits -/

/-- Whether a text is a time. -/
def isDuration (t : Text) : Bool :=
  let digits := t.takeWhile fun c => c.isDigit || c == '.'
  let rest := t.drop digits.length
  !digits.isEmpty && digits != ['.'] && ["", "s", "m", "h", "d"].any fun s => rest == s.toList

/-- Runs a program for a limited time, which it does not use up here. -/
def timeout : Starter := fun launch =>
  withOptions
    { letters := "k:s:vfp"
      words := [("kill-after", 'k'), ("signal", 's'), ("verbose", 'v'), ("foreground", 'f'),
        ("preserve-status", 'p')]
      stopping := true } 125 fun a w =>
    let help (w : Work) : Work :=
      (w.say ("Try '".toList ++ w.name ++ " --help' for more information.\n".toList)).withCode 125
    match a.operands with
    | [] | [_] => help w
    | time :: program :: args =>
      if !isDuration time then w.misuse 125 ("invalid time interval ".toList ++ quoted time)
      else
        w.become launch ("failed to run command ".toList ++ quoted program) (program :: args)

/-- Runs a program that is not to disturb others. -/
def nice : Starter := fun launch args =>
  let args :=
    match args with
    | ('-' :: c :: cs) :: rest => if c.isDigit then ['-', 'n'] :: (c :: cs) :: rest else args
    | _ => args
  withOptions { letters := "n:", words := [("adjustment", 'n')], stopping := true } 125 (fun a w =>
    match a.value? 'n', a.operands with
    | some n, operands =>
      if (whole? n).isNone then w.complain 125 ("invalid adjustment ".toList ++ quoted n)
      else if operands.isEmpty then w.misuse 125 "a command must be given with an adjustment".toList
      else w.become launch (quoted (operands.headD [])) operands
    | none, [] => w.print "0\n".toList
    | none, operands => w.become launch (quoted (operands.headD [])) operands) args
where
  /-- The whole number that a text is. -/
  whole? (t : Text) : Option Nat :=
    Text.signedNumeral? 10 (if Text.beginsWith t ['-'] then t.drop 1 else t)

/-- Runs a program that is not to be disturbed. -/
def nohup : Starter := fun launch =>
  withOptions { letters := "", words := [], stopping := true } 125 fun a w =>
    match a.operands with
    | [] => w.lackOperand 125
    | program :: args =>
      w.become launch ("failed to run command ".toList ++ quoted program) (program :: args)

/-- Runs a program in a session of its own. -/
def setsid : Starter := fun launch =>
  withOptions
    { letters := "cfw", words := [("ctty", 'c'), ("fork", 'f'), ("wait", 'w')], stopping := true } 1
    fun a w =>
    match a.operands with
    | [] => w.misuse 1 "no command specified".toList
    | program :: args =>
      let after := w.become launch ("failed to execute ".toList ++ program) (program :: args)
      if a.has 'f' then after.withCode 0 else after

/-! ## Arguments that are read -/

/-- Pieces of a list, of some length each; `bound` is at least their number. -/
def piecesOf {α : Type} (size : Nat) : (bound : Nat) → List α → List (List α)
  | 0, _ => []
  | _, [] => []
  | bound + 1, list => list.take size :: piecesOf size bound (list.drop size)

/-- A text with another one in the place of each of its parts that are a third one; `bound` is at
least its length. -/
def replaceText (old new : Text) : (bound : Nat) → Text → Text
  | 0, t => t
  | _, [] => []
  | bound + 1, c :: cs =>
    match Text.after? old (c :: cs) with
    | some rest => if old.isEmpty then c :: cs else new ++ replaceText old new bound rest
    | none => c :: replaceText old new bound cs

/-- The items that a tool reads for the arguments of others. -/
def itemsIn (a : Arguments) (text : Text) : List Text :=
  let separated (sep : Char) : List Text :=
    let items := Text.splitOn (· == sep) text
    if items.getLast? = some [] then items.dropLast else items
  if a.has '0' then separated '\x00'
  else
    match a.value? 'd' with
    | some ['\\', 'n'] => separated '\n'
    | some ['\\', '0'] => separated '\x00'
    | some (c :: _) => separated c
    | _ =>
      if a.hasOne "Ii" then
        ((Text.splitOn (· == '\n') text).map fun t =>
          t.dropWhile fun c => c == ' ' || c == '\t').filter fun t => !t.isEmpty
      else quotedWords none none text

/-- Runs a program with arguments that are read. -/
def xargs : Starter := fun launch =>
  withOptions
    { letters := "0a:d:E:eI:i?L:l?n:oP:prs:tx"
      words := [("null", '0'), ("arg-file", 'a'), ("delimiter", 'd'), ("replace", 'i'),
        ("max-lines", 'L'), ("max-args", 'n'), ("max-procs", 'P'), ("no-run-if-empty", 'r'),
        ("verbose", 't'), ("max-chars", 's'), ("exit", 'x'), ("interactive", 'p')]
      stopping := true } 1 fun a w =>
    let (content, w) : Except SystemError Bytes × Work :=
      match a.value? 'a' with
      | some path => w.read path
      | none => (.ok w.rest, { w with rest := [] })
    match content with
    | .error e => w.refuse 1 ("Cannot open input file ".toList ++ quoted ((a.value? 'a').getD [])) e
    | .ok content =>
      let items := itemsIn a (Text.Utf8.decodeLossy content)
      let sign : Option Text :=
        match a.value? 'I' with
        | some s => some s
        | none => (a.value? 'i').map fun s => if s.isEmpty then "\x7b\x7d".toList else s
      let command := if a.operands.isEmpty then ["echo".toList] else a.operands
      let size := ((a.value? 'n').bind (Text.numeral? 10)).getD (items.length + 1)
      let lines : List (List Text) :=
        match sign, a.value? 'L' with
        | some sign, _ =>
          items.map fun item => command.map fun t => replaceText sign item (t.length + 1) t
        | none, some _ =>
          ((Text.splitOn (· == '\n') (Text.Utf8.decodeLossy content)).map
            (quotedWords none none)).filterMap fun ws =>
              if ws.isEmpty then none else some (command ++ ws)
        | none, none => (piecesOf size (items.length + 1) items).map fun piece => command ++ piece
      let lines := if items.isEmpty && sign.isNone && !a.has 'r' then [command] else lines
      (lines.foldl (fun (s : Work × Bool) line =>
        let (w, going) := s
        if !going then s
        else
          let w := if a.has 't' then w.say (Text.join [' '] line ++ ['\n']) else w
          match w.start launch w.env (line.headD []) (line.drop 1) with
          | .error e => (w.refuse (startCode e) (line.headD []) e, false)
          | .ok after =>
            let code :=
              if after.code = 0 then w.code else if after.code = 255 then 124 else 123
            ({ after with code, rest := w.rest }, after.code != 255)) (w, true)).1

end Hotkeys.Tools
