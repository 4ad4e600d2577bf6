import Hotkeys.Tools.Running
import Hotkeys.Tools.Search

/-!
# Finding files

The tool that walks through directories and does what an expression says for each file in them, and
the one that compares two files.
-/

set_option autoImplicit false

namespace Hotkeys.Tools

open Hotkeys.Host (Bytes Launch Node)
open Hotkeys.Shell (Pattern)

/-! ## Expressions -/

/-- What can be asked about a file, or done with it. -/
inductive FindTest where
  /-- Whether its name has a form, or its path has. -/
  | fits (wholePath ignoring : Bool) (form : Text)
  /-- Whether it is of one of some kinds. -/
  | kind (letters : Text)
  /-- Whether there is nothing in it. -/
  | empty
  /-- Whether it can be executed. -/
  | executable
  /-- Nothing is asked. -/
  | always (result : Bool)
  /-- Its path is printed, with a character behind it. -/
  | print (ending : Char)
  /-- A program is started for it. -/
  | run (command : List Text)
  /-- A program is started for it and others. -/
  | gather (command : List Text)
  /-- It is removed. -/
  | delete
  /-- What is in it is left out. -/
  | prune
  /-- Everything ends. -/
  | quit
  deriving DecidableEq, Repr

/-- Whether a test does something, so that nothing else is done for want of it. -/
def FindTest.isAction : FindTest → Bool
  | .print _ | .run _ | .gather _ | .delete => true
  | _ => false

/-- An expression about files. -/
inductive FindExpr where
  /-- One test. -/
  | test (t : FindTest)
  /-- The opposite. -/
  | not (e : FindExpr)
  /-- The second counts if the first holds. -/
  | both (a b : FindExpr)
  /-- The second counts if the first does not hold. -/
  | either (a b : FindExpr)
  /-- The second counts in any case. -/
  | list (a b : FindExpr)
  deriving DecidableEq, Repr

/-- Whether a test of an expression is of some sort. -/
def FindExpr.any (p : FindTest → Bool) : FindExpr → Bool
  | .test t => p t
  | .not e => e.any p
  | .both a b | .either a b | .list a b => a.any p || b.any p

/-- What reading an expression amounts to: it and the words behind it, or what is wrong. -/
abbrev FindReading := Except Text (FindExpr × List Text)

/-- What is wrong if words lack what an operator stands in front of. -/
def lackBehind (operator : Text) : Text :=
  "expected an expression after '".toList ++ operator ++ ['\'']

/-- The words of a command up to its end, whether it is for many files, and what follows. -/
def commandWords : List Text → Option (List Text × Bool × List Text)
  | [] => none
  | [';'] :: rest => some ([], false, rest)
  | ['\x7b', '\x7d'] :: ['+'] :: rest => some ([], true, rest)
  | word :: rest => (commandWords rest).map fun r => (word :: r.1, r.2)

/-- Reads one test. -/
def readTest (word : Text) (rest : List Text) : FindReading :=
  let lacking : Text := "missing argument to \x60".toList ++ word ++ ['\'']
  let plain (t : FindTest) : FindReading := .ok (.test t, rest)
  let withValue (t : Text → FindTest) : FindReading :=
    match rest with
    | value :: rest => .ok (.test (t value), rest)
    | [] => .error lacking
  let counted : FindReading :=
    match rest with
    | value :: rest =>
      if (Text.numeral? 10 value).isSome then .ok (.test (.always true), rest)
      else
        .error ("Expected a positive decimal integer argument to ".toList ++ word ++
          ", but got '".toList ++ value ++ ['\''])
    | [] => .error lacking
  match String.ofList word with
  | "-name" => withValue (.fits false false)
  | "-iname" => withValue (.fits false true)
  | "-path" | "-wholename" => withValue (.fits true false)
  | "-ipath" | "-iwholename" => withValue (.fits true true)
  | "-type" =>
    match rest with
    | letters :: rest =>
      match letters.find? fun c => !"bcdpfls,".toList.contains c with
      | some c => .error ("Unknown argument to -type: ".toList ++ [c])
      | none => .ok (.test (.kind letters), rest)
    | [] => .error lacking
  | "-empty" => plain .empty
  | "-executable" => plain .executable
  | "-true" | "-readable" | "-writable" | "-depth" | "-d" | "-mount" | "-xdev" | "-follow" =>
    plain (.always true)
  | "-false" => plain (.always false)
  | "-print" => plain (.print '\n')
  | "-print0" => plain (.print '\x00')
  | "-delete" => plain .delete
  | "-prune" => plain .prune
  | "-quit" => plain .quit
  | "-maxdepth" | "-mindepth" => counted
  | "-exec" =>
    match commandWords rest with
    | some ([], _, _) | none => .error lacking
    | some (command, true, rest) => .ok (.test (.gather command), rest)
    | some (command, false, rest) => .ok (.test (.run command), rest)
  | _ =>
    if Text.beginsWith word ['-'] then .error ("unknown predicate \x60".toList ++ word ++ ['\''])
    else .error ("paths must precede expression: \x60".toList ++ word ++ ['\''])

mutual

/-- Reads expressions that commas or other operators join; `level` says which ones: all of them at
zero, then those that bind more.  `bound` is at least the number of words. -/
def readJoined : (bound level : Nat) → List Text → FindReading
  | 0, _, _ => .error "invalid expression".toList
  | bound + 1, level, words => do
    if level = 3 then
      match words with
      | [] => .error "invalid expression".toList
      | word :: rest =>
        if word = ['!'] || word = "-not".toList then
          if rest.isEmpty then .error (lackBehind word)
          else
            let (e, rest) ← readJoined bound 3 rest
            return (.not e, rest)
        else if word = ['('] then
          let (e, rest) ← readJoined bound 0 rest
          match rest with
          | [')'] :: rest => return (e, rest)
          | _ =>
            .error ("invalid expression; I was expecting to find a ')' somewhere but did not " ++
              "see one.").toList
        else if ["-o", "-or", "-a", "-and", ","].contains (String.ofList word) then
          .error ("invalid expression; you have used a binary operator '".toList ++ word ++
            "' with nothing before it.".toList)
        else readTest word rest
    else
      let (e, rest) ← readJoined bound (level + 1) words
      readFurther bound level e rest

/-- Reads what operators of a level join to an expression. -/
def readFurther : (bound level : Nat) → FindExpr → List Text → FindReading
  | 0, _, e, words => .ok (e, words)
  | bound + 1, level, e, words => do
    match words with
    | [] => return (e, [])
    | word :: rest =>
      let isOr := word = "-o".toList || word = "-or".toList
      let isAnd := word = "-a".toList || word = "-and".toList
      let isEnd := isOr || word = [','] || word = [')']
      let join (make : FindExpr → FindExpr → FindExpr) (rest : List Text) : FindReading := do
        if rest.isEmpty then .error (lackBehind word)
        else
          let (other, rest) ← readJoined bound (level + 1) rest
          readFurther bound level (make e other) rest
      if level = 0 && word = [','] then join .list rest
      else if level = 1 && isOr then join .either rest
      else if level = 2 && isAnd then join .both rest
      else if level = 2 && !isEnd then join .both words
      else return (e, words)

end

/-- Whether a word begins the expression. -/
def beginsExpression (word : Text) : Bool :=
  (Text.beginsWith word ['-'] && word != ['-']) || word = ['!'] || word = ['(']

/-! ## Walking -/

/-- How files are found. -/
structure FindPlan where
  /-- What is asked and done. -/
  expr : FindExpr
  /-- How deep files are looked at, at least. -/
  least : Nat
  /-- How deep files are looked at, at most. -/
  most : Option Nat
  /-- Whether a directory comes behind what is in it. -/
  inward : Bool
  deriving DecidableEq, Repr

/-- How far the finding has come. -/
structure Finding where
  /-- The work of the tool. -/
  work : Work
  /-- Whether what is in the directory is left out. -/
  isPruned : Bool
  /-- Whether there is nothing left to do. -/
  isDone : Bool
  /-- Commands for many files, with the files, the last one first. -/
  gathered : List (List Text × List Text)
  deriving DecidableEq, Repr

/-- Whether a text has the form of a pattern. -/
def fitsForm (ignoring : Bool) (form t : Text) : Bool :=
  let low (t : Text) : Text := if ignoring then t.map Char.toLower else t
  let letters := (low form).map fun c => (false, c)
  (Pattern.ofLetters true letters).fits (low t)

/-- The letter of the kind of a node. -/
def kindLetter : Node → Char
  | .directory => 'd'
  | .file .. | .tool _ => 'f'
  | .device _ => 'c'
  | .stream _ | .link _ => 'l'

/-- The finding after a program was started, and whether it succeeded. -/
def Finding.start (f : Finding) (launch : Launch) : List Text → Bool × Finding
  | [] => (true, f)
  | program :: args =>
    match f.work.start launch f.work.env program args with
    | .ok w => (w.code = 0, { f with work := w.withCode f.work.code })
    | .error e => (false, { f with work := f.work.refuse f.work.code (quoted program) e })

/-- Words with a path in place of the braces in them. -/
def withPath (path : Text) (words : List Text) : List Text :=
  let bare (w : Text) : Text := if w = ['\x7b', '\x7d'] then path else w
  words.map bare

/-- The finding after a test of the file at a path, and its result. -/
def Finding.test (launch : Launch) (path : Text) (node : Node) (f : Finding) :
    FindTest → Bool × Finding
  | .fits wholePath ignoring form =>
    (fitsForm ignoring form (if wholePath then path else lastName path), f)
  | .kind letters => (letters.contains (kindLetter node), f)
  | .empty =>
    match node, f.work.files.lookAt path with
    | .directory, .ok (place, _) => ((f.work.files.namesIn place).isEmpty, f)
    | .file content _, _ => (content.isEmpty, f)
    | _, _ => (false, f)
  | .executable =>
    match node with
    | .directory | .tool _ | .file _ true => (true, f)
    | _ => (false, f)
  | .always result => (result, f)
  | .print ending => (true, { f with work := f.work.print (path ++ [ending]) })
  | .run command => f.start launch (withPath path command)
  | .gather command =>
    let paths := ((f.gathered.find? fun g => g.1 == command).map Prod.snd).getD []
    let others := f.gathered.filter fun g => g.1 != command
    (true, { f with gathered := (command, path :: paths) :: others })
  | .delete =>
    let files := f.work.files
    match if node = .directory then files.removeDirectory path else files.remove path with
    | .ok files => (true, { f with work := { f.work with files } })
    | .error e =>
      (false, { f with work := f.work.refuse 1 ("cannot delete ".toList ++ quoted path) e })
  | .prune => (true, { f with isPruned := true })
  | .quit => (true, { f with isDone := true })

/-- The finding after an expression about the file at a path, and its result. -/
def Finding.judge (launch : Launch) (path : Text) (node : Node) : FindExpr → Finding →
    Bool × Finding
  | .test t, f => if f.isDone then (false, f) else f.test launch path node t
  | .not e, f =>
    let (result, f) := Finding.judge launch path node e f
    (!result, f)
  | .both a b, f =>
    match Finding.judge launch path node a f with
    | (true, f) => Finding.judge launch path node b f
    | (false, f) => (false, f)
  | .either a b, f =>
    match Finding.judge launch path node a f with
    | (true, f) => (true, f)
    | (false, f) => Finding.judge launch path node b f
  | .list a b, f => Finding.judge launch path node b (Finding.judge launch path node a f).2

/-- Walks through the files from a path on; `level` is how deep it is, and `bound` limits that. -/
def walkFrom (launch : Launch) (plan : FindPlan) : (bound level : Nat) → Text → Finding → Finding
  | 0, _, _, f => f
  | bound + 1, level, path, f =>
    if f.isDone then f
    else
      match f.work.files.lookAt path with
      | .error e => { f with work := f.work.refuse 1 (quoted path) e }
      | .ok (place, node) =>
        let judged (f : Finding) : Finding :=
          if level < plan.least then f else (Finding.judge launch path node plan.expr f).2
        let f := { f with isPruned := false }
        let f := if plan.inward then f else judged f
        let isOpen := node = .directory && !(f.isPruned && !plan.inward) &&
          plan.most.all fun most => decide (level < most)
        let names := if isOpen then f.work.files.namesIn place else []
        let f := names.foldl (fun f name =>
          walkFrom launch plan bound (level + 1) (inside path name) f) f
        if plan.inward && !f.isDone then judged f else f

/-- The number behind the last of some words that is a certain one. -/
def numberBehind (word : Text) : List Text → Option Nat
  | w :: value :: rest =>
    let later := numberBehind word (value :: rest)
    if later.isSome then later else if w = word then Text.numeral? 10 value else none
  | _ => none

/-- Finds files. -/
def find : Starter := fun launch args w =>
  let args := args.dropWhile fun arg => ["-H", "-L", "-P", "--"].contains (String.ofList arg)
  let paths := args.takeWhile fun arg => !beginsExpression arg
  let words := args.drop paths.length
  let reading : FindReading :=
    if words.isEmpty then .ok (.test (.always true), [])
    else readJoined (8 * words.length + 8) 0 words
  match reading with
  | .error message => w.complain 1 message
  | .ok (_, word :: _) =>
    w.complain 1 ("paths must precede expression: \x60".toList ++ word ++ ['\''])
  | .ok (e, []) =>
    let plan : FindPlan :=
      { expr := if e.any FindTest.isAction then e else .both e (.test (.print '\n'))
        least := (numberBehind "-mindepth".toList words).getD 0
        most := numberBehind "-maxdepth".toList words
        inward := e.any (· == .delete) || words.contains "-depth".toList }
    let start : Finding := { work := w, isPruned := false, isDone := false, gathered := [] }
    let paths := if paths.isEmpty then [['.']] else paths
    let f := paths.foldl (fun f path => walkFrom launch plan searchDepth 0 path f) start
    (f.gathered.reverse.foldl (fun f g =>
      match f.start launch (g.1 ++ g.2.reverse) with
      | (true, f) => f
      | (false, f) => { f with work := f.work.withCode 1 }) f).work

/-! ## Comparing -/

/-- What two contents have in common at the beginning, and what follows in each. -/
def commonPart : Bytes → Bytes → Bytes × Bytes × Bytes
  | x :: xs, y :: ys =>
    if x = y then
      let (common, rest) := commonPart xs ys
      (x :: common, rest)
    else ([], x :: xs, y :: ys)
  | xs, ys => ([], xs, ys)

/-- A complaint about how files are to be compared. -/
def Work.miscompare (w : Work) (message : Text) : Work :=
  (w.complain 2 message).say
    (w.name ++ ": Try '".toList ++ w.name ++ " --help' for more information.\n".toList)

/-- Compares two files. -/
def cmp : Body := fun args w =>
  let options : Options :=
    { letters := "bls"
      words := [("print-bytes", 'b'), ("verbose", 'l'), ("quiet", 's'), ("silent", 's')]
      stopping := false }
  match options.read args with
  | .error fault => w.miscompare fault.message
  | .ok a =>
    match a.operands with
    | [] => w.miscompare ("missing operand after '".toList ++ w.name ++ ['\''])
    | first :: others =>
      let second := others.headD ['-']
      let quiet := a.has 's'
      let refuse (w : Work) (about : Text) (e : Host.SystemError) : Work :=
        if quiet then w.withCode 2 else w.refuse 2 about e
      match w.readOperand first with
      | (.error e, w) => refuse w first e
      | (.ok x, w) =>
        match w.readOperand second with
        | (.error e, w) => refuse w second e
        | (.ok y, w) =>
          let (common, restX, restY) := commonPart x y
          let lines := (common.filter (· == 10)).length
          match restX, restY with
          | [], [] => w
          | _ :: _, _ :: _ =>
            if quiet then w.withCode 1
            else
              (w.print (first ++ ' ' :: second ++ " differ: char ".toList ++
                Text.ofNat (common.length + 1) ++ ", line ".toList ++ Text.ofNat (lines + 1) ++
                ['\n'])).withCode 1
          | restX, _ =>
            let short := if restX.isEmpty then first else second
            if quiet then w.withCode 1
            else if common.isEmpty then
              w.complain 1 ("EOF on ".toList ++ short ++ " which is empty".toList)
            else
              let line :=
                if endsLine common then ", line ".toList ++ Text.ofNat lines
                else ", in line ".toList ++ Text.ofNat (lines + 1)
              w.complain 1 ("EOF on ".toList ++ short ++ " after byte ".toList ++
                Text.ofNat common.length ++ line)

end Hotkeys.Tools
