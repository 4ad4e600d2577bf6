import Hotkeys.Host.Process
import Hotkeys.Shell.Command
import Hotkeys.Shell.Dialect
import Hotkeys.Shell.Values

/-!
# The state of a running script

What a script sees and changes: its values, the commands that it has given names, its streams, and
how it goes on.
-/

set_option autoImplicit false

namespace Hotkeys.Shell

open Hotkeys.Host (Bytes Environment Files Place Stream)

/-! ## Parts -/

/-- What a stream of a script is connected with.  Streams may share a channel; then what one of
them reads or writes moves the other one on. -/
inductive Channel where
  /-- A stream that leads out of the script. -/
  | outward (s : Stream)
  /-- A text that is kept for a reader: its parts, the last one first. -/
  | kept (parts : List Bytes)
  /-- A text that is left to read. -/
  | source (rest : Bytes)
  /-- A file, from a position on; with `adding`, what is written goes to its end. -/
  | file (place : Place) (position : Nat) (reads writes adding : Bool)
  deriving DecidableEq, Repr

/-- How a script goes on. -/
inductive Flow where
  /-- With the next command. -/
  | onward
  /-- Behind the loop around it, or behind several; `again` goes on with the last of them. -/
  | leaving (loops : Nat) (again : Bool)
  /-- Behind the call of the command that it is in. -/
  | returning
  /-- Behind the line of the script that it is in. -/
  | skipping
  /-- Not at all. -/
  | ended
  deriving DecidableEq, Repr

/-- What a script may be told to do on its way. -/
structure Settings where
  /-- To end when a command fails. -/
  strict : Bool
  /-- To end when a value is missing. -/
  complete : Bool
  /-- To show commands before they are run. -/
  shown : Bool
  /-- Not to run commands. -/
  idle : Bool
  /-- To keep files from being overwritten. -/
  careful : Bool
  /-- To take the signs of patterns for file names as they are. -/
  literal : Bool
  /-- To hand all values to programs. -/
  generous : Bool
  /-- To show lines as they are read. -/
  echoed : Bool
  /-- To let a pipe fail with any of its commands. -/
  piping : Bool
  /-- To read the script from its input. -/
  fromInput : Bool
  /-- The letters of settings that change nothing here and are turned on. -/
  others : Text
  deriving DecidableEq, Repr

namespace Settings

/-- Nothing of it. -/
def none : Settings :=
  { strict := false, complete := false, shown := false, idle := false, careful := false
    literal := false, generous := false, echoed := false, piping := false, fromInput := false
    others := [] }

/-- The letters of settings that change nothing here. -/
def idleLetters (d : Dialect) : Text :=
  match d with
  | .plain => "bEiImV".toList
  | .bash => "bEhkmptBHPT".toList

/-- The settings with the one of a letter turned on or off; `none` if there is no such letter. -/
def turn? (d : Dialect) (s : Settings) (letter : Char) (on : Bool) : Option Settings :=
  match letter with
  | 'e' => some { s with strict := on }
  | 'u' => some { s with complete := on }
  | 'x' => some { s with shown := on }
  | 'n' => some { s with idle := on }
  | 'C' => some { s with careful := on }
  | 'f' => some { s with literal := on }
  | 'a' => some { s with generous := on }
  | 'v' => some { s with echoed := on }
  | c =>
    if (idleLetters d).contains c then
      some { s with others := s.others.filter (· != c) ++ if on then [c] else [] }
    else Option.none

/-- Whether the setting of a letter is turned on. -/
def isOn (s : Settings) (letter : Char) : Bool :=
  match letter with
  | 'e' => s.strict
  | 'u' => s.complete
  | 'x' => s.shown
  | 'n' => s.idle
  | 'C' => s.careful
  | 'f' => s.literal
  | 'a' => s.generous
  | 'v' => s.echoed
  | 's' => s.fromInput
  | c => s.others.contains c

/-- The words that name settings, with their letters; one without a letter has a `-`. -/
def named (d : Dialect) : List (String × Char) :=
  match d with
  | .plain =>
    [("errexit", 'e'), ("noglob", 'f'), ("ignoreeof", 'I'), ("interactive", 'i'),
      ("monitor", 'm'), ("noexec", 'n'), ("stdin", 's'), ("xtrace", 'x'), ("verbose", 'v'),
      ("vi", 'V'), ("emacs", 'E'), ("noclobber", 'C'), ("allexport", 'a'), ("notify", 'b'),
      ("nounset", 'u'), ("privileged", 'p'), ("nolog", '-'), ("debug", '-')]
  | .bash =>
    [("allexport", 'a'), ("braceexpand", 'B'), ("emacs", '-'), ("errexit", 'e'),
      ("errtrace", 'E'), ("functrace", 'T'), ("hashall", 'h'), ("histexpand", 'H'),
      ("history", '-'), ("ignoreeof", '-'), ("interactive-comments", '-'), ("keyword", 'k'),
      ("monitor", 'm'), ("noclobber", 'C'), ("noexec", 'n'), ("noglob", 'f'), ("nolog", '-'),
      ("notify", 'b'), ("nounset", 'u'), ("onecmd", 't'), ("physical", 'P'), ("pipefail", '-'),
      ("posix", '-'), ("privileged", 'p'), ("verbose", 'v'), ("vi", '-'), ("xtrace", 'x')]

/-- The settings with the one of a word turned on or off; `none` if there is no such word. -/
def turnNamed? (d : Dialect) (s : Settings) (word : Text) (on : Bool) : Option Settings :=
  if d.isBash && word = "pipefail".toList then some { s with piping := on }
  else
    ((named d).find? fun n => n.1.toList == word).bind fun n =>
      if n.2 = '-' || n.2 = 's' then some s else s.turn? d n.2 on <|> some s

/-- The letters of the settings that are turned on. -/
def letters (d : Dialect) (s : Settings) : Text :=
  let order :=
    match d with
    | .plain => "ubaCEVvxsnmiIfe"
    | .bash => "abefhkmnptuvxBCEHPTsc"
  order.toList.filter s.isOn

end Settings

/-! ## States -/

/-- The state of a running script. -/
structure State where
  /-- The interpreter. -/
  dialect : Dialect
  /-- The name it is started by. -/
  name : Text
  /-- What complaints begin with. -/
  origin : Text
  /-- What complaints begin with inside of commands that were given names. -/
  innerOrigin : Text
  /-- How the script ends when a value is missing. -/
  collapse : Nat
  /-- The builtin command that complaints are made by, if it is not the one that fails. -/
  speaker : Text
  /-- Its arguments. -/
  params : List Text
  /-- The values of names. -/
  values : Values
  /-- The names whose values are handed to programs. -/
  exported : List Text
  /-- The names whose values stay as they are. -/
  fixed : List Text
  /-- How many parts that run apart it is in. -/
  apart : Nat
  /-- How many scripts inside of words and arguments it is in. -/
  level : Nat
  /-- How many calls of commands that were given names it is in. -/
  calls : Nat
  /-- The values that names had before the call that it is in. -/
  hidden : List (Text × Option Text)
  /-- Whether it runs a script in another file. -/
  sourcing : Bool
  /-- The index of the argument in which its next option is looked for. -/
  optionIndex : Nat
  /-- The column in it. -/
  optionColumn : Nat
  /-- The commands that have been given names. -/
  commands : List (Text × Command)
  /-- The names of programs whose places are known. -/
  known : List Text
  /-- What it is told to do on its way. -/
  settings : Settings
  /-- The line up to which it has been read. -/
  reached : Nat
  /-- How many loops it is in. -/
  loops : Nat
  /-- How it goes on. -/
  flow : Flow
  /-- How the last command ended. -/
  status : Nat
  /-- How the last script inside of a word of the current command ended. -/
  answer : Nat
  /-- How the last command in the background ended, if there was one. -/
  background : Option Nat
  /-- What is run when it has ended, if anything. -/
  farewell : Option Text
  /-- The files. -/
  files : Files
  /-- The directory, as the script knows it. -/
  directory : Text
  /-- The channels that streams are connected with, by the number of the stream. -/
  streams : List (Nat × Nat)
  /-- The channels, by their numbers. -/
  channels : List (Nat × Channel)
  /-- The number of the next channel. -/
  nextChannel : Nat
  /-- What was written outward, the last part first. -/
  written : List (Stream × Bytes)
  deriving Repr

namespace State

/-- The path of a place. -/
def pathOf (place : Place) : Text :=
  '/' :: Text.join ['/'] place

/-- The directory as the environment has it, if that is where the files are seen from. -/
def startDirectory (env : Environment) (files : Files) : Text :=
  let known := (env.get? "PWD").filter fun path =>
    Host.Path.isAbsolute path &&
      match files.locate path with
      | .ok place => place == files.here
      | .error _ => false
  known.getD (pathOf files.here)

/-- The values that an interpreter gives names by itself. -/
def ownValues (d : Dialect) (env : Environment) : Values :=
  let always : Values :=
    [("IFS".toList, " \t\n".toList), ("OPTIND".toList, ['1'])]
  let prompt : Values :=
    if (env.get? "PS4").isSome then [] else [("PS4".toList, "+ ".toList)]
  match d with
  | .plain => always ++ prompt ++ [("PS1".toList, "# ".toList), ("PS2".toList, "> ".toList)]
  | .bash =>
    let depth := ((env.get? "SHLVL").bind (Text.numeral? 10)).getD 0
    always ++ prompt ++
      [("BASH".toList, "/bin/bash".toList), ("BASH_VERSION".toList, "5.2.21(1)-release".toList),
        ("SHLVL".toList, Text.ofNat (depth + 1)), ("UID".toList, ['0']), ("EUID".toList, ['0']),
        ("HOSTTYPE".toList, "x86_64".toList), ("OSTYPE".toList, "linux-gnu".toList)]

/-- The state at the start of a script. -/
def start (dialect : Dialect) (settings : Settings) (name : Text) (params : List Text)
    (env : Environment) (input : Bytes) (files : Files) : State :=
  let directory := startDirectory env files
  let own := ownValues dialect env
  { dialect, name, origin := name, innerOrigin := name, collapse := dialect.misuse
    speaker := [], params
    values := Values.set (own ++ env) "PWD".toList directory
    exported :=
      "PWD".toList :: env.map Prod.fst ++ if dialect.isBash then ["SHLVL".toList] else []
    fixed := [], apart := 0, level := 0, calls := 0, hidden := [], sourcing := false
    optionIndex := 1, optionColumn := 0, commands := [], known := [], settings, reached := 1
    loops := 0
    flow := .onward, status := 0, answer := 0, background := none, farewell := none, files
    directory
    streams := [(0, 0), (1, 1), (2, 2)]
    channels := [(0, .source input), (1, .outward .output), (2, .outward .errors)]
    nextChannel := 3, written := [] }

/-- Whether the script goes on with the next command. -/
def goesOn (st : State) : Bool :=
  st.flow == .onward

/-- The value of a name. -/
def get? (st : State) (name : Text) : Option Text :=
  st.values.get? name

/-- The state in which a name has a value. -/
def set (st : State) (name value : Text) : State :=
  { st with
    values := st.values.set name value
    exported := if st.settings.generous then name :: st.exported else st.exported }

/-- The environment of a program that is run now. -/
def environment (st : State) : Environment :=
  st.values.filter fun entry => st.exported.contains entry.1

/-- The state after a command that ended with a status. -/
def withStatus (st : State) (status : Nat) : State :=
  { st with status }

/-- The state after the script was ended. -/
def finish (st : State) (status : Nat) : State :=
  { st with status, flow := .ended }

/-! ## Channels -/

/-- The number of the channel of a stream. -/
def channelOf? (st : State) (stream : Nat) : Option Nat :=
  (st.streams.find? fun s => s.1 == stream).map Prod.snd

/-- The channel of a number. -/
def channel? (st : State) (number : Nat) : Option Channel :=
  (st.channels.find? fun c => c.1 == number).map Prod.snd

/-- The channel of a stream. -/
def streamChannel? (st : State) (stream : Nat) : Option Channel :=
  (st.channelOf? stream).bind st.channel?

/-- The state in which a channel is as it is after it was used. -/
def setChannel (st : State) (number : Nat) (c : Channel) : State :=
  { st with channels := st.channels.map fun old => if old.1 = number then (number, c) else old }

/-- The state in which a stream is connected with a channel, or closed. -/
def connect (st : State) (stream : Nat) (channel : Option Nat) : State :=
  let others := st.streams.filter fun s => s.1 != stream
  { st with streams := (channel.toList.map fun c => (stream, c)) ++ others }

/-- The state with one more channel, and its number. -/
def opened (st : State) (c : Channel) : Nat × State :=
  (st.nextChannel,
    { st with
      channels := (st.nextChannel, c) :: st.channels
      nextChannel := st.nextChannel + 1 })

/-- The state in which a stream is connected with a channel of its own. -/
def connectNew (st : State) (stream : Nat) (c : Channel) : State :=
  let (number, st) := st.opened c
  st.connect stream (some number)

/-- The contents of a file. -/
def contentAt (st : State) (place : Place) : Bytes :=
  match (st.files.get? place).map Files.contentOf with
  | some (.ok content) => content
  | _ => []

/-- What is left to read of a stream. -/
def left (st : State) (stream : Nat) : Bytes :=
  match st.streamChannel? stream with
  | some (.source rest) => rest
  | some (.file place position true _ _) => (st.contentAt place).drop position
  | _ => []

/-- The state after a stream was read up to a rest. -/
def readUpTo (st : State) (stream : Nat) (rest : Bytes) : State :=
  match st.channelOf? stream, st.streamChannel? stream with
  | some number, some (.source _) => st.setChannel number (.source rest)
  | some number, some (.file place _ true writes adding) =>
    let position := (st.contentAt place).length - rest.length
    st.setChannel number (.file place position true writes adding)
  | _, _ => st

/-- What is left to read. -/
def input (st : State) : Bytes :=
  st.left 0

/-- Bytes with others in their place from a position on. -/
def overwrite (old : Bytes) (position : Nat) (new : Bytes) : Bytes :=
  old.take position ++ List.replicate (position - old.length) 0 ++ new ++
    old.drop (position + new.length)

/-- The state after something was written to a channel. -/
def writeChannel (st : State) (number : Nat) (bytes : Bytes) : State :=
  match st.channel? number with
  | some (.outward s) => { st with written := (s, bytes) :: st.written }
  | some (.kept parts) => st.setChannel number (.kept (bytes :: parts))
  | some (.file place position reads true adding) =>
    let position := if adding then (st.contentAt place).length else position
    let moved :=
      st.setChannel number (.file place (position + bytes.length) reads true adding)
    match st.files.get? place, st.files.updateAt place (overwrite · position bytes) with
    | some _, .ok files => { moved with files }
    | _, _ => moved
  | _ => st

/-- Whether something can be written to a stream. -/
def canWrite (st : State) (stream : Nat) : Bool :=
  match st.streamChannel? stream with
  | some (.outward _) | some (.kept _) => true
  | some (.file place _ _ writes _) =>
    writes && st.files.get? place != some (.device .full)
  | some (.source _) | none => false

/-- The state after something was written to a stream. -/
def write (st : State) (stream : Nat) (bytes : Bytes) : State :=
  match st.channelOf? stream with
  | some number => st.writeChannel number bytes
  | none => st

/-- What was kept of a channel. -/
def keptOf (st : State) (number : Nat) : Bytes :=
  match st.channel? number with
  | some (.kept parts) => parts.reverse.flatten
  | _ => []

/-- The state with some streams connected as they were before.  Channels that were opened
meanwhile and are out of reach are forgotten. -/
def reconnect (before after : State) (streams : List Nat) : State :=
  let back := streams.foldl (fun st s => st.connect s (before.channelOf? s)) after
  { back with
    channels := back.channels.filter fun c =>
      c.1 < before.nextChannel || back.streams.any fun s => s.2 == c.1 }

/-! ## Complaints -/

/-- The state after a line was written to the error stream. -/
def say (st : State) (t : Text) : State :=
  st.write 2 (Text.Utf8.encode (t ++ ['\n']))

/-- The state after a complaint about what stands on a line. -/
def complain (st : State) (line : Nat) (message : Text) : State :=
  st.say (st.origin ++ ": ".toList ++ st.dialect.lineWord ++ Text.ofNat line ++ ": ".toList ++
    st.speaker ++ message)

/-- The state after a complaint that ends the script. -/
def fail (st : State) (line : Nat) (message : Text) : State :=
  (st.complain line message).finish st.collapse

/-- The state after a complaint about a word.  It ends the script, or the line where there is more
to offer. -/
def drop (st : State) (line : Nat) (message : Text) : State :=
  match st.dialect with
  | .plain => st.fail line message
  | .bash => { st.complain line message with status := 1, flow := .skipping }

/-- The state after a complaint that makes a command fail.  If that is `grave`, the script ends,
unless there is more to offer. -/
def refuse (st : State) (grave : Bool) (line : Nat) (message : Text) : State :=
  if grave && !st.dialect.isBash then st.fail line message
  else (st.complain line message).withStatus st.dialect.misuse

/-- The state behind a part that ran apart: what it did to files and channels stays, what it did to
values and streams does not, and neither does a change of the directory. -/
def rejoin (before after : State) : State :=
  { before with
    status := after.status
    files := { after.files with here := before.files.here }
    channels := after.channels.filter fun c => c.1 < before.nextChannel
    written := after.written }

end State

end Hotkeys.Shell
