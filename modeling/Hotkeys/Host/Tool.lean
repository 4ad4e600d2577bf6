/-!
# Tools

The programs that are part of the system, which every run can rely on.
-/

set_option autoImplicit false

namespace Hotkeys.Host

/-- A program that is part of the system. -/
inductive Tool where
  /-- The command interpreter. -/
  | shell
  /-- Another interpreter of the same language. -/
  | bash
  /-- Runs a program in a changed environment. -/
  | env
  /-- Prints values of the environment. -/
  | printenv
  /-- Runs a program for a limited time. -/
  | timeout
  /-- Runs a program that is not to disturb others. -/
  | nice
  /-- Runs a program that is not to be disturbed. -/
  | nohup
  /-- Runs a program in a session of its own. -/
  | setsid
  /-- Runs a program with arguments that it reads. -/
  | xargs
  /-- Copies files to its output. -/
  | cat
  /-- Copies files to its output, the last line first. -/
  | tac
  /-- Copies its input to its output and to files. -/
  | tee
  /-- Copies the beginning of files. -/
  | head
  /-- Copies the end of files. -/
  | tail
  /-- Copies lines, each backwards. -/
  | rev
  /-- Copies lines with numbers. -/
  | nl
  /-- Counts lines, words and bytes. -/
  | wc
  /-- Puts lines in order. -/
  | sort
  /-- Drops lines that repeat the one before. -/
  | uniq
  /-- Copies parts of lines. -/
  | cut
  /-- Puts lines of files side by side. -/
  | paste
  /-- Replaces characters. -/
  | tr
  /-- Finds lines. -/
  | grep
  /-- Finds lines that have an extended form. -/
  | egrep
  /-- Finds lines that contain a text. -/
  | fgrep
  /-- Edits lines. -/
  | sed
  /-- Compares files. -/
  | cmp
  /-- Lists files. -/
  | ls
  /-- Copies files to other places. -/
  | cp
  /-- Moves files to other places. -/
  | mv
  /-- Gives a file one more place. -/
  | ln
  /-- Removes files. -/
  | rm
  /-- Makes directories. -/
  | mkdir
  /-- Removes empty directories. -/
  | rmdir
  /-- Makes a file that nobody else uses. -/
  | mktemp
  /-- Makes sure that files are there. -/
  | touch
  /-- Changes the size of files. -/
  | truncate
  /-- Changes what may be done with files. -/
  | chmod
  /-- Finds files. -/
  | find
  /-- Prints the last name of a path. -/
  | basename
  /-- Prints a path without its last name. -/
  | dirname
  /-- Prints the place that a path leads to. -/
  | realpath
  /-- Prints where a link leads. -/
  | readlink
  /-- Prints the place of a program. -/
  | which
  /-- Prints the directory. -/
  | pwd
  /-- Prints numbers. -/
  | seq
  /-- Prints the value of an expression. -/
  | expr
  /-- Prints its arguments. -/
  | echo
  /-- Prints its arguments after a pattern. -/
  | printf
  /-- Prints a line again and again. -/
  | yes
  /-- Prints the name of the user. -/
  | whoami
  /-- Prints the numbers of the user. -/
  | id
  /-- Tests a condition. -/
  | test
  /-- Tests a condition in brackets. -/
  | bracket
  /-- Succeeds. -/
  | true
  /-- Fails. -/
  | false
  /-- Waits. -/
  | sleep
  deriving DecidableEq, Repr

namespace Tool

/-- The names of all tools. -/
def names : List (String × Tool) :=
  [("sh", .shell), ("dash", .shell), ("bash", .bash), ("env", .env), ("printenv", .printenv),
    ("timeout", .timeout), ("nice", .nice), ("nohup", .nohup), ("setsid", .setsid),
    ("xargs", .xargs), ("cat", .cat), ("tac", .tac), ("tee", .tee), ("head", .head),
    ("tail", .tail), ("rev", .rev), ("nl", .nl), ("wc", .wc), ("sort", .sort), ("uniq", .uniq),
    ("cut", .cut), ("paste", .paste), ("tr", .tr), ("grep", .grep), ("egrep", .egrep),
    ("fgrep", .fgrep), ("sed", .sed), ("cmp", .cmp), ("ls", .ls), ("cp", .cp), ("mv", .mv),
    ("ln", .ln), ("rm", .rm), ("mkdir", .mkdir), ("rmdir", .rmdir), ("mktemp", .mktemp),
    ("touch", .touch), ("truncate", .truncate), ("chmod", .chmod), ("find", .find),
    ("basename", .basename), ("dirname", .dirname), ("realpath", .realpath),
    ("readlink", .readlink), ("which", .which), ("pwd", .pwd), ("seq", .seq), ("expr", .expr),
    ("echo", .echo), ("printf", .printf), ("yes", .yes), ("whoami", .whoami), ("id", .id),
    ("test", .test), ("[", .bracket), ("true", .true), ("false", .false), ("sleep", .sleep)]

end Tool

end Hotkeys.Host
