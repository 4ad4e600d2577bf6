import Hotkeys.Engine.InMemory
import Hotkeys.Engine.Run
import Hotkeys.Engine.Serving
import Hotkeys.Main
import Hotkeys.Proofs.X11.Locks
import Hotkeys.Proofs.X11.Registry
import Hotkeys.Proofs.X11.Requests
import Hotkeys.Proofs.X11.Runs
import Hotkeys.Proofs.X11.Dispatch
import Hotkeys.Proofs.X11.Holding
import Hotkeys.Proofs.X11.Bindings
import Hotkeys.Proofs.Engine.Calls
import Hotkeys.Proofs.Engine.Sessions
import Hotkeys.Proofs.Engine.Serving
import Hotkeys.Proofs.Engine.Courses
import Hotkeys.Proofs.Text.Utf8
import Hotkeys.Proofs.Text.Lines
import Hotkeys.Proofs.Config.Parts
import Hotkeys.Proofs.Config.Braces
import Hotkeys.Proofs.Config.Scanning
import Hotkeys.Proofs.Config.Cutting
import Hotkeys.Proofs.Config.Tokens
import Hotkeys.Proofs.Config.Alternatives
import Hotkeys.Proofs.Config.Candidates
import Hotkeys.Proofs.Config.Expanded
import Hotkeys.Proofs.Config.Firsts
import Hotkeys.Proofs.Text.Pieces
import Hotkeys.Proofs.Text.Trimming
import Hotkeys.Proofs.Text.Ascii
import Hotkeys.Proofs.Text.Lowering
import Hotkeys.Proofs.Text.Numerals
import Hotkeys.Proofs.Config.Sections
import Hotkeys.Proofs.Config.Pairing
import Hotkeys.Proofs.Keys.Analysis
import Hotkeys.Proofs.Keys.Names
import Hotkeys.Proofs.Keys.Lookup
import Hotkeys.Proofs.Keys.Rereading
import Hotkeys.Proofs.Config.Normalizing
import Hotkeys.Proofs.Config.Grabbed
import Hotkeys.Proofs.Config.Failing
import Hotkeys.Proofs.Config.Outlines
import Hotkeys.Proofs.Config.Compiling
import Hotkeys.Proofs.Config.Appending
import Hotkeys.Proofs.Engine.Registering
import Hotkeys.Proofs.CommandLine.HandedOn
import Hotkeys.Proofs.Engine.Detaching
import Hotkeys.Proofs.Config.Groups
import Hotkeys.Proofs.Config.Commands
import Hotkeys.Proofs.Config.Ordering
import Hotkeys.Proofs.Keys.Grammar
import Hotkeys.Proofs.Text.Slices
import Hotkeys.Proofs.Config.Carets
import Hotkeys.Proofs.Loops
import Hotkeys.Proofs.Config.Cursor
import Hotkeys.Proofs.Config.CursorLines
import Hotkeys.Proofs.Config.Lexing
import Hotkeys.Proofs.Config.Odometer
import Hotkeys.Proofs.Config.Checked
import Hotkeys.Proofs.Config.Unfailing
import Hotkeys.Proofs.X11.KeyCodes
import Hotkeys.Proofs.Config.Shapes
import Hotkeys.Proofs.Text.Escapes
import Hotkeys.Proofs.Config.Templates
import Hotkeys.Proofs.Config.Markings
import Hotkeys.Proofs.Config.Stripping
import Hotkeys.Proofs.Config.Collapsing
