import Graft.Section.Combine
import Graft.Path

/-!
The commands of the program, and what each takes from the command line.

A switch begins with dashes, an operand does not. The program has switches of its own, which stand
before the name of a command; the switches of a command stand after its name.
-/

namespace Graft

open Text

/-- What the program is asked to do. -/
inductive Command
  | apply (recipe : Path) (root : Option Path) (dry diff : Bool)
  | check (recipe : Path) (root : Option Path)
  | combine (source override : Path) (tags : List Text) (output : Option Path)
  | list (recipe : Path) (asData : Bool)
  deriving DecidableEq, Repr

namespace Command

/-- The kinds of commands. -/
inductive Kind
  | apply
  | check
  | combine
  | list
  deriving DecidableEq, Repr

/-- The switches of the command line. -/
inductive Switch
  | help
  | version
  | verbose
  | recipe
  | root
  | dryRun
  | diff
  | tags
  | output
  | json
  deriving DecidableEq, Repr

/-- What follows a switch: nothing, a path, or texts between commas. Only a switch with texts may be
given more than once. -/
inductive Takes
  | nothing
  | path
  | texts
  deriving DecidableEq, Repr

namespace Switch

/-- The name that follows two dashes. -/
def long : Switch → String
  | .help => "help"
  | .version => "version"
  | .verbose => "verbose"
  | .recipe => "recipe"
  | .root => "root"
  | .dryRun => "dry-run"
  | .diff => "diff"
  | .tags => "tags"
  | .output => "output"
  | .json => "json"

/-- The letter that follows one dash. -/
def letter? : Switch → Option Char
  | .help => some 'h'
  | .version => some 'V'
  | .verbose => some 'v'
  | .recipe => some 'r'
  | .dryRun => some 'n'
  | .diff => some 'd'
  | .tags => some 't'
  | .output => some 'o'
  | .root | .json => none

def takes : Switch → Takes
  | .recipe | .root | .output => .path
  | .tags => .texts
  | .help | .version | .verbose | .dryRun | .diff | .json => .nothing

end Switch

namespace Kind

def all : List Kind := [.apply, .check, .combine, .list]

def name : Kind → String
  | .apply => "apply"
  | .check => "check"
  | .combine => "combine"
  | .list => "list"

/-- The kind with a name. -/
def ofName? (t : Text) : Option Kind := all.find? fun kind => kind.name.toList == t

/-- The switches of the commands of a kind, in the order in which they are listed. -/
def switches : Kind → List Switch
  | .apply => [.recipe, .verbose, .root, .dryRun, .diff, .help]
  | .check => [.recipe, .verbose, .root, .help]
  | .combine => [.tags, .verbose, .output, .help]
  | .list => [.recipe, .verbose, .json, .help]

/-- The names of the operands of the commands of a kind. All of them must be given. -/
def operands : Kind → List String
  | .combine => ["SOURCE", "OVERRIDE"]
  | .apply | .check | .list => []

end Kind

/-- The switches that stand before a command, in the order in which they are listed. -/
def programSwitches : List Switch := [.verbose, .help, .version]

/-- A page of help. -/
inductive Page
  | program
  | command (kind : Kind)
  | help
  deriving DecidableEq, Repr

/-- What takes the place of a command: a command line that is wrong, or one that asks about the
program. -/
inductive Interruption
  | usage
  | help (page : Page)
  | version
  deriving DecidableEq, Repr

end Command

end Graft
