import Graft.Command

/-!
The reading of the command line.

Arguments are read from left to right, and the first one that is wrong or asks for help settles the
matter. The value of a switch is the rest of its own argument or, where nothing is left of that, the
argument after it, which must not look like a switch. After two dashes alone come operands only.
-/

namespace Graft.Command

open Text

/-- What an argument is by its looks. -/
inductive Form
  | operand
  | separator
  | long (name : Text) (value : Option Text)
  | letters (ls : Text)
  deriving DecidableEq, Repr

/-- The text before the first equals sign, and what follows the sign if there is one. -/
def splitValue (t : Text) : Text × Option Text :=
  match breakOn? ['='] t with
  | some (name, _ :: value) => (name, some value)
  | _ => (t, none)

def Form.of : Text → Form
  | ['-', '-'] => .separator
  | '-' :: '-' :: rest => .long (splitValue rest).1 (splitValue rest).2
  | '-' :: l :: ls => .letters (l :: ls)
  | _ => .operand

/-- The switches and operands that were given, in reverse order. -/
structure Given where
  switches : List (Switch × Text) := []
  operands : List Text := []
  deriving DecidableEq, Repr

namespace Given

/-- Whether a switch was given. -/
def has (given : Given) (s : Switch) : Bool := given.switches.any (·.1 = s)

/-- The value of a switch. -/
def value? (given : Given) (s : Switch) : Option Text := given.switches.lookup s

/-- The path that a switch was given with. -/
def path? (given : Given) (s : Switch) : Option Path := (given.value? s).map (⟨·⟩)

/-- The values of a switch in the order in which they were given. -/
def values (given : Given) (s : Switch) : List Text :=
  (given.switches.filter (·.1 = s)).reverse.map (·.2)

/-- What was given so far with one more switch, on a line that a page of help explains. -/
def add (page : Page) (given : Given) (s : Switch) (value : Text) : Except Interruption Given :=
  if s = .help then .error (.help page)
  else if s = .version then .error .version
  else if s.takes ≠ .texts ∧ given.has s then .error .usage
  else if s.takes = .path ∧ value.isEmpty then .error .usage
  else .ok { given with switches := (s, value) :: given.switches }

/-- What was given so far with one more operand, of which there may be so many. -/
def addOperand (limit : Nat) (given : Given) (t : Text) : Except Interruption Given :=
  if given.operands.length < limit ∧ !t.isEmpty then
    .ok { given with operands := t :: given.operands }
  else .error .usage

/-- What was given so far with a switch whose value is the next argument, and the arguments after
that. -/
def addNext (page : Page) (given : Given) (s : Switch) :
    List Text → Except Interruption (Given × List Text)
  | [] => .error .usage
  | value :: rest =>
    if Form.of value = .operand then (given.add page s value).map (·, rest) else .error .usage

/-- What was given so far with a switch by its name. -/
def addLong (page : Page) (known : List Switch) (given : Given) (name : Text)
    (value : Option Text) (rest : List Text) : Except Interruption (Given × List Text) :=
  match known.find? fun s => s.long.toList == name with
  | none => .error .usage
  | some s =>
    match s.takes, value with
    | .nothing, some _ => .error .usage
    | .nothing, none => (given.add page s []).map (·, rest)
    | _, some value => (given.add page s value).map (·, rest)
    | _, none => given.addNext page s rest

/-- What was given so far with switches by their letters. The letters after that of a switch with a
value are the value. -/
def addLetters (page : Page) (known : List Switch) (given : Given) (rest : List Text) :
    Text → Except Interruption (Given × List Text)
  | [] => .ok (given, rest)
  | l :: ls =>
    match known.find? fun s => s.letter? = some l with
    | none => .error .usage
    | some s =>
      match s.takes, ls with
      | .nothing, ls =>
        match given.add page s [] with
        | .ok given => addLetters page known given rest ls
        | .error e => .error e
      | _, [] => given.addNext page s rest
      | _, '=' :: value => (given.add page s value).map (·, rest)
      | _, value => (given.add page s value).map (·, rest)

end Given

/-- The switches before the first operand, and the arguments from that on. The number bounds the
arguments. -/
def readLeading : Nat → Given → List Text → Except Interruption (Given × List Text)
  | 0, given, args => .ok (given, args)
  | _, given, [] => .ok (given, [])
  | n + 1, given, arg :: rest =>
    match Form.of arg with
    | .operand => .ok (given, arg :: rest)
    | .separator => .error .usage
    | .long name value => do
      let (given, rest) ← given.addLong .program programSwitches name value rest
      readLeading n given rest
    | .letters ls => do
      let (given, rest) ← given.addLetters .program programSwitches rest ls
      readLeading n given rest

/-- The switches and operands of a command. The number bounds the arguments. -/
def readAll (kind : Kind) : Nat → Given → List Text → Except Interruption Given
  | 0, given, _ => .ok given
  | _, given, [] => .ok given
  | n + 1, given, arg :: rest =>
    let limit := kind.operands.length
    match Form.of arg with
    | .operand => do readAll kind n (← given.addOperand limit arg) rest
    | .separator => rest.foldlM (Given.addOperand limit) given
    | .long name value => do
      let (given, rest) ← given.addLong (.command kind) kind.switches name value rest
      readAll kind n given rest
    | .letters ls => do
      let (given, rest) ← given.addLetters (.command kind) kind.switches rest ls
      readAll kind n given rest

/-- The recipe that a command must be given. -/
def Given.recipe (given : Given) : Except Interruption Path :=
  (given.path? .recipe).elim (.error .usage) .ok

/-- The tags that were given, between commas or one switch after the other. -/
def Given.tags (given : Given) : List Text :=
  if given.has .tags then (given.values .tags).flatMap (splitOn ',') else Section.defaultTags

/-- The command of a kind with what was given to it. -/
def ofGiven (given : Given) : Kind → Except Interruption Command
  | .apply => do
    return .apply (← given.recipe) (given.path? .root) (given.has .dryRun) (given.has .diff)
  | .check => do return .check (← given.recipe) (given.path? .root)
  | .combine =>
    match given.operands with
    | [override, source] => .ok (.combine ⟨source⟩ ⟨override⟩ given.tags (given.path? .output))
    | _ => .error .usage
  | .list => do return .list (← given.recipe) (given.has .json)

/-- The page that help is asked for on, by the names after the word `help`. -/
def pageOf? : List Text → Option Page
  | [] => some .program
  | [name] => if name = "help".toList then some .help else (Kind.ofName? name).map .command
  | _ => none

/-- The command that arguments ask for. -/
def ofArguments (args : List Text) : Except Interruption Command := do
  match (← readLeading args.length {} args).2 with
  | [] => throw .usage
  | name :: rest =>
    if name = "help".toList then throw ((pageOf? rest).elim .usage .help)
    match Kind.ofName? name with
    | none => throw .usage
    | some kind => ofGiven (← readAll kind rest.length {} rest) kind

end Graft.Command
