import Graft.Command

/-!
The pages of help.

A page says what it is about and how the command line is made up, and lists commands, operands and
switches in two columns.
-/

namespace Graft.Command

open Text

/-- The name by which the program is called. -/
def programName : String := "kombinator"

/-- The text that tells the version of the program. -/
def versionText : String := s!"{programName} 0.1.0\n"

/-- What a switch does. -/
def Switch.about : Switch → String
  | .help => "Print help"
  | .version => "Print version"
  | .verbose => "Log debug events to stderr (overridden by RUST_LOG)"
  | .recipe => "Recipe TOML file"
  | .root => "Directory recipe paths are relative to (defaults to the recipe's directory)"
  | .dryRun => "Dry run - show what would be changed without modifying files"
  | .diff => "Show unified diff of changes"
  | .tags =>
    let tags := ",".intercalate (Section.defaultTags.map asString)
    s!"Sections to combine, in order [default: {tags}]"
  | .output => "Write here instead of stdout"
  | .json => "Print the parsed recipe as JSON"

/-- A switch by its name, with what follows it. -/
def Switch.longForm (s : Switch) : String :=
  let value := if s.takes = .nothing then "" else s!" <{s.long.toUpper}>"
  s!"--{s.long}{value}"

/-- A switch by its letter and its name, with what follows it. -/
def Switch.spelling (s : Switch) : String :=
  let letter := (s.letter?.map fun l => String.ofList ['-', l, ',', ' ']).getD "    "
  letter ++ s.longForm

/-- What the commands of a kind do. -/
def Kind.about : Kind → String
  | .apply => "Run every mod and combine of a recipe"
  | .check => "Report which recipe entries would change files, without writing"
  | .combine => "Merge the sections of an override document into a source document"
  | .list => "List the entries of a recipe"

namespace Page

def about : Page → String
  | .program => "Structural edits and section merging for component markup"
  | .command kind => kind.about
  | .help => "Print this message or the help of the given subcommand(s)"

/-- How the command line is made up. -/
def usage : Page → String
  | .program => s!"{programName} [OPTIONS] <COMMAND>"
  | .command kind =>
    let recipe := if kind.switches.contains .recipe then [Switch.recipe.longForm] else []
    let operands := kind.operands.map fun name => s!"<{name}>"
    " ".intercalate ([programName, kind.name, "[OPTIONS]"] ++ recipe ++ operands)
  | .help => s!"{programName} help [COMMAND]..."

/-- A heading with what is listed under it, and what is said of each. -/
structure Listing where
  heading : String
  rows : List (String × String)

def switchRows (switches : List Switch) : List (String × String) :=
  switches.map fun s => (s.spelling, s.about)

def listings : Page → List Listing
  | .program =>
    let commands := Kind.all.map fun kind => (kind.name, kind.about)
    [⟨"Commands", commands ++ [("help", Page.help.about)]⟩, ⟨"Options", switchRows programSwitches⟩]
  | .command kind =>
    [⟨"Arguments", kind.operands.map fun name => (s!"<{name}>", "")⟩,
      ⟨"Options", switchRows kind.switches⟩]
  | .help => [⟨"Arguments", [("[COMMAND]...", "Print help for the subcommand(s)")]⟩]

/-- Rows in two columns. -/
def renderRows (rows : List (String × String)) : String :=
  let width := rows.foldl (fun width row => max width row.1.length) 0
  String.join (rows.map fun (left, right) =>
    let gap := "".pushn ' ' (width + 2 - left.length)
    s!"  {left}{gap}{right}\n")

def renderListing (listing : Listing) : String :=
  if listing.rows.isEmpty then "" else s!"\n{listing.heading}:\n{renderRows listing.rows}"

/-- The text of a page. -/
def render (page : Page) : String :=
  s!"{page.about}\n\nUsage: {page.usage}\n{String.join (page.listings.map renderListing)}"

end Page

end Graft.Command
