/-
  SyncFleet/CommandLine/Outcome.lean
  ==================================
  **What an invocation of the program comes to.**

  Every request needs a valid configuration, and every request but the list
  needs all enabled descriptors to describe jobs of different names.  The
  configuration has been looked for before: what came of it is given.
-/
import SyncFleet.CommandLine.Invocation
import SyncFleet.Config.Reading
import SyncFleet.Fleet.Completion

namespace SyncFleet.CommandLine

/-! ### The pages of help

A page says what a command is for and how it is written, and then lists what
it takes: commands, operands and options, each list in two columns. -/

/-- The name under which the program is called. -/
def programName : String := "msync"

/-- The version of the program. -/
def programVersion : String := "0.1.0"

/-- A list of a page: a title, and terms with what is said about them. -/
structure HelpList where
  title : String
  entries : List (String × String)

namespace HelpList

/-- A line that begins with a term of some width. -/
def line (width : Nat) (term description : String) : String :=
  let gap := String.ofList (List.replicate (width + 2 - term.length) ' ')
  "  " ++ term ++ gap ++ description ++ "\n"

/-- The text of a list, behind a blank line; the second column begins behind the longest term. -/
def render (l : HelpList) : String :=
  let width := (l.entries.map fun e => e.1.length).foldl max 0
  "\n" ++ l.title ++ ":\n" ++ String.join (l.entries.map fun e => line width e.1 e.2)

end HelpList

/-! ### Options -/

def configOption : String × String :=
  ("-c, --config <CONFIG>", "Path to the configuration file [default: " ++ defaultConfig ++ "]")

def addressOption : String × String :=
  ("    --address <ADDRESS>", "Override the API listen address (e.g. \":7001\")")

def helpOption : String × String := ("-h, --help", "Print help")

def versionOption : String × String := ("-V, --version", "Print version")

/-! ### Pages -/

namespace Topic

/-- What the program or a command is for. -/
def purpose : Topic → String
  | .program => "A scheduler that keeps a fleet of mirror synchronization jobs up to date"
  | .run => "Run the manager and its JSON API"
  | .validate => "Validate the configuration without running"
  | .list => "List all configured repos"
  | .trigger => "Run one repo's sync once and wait for it to finish"
  | .help => "Print this message or the help of the given subcommand(s)"

/-- How the program or a command is written, behind the program's name. -/
def pattern : Topic → String
  | .program => "[OPTIONS] <COMMAND>"
  | .run => "run [OPTIONS]"
  | .validate => "validate [OPTIONS]"
  | .list => "list [OPTIONS]"
  | .trigger => "trigger [OPTIONS] <NAME>"
  | .help => "help [COMMAND]..."

/-- The lists of a page. -/
def lists : Topic → List HelpList
  | .program =>
    [⟨"Commands", commands.map fun (name, topic) => (name, topic.purpose)⟩,
      ⟨"Options", [configOption, helpOption, versionOption]⟩]
  | .run => [⟨"Options", [addressOption, configOption, helpOption]⟩]
  | .validate | .list => [⟨"Options", [configOption, helpOption]⟩]
  | .trigger =>
    [⟨"Arguments", [("<NAME>", "Repo name")]⟩, ⟨"Options", [configOption, helpOption]⟩]
  | .help => [⟨"Arguments", [("[COMMAND]...", "Print help for the subcommand(s)")]⟩]

/-- The usage line of a page. -/
def usage (t : Topic) : String := "Usage: " ++ programName ++ " " ++ t.pattern ++ "\n"

/-- The text of a page. -/
def page (t : Topic) : String :=
  t.purpose ++ "\n\n" ++ t.usage ++ String.join (t.lists.map HelpList.render)

end Topic

namespace Interruption

/-- What an interruption shows on the output. -/
def text : Interruption → String
  | .help topic => topic.page
  | .version => programName ++ " " ++ programVersion ++ "\n"
  | .misuse => ""

/-- The exit code of an interruption. -/
def code : Interruption → Nat
  | .misuse => 2
  | _ => 0

end Interruption

/-! ### Outcomes -/

/-- What an invocation comes to. -/
inductive Outcome where
  /-- the program ends with an exit code and has written something -/
  | exited (code : Nat) (output : String)
  /-- the program serves a fleet and listens on an address until it is told to end -/
  | serving (config : Config) (address : String)

namespace Outcome

/-- The outcome of an invocation that fails. -/
def failed : Outcome := .exited 1 ""

/-- The outcome of an invocation that succeeds in silence. -/
def succeeded : Outcome := .exited 0 ""

end Outcome

/-! ### The list -/

/-- The paragraph on a job. -/
def paragraph (d : Descriptor) : String :=
  let line := fun (key value : String) => "  " ++ key ++ ": " ++ value ++ "\n"
  "Name: " ++ d.label ++ "\n"
    ++ line "Type" (d.kind?.getD "<missing>")
    ++ line "Interval" (String.ofList (Decimal.natText d.interval) ++ "s")
    ++ ((d.path?.map (line "Path")).getD "")
    ++ (if d.isDisabled then line "Disabled" "true" else "")
    ++ (if d.isHidden then line "Hidden" "true" else "")
    ++ "\n"

/-- The list of the jobs of a configuration, in the order of the file. -/
def listing (c : Config) : String :=
  if c.repos.isEmpty then "No repos configured\n"
  else "Repos:\n\n" ++ String.join (c.repos.map paragraph)

/-! ### Addresses -/

/-- The port that a text spells. -/
def port? (text : List Char) : Option Nat :=
  let digits := match text with
    | '+' :: ds => ds
    | ds => ds
  (Decimal.natOfText? digits).filter (· < UInt16.size)

/-- Whether a name or a number stands for an interface of this computer. -/
def isOwnHost (host : String) : Bool :=
  host = "localhost" ||
    match (host.splitOn ".").map String.toNat? with
    | [some a, some b, some c, some d] =>
      [a, b, c, d].all (· < 256) && (a = 127 || [a, b, c, d].all (· = 0))
    | _ => false

/-- Whether the program can listen on an address, which is a host and a port. -/
def canListen (address : String) : Bool :=
  let reversed := address.toList.reverse
  let port := (reversed.takeWhile (· != ':')).reverse
  let host := String.ofList ((reversed.dropWhile (· != ':')).drop 1).reverse
  (port? port).isSome && isOwnHost host

/-! ### Requests -/

/-- What running a job comes to.  There is nothing to run for a job that is looked after
    elsewhere. -/
def completion (machine : Command → Ending) (specs : List JobSpec) (job : String) : Outcome :=
  match specs.find? (·.name = job) with
  | none => .failed
  | some s =>
    if s.external then .succeeded
    else if (s.execution (s.attempt machine Hook.standard)).succeeded then .succeeded
    else .failed

/-- What a request about a configuration comes to, on a machine that says how commands end. -/
def Request.execute (machine : Command → Ending) (c : Config) : Request → Outcome
  | .list => .exited 0 (listing c)
  | .validate =>
    match jobsOfDescriptors c.repos with
    | .error _ => .failed
    | .ok _ => .succeeded
  | .trigger job =>
    match jobsOfDescriptors c.repos with
    | .error _ => .failed
    | .ok specs => completion machine specs job
  | .run address =>
    let address := bindAddress (address.getD c.address)
    match jobsOfDescriptors c.repos with
    | .error _ => .failed
    | .ok _ => if canListen address then .serving c address else .failed

/-- What an invocation comes to, from what came of looking for its configuration. -/
def Invocation.execute (machine : Command → Ending) (i : Invocation)
    (found : Except ConfigError Config) : Outcome :=
  match found with
  | .error _ => .failed
  | .ok c => i.request.execute machine c

/-- What the words of a command line come to. -/
def outcomeOf (machine : Command → Ending) (load : String → Except ConfigError Config)
    (words : List String) : Outcome :=
  match Invocation.ofWords words with
  | .error i => .exited i.code i.text
  | .ok i => i.execute machine (load i.config)

end SyncFleet.CommandLine
