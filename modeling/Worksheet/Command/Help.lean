import Worksheet.Command.Request
import Worksheet.Text.Case

/-!
# Help and usage messages
-/

namespace Worksheet.Command

def programName : String :=
  "mindgrid"

def versionText : String :=
  programName ++ " 0.1.0\n"

namespace Switch

/-- What a switch is for, where a topic applies. -/
def purpose (topic : Topic) : Switch → String
  | .data => "Dataset file (csv or json); an empty dataset when omitted"
  | .output => "Output CSV file (default: stdout)"
  | .delimiter =>
    if topic = .verb .render then "Field delimiter for CSV input and output [default: ,]"
    else "Field delimiter for CSV input [default: ,]"
  | .noHeader => "CSV input has no header row"
  | .decimals => "Fixed decimals for number columns"
  | .listSeparator => "Separator between list items [default: \", \"]"
  | .now =>
    if topic = .verb .render then "Pin the clock used by TODAY and NOW"
    else "Pin the clock used by TODAY and NOW (YYYY-MM-DD or YYYY-MM-DDTHH:MM:SS)"
  | .maxDepth => "Deepest allowed nesting of function calls"
  | .explain => "Print how the value was produced"
  | .verbose => "Increase log verbosity (-v debug, -vv trace)"
  | .help => "Print help"
  | .version => "Print version"

/-- The long name with the name of the value. -/
def usage (s : Switch) : String :=
  let valueName := upperText (s.longName.map fun c => if c = '-' then '_' else c)
  match s.valueKind? with
  | some _ => s!"--{s.longName} <{valueName}>"
  | none => "--" ++ s.longName ++ (if s.mayRepeat then "..." else "")

/-- The letter and the long name. -/
def heading (s : Switch) : String :=
  match s.letter? with
  | some c => s!"-{c}, {s.usage}"
  | none => "    " ++ s.usage

end Switch

def Verb.purpose : Verb → String
  | .evaluate => "Evaluate one formula against a dataset"
  | .render => "Evaluate every cell and print the display grid as CSV"
  | .functions => "List the built-in functions"

namespace Topic

def purpose : Topic → String
  | .program => "Spreadsheet formula evaluation tool"
  | .verb v => v.purpose
  | .help => "Print this message or the help of the given subcommand(s)"

/-- What follows the name of the program. -/
def usage : Topic → String
  | .program => "[OPTIONS] <COMMAND>"
  | .verb .evaluate => "eval [OPTIONS] <FORMULA>"
  | .verb .render => "render [OPTIONS] <INPUT>"
  | .verb .functions => "functions [OPTIONS]"
  | .help => "help [COMMAND]..."

/-- The words that are no switches, with what they are for. -/
def words : Topic → List (String × String)
  | .program => Verb.all.map (fun v => (v.name, v.purpose)) ++ [("help", Topic.help.purpose)]
  | .verb .evaluate => [("<FORMULA>", "Formula or literal, e.g. \"=SUM(B1:B10)\"")]
  | .verb .render => [("<INPUT>", "Dataset file (csv or json)")]
  | .verb .functions => []
  | .help => [("[COMMAND]...", "Print help for the subcommand(s)")]

end Topic

/-- A text with blanks behind it up to a width. -/
def padded (width : Nat) (s : String) : String :=
  s.pushn ' ' (width - s.length)

/-- Lines in two columns under a title; nothing if there are no lines. -/
def helpSection (title : String) (lines : List (String × String)) : String :=
  let width := (lines.map fun l => l.1.length).foldl max 0
  let body := lines.map fun l => "  " ++ padded width l.1 ++ "  " ++ l.2 ++ "\n"
  if lines = [] then "" else "\n" ++ title ++ ":\n" ++ String.join body

/-- The help on a topic. -/
def helpText (topic : Topic) : String :=
  topic.purpose ++ "\n\nUsage: " ++ programName ++ " " ++ topic.usage ++ "\n" ++
    helpSection (if topic = .program then "Commands" else "Arguments") topic.words ++
    helpSection "Options" (topic.switches.map fun s => (s.heading, s.purpose topic))

namespace UsageError

def message : UsageError → String
  | .noVerb => "a subcommand is required but one was not provided"
  | .noSuchVerb word => s!"unrecognized subcommand '{word}'"
  | .unexpected word => s!"unexpected argument '{word}' found"
  | .noValue s => s!"a value is required for '{s.usage}' but none was supplied"
  | .noValueTaken s => s!"the option '{s.usage}' takes no value"
  | .badValue s value => s!"invalid value '{value}' for '{s.usage}'"
  | .badOperand word => s!"invalid argument '{word}'"
  | .noOperand => "a required argument was not provided"
  | .repeated s => s!"the argument '{s.usage}' cannot be used multiple times"

/-- The message with a hint at the help. -/
def text (e : UsageError) : String :=
  "error: " ++ e.message ++ "\n\nFor more information, try '--help'.\n"

end UsageError

end Worksheet.Command
