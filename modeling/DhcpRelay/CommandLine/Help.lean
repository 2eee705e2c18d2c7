import DhcpRelay.CommandLine.Arguments
import DhcpRelay.Text.Lines

/-!
# Help texts

Help is laid out from the tables of options and commands, in two columns.
-/

namespace DhcpRelay.CommandLine

/-- The name of the program. -/
def programName : String := "mvirt-relay"

/-- What the program is. -/
def programAbout : String := "DHCPv4/DHCPv6 relay agent and UDP broadcast forwarder"

/-- Lines of two columns, the second one aligned. -/
def columns (rows : List (String × String)) : List String :=
  let width := (rows.map (·.1.length)).foldl max 0
  rows.map fun (left, right) =>
    let blanks := String.ofList (List.replicate (width - left.length) ' ')
    "  " ++ left ++ blanks ++ "  " ++ right

/-- The name that stands for the value of an option. -/
def placeholder (name : String) : String :=
  String.ofList ((name.toList.map fun char => if char = '-' then '_' else char.toUpper))

/-- The columns of an option. -/
def optionRow (entry : OptionEntry) : String × String :=
  ("    --" ++ entry.name ++ " <" ++ placeholder entry.name ++ ">", entry.help)

/-- The columns of the option that asks for help. -/
def helpRow : String × String := ("-h, --help", "Print help")

/-- What the command that asks for help is. -/
def helpAbout : String := "Print this message or the help of the given subcommand(s)"

/-- The lists of options merged so that those of equal rank stand together, sorted
by name. -/
def mergeOptions : List OptionEntry → List OptionEntry → List OptionEntry
  | first :: rest, other :: others =>
      (if first.name ≤ other.name then [first, other] else [other, first]) ++
        mergeOptions rest others
  | rest, [] => rest
  | [], others => others

/-- The help on one command or on all. -/
def helpText (command : Option CommandEntry) : String :=
  let lines :=
    match command with
    | none =>
        [programAbout, "", "Usage: " ++ programName ++ " [OPTIONS] [COMMAND]", "", "Commands:"] ++
          columns (commands.map (fun (entry : CommandEntry) => (entry.name, entry.about)) ++
            [("help", helpAbout)]) ++
          ["", "Options:"] ++ columns (generalOptions.map optionRow ++ [helpRow])
    | some entry =>
        let operand := match entry.operand with
          | some name => " <" ++ name ++ ">"
          | none => ""
        let arguments := match entry.operand with
          | some name => ["Arguments:"] ++ columns [("<" ++ name ++ ">", "")] ++ [""]
          | none => []
        [entry.about, "", "Usage: " ++ programName ++ " " ++ entry.name ++ " [OPTIONS]" ++ operand,
          ""] ++ arguments ++ ["Options:"] ++
          columns ((mergeOptions entry.options generalOptions).map optionRow ++ [helpRow])
  Text.lines lines

/-- The help on asking for help. -/
def helpOnHelpText : String :=
  Text.lines ([helpAbout, "", "Usage: " ++ programName ++ " help [COMMAND]...", "", "Arguments:"] ++
    columns [("[COMMAND]...", "Print help for the subcommand(s)")])

end DhcpRelay.CommandLine
