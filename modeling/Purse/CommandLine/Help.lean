/-!
# Help pages

A help page says what a command is for and how it is used, and then lists what belongs to it: its commands,
its operands and its parameters. In a list the remarks start in one column.
-/
namespace Purse.CommandLine

structure Help where
  about : String
  usage : List String
  commands : List (String × String) := []
  operands : List (String × String) := []
  parameters : List (String × String) := []
  deriving DecidableEq, Repr

namespace Help

/-- The line of the parameter that asks for help. -/
def forHelp : String × String := ("-h, --help", "Print help")

/-- The line of the parameter that asks for the version. -/
def forVersion : String × String := ("-V, --version", "Print version")

/-- The word that asks for the help page of a command, and its remark. -/
def ofCommands : String × String :=
  ("help", "Print this message or the help of the given subcommand(s)")

/-- A line of a list, with the remark behind the given width. -/
def line (width : Nat) (entry : String × String) : String :=
  "  " ++ entry.1 ++ String.ofList (List.replicate (width - entry.1.length) ' ') ++ "  " ++ entry.2 ++
    "\n"

/-- A list under its heading, behind an empty line. An empty list is left out. -/
def list (heading : String) (entries : List (String × String)) : String :=
  let width := (entries.map fun entry => entry.1.length).foldl max 0
  if entries.isEmpty then ""
  else "\n" ++ heading ++ ":\n" ++ String.join (entries.map (line width))

/-- The text of a help page of the program with the given name. -/
def text (program : String) (h : Help) : String :=
  h.about ++ "\n\nUsage: " ++ " ".intercalate (program :: h.usage) ++ "\n" ++
    list "Commands" h.commands ++ list "Arguments" h.operands ++ list "Options" h.parameters

end Help
end Purse.CommandLine
