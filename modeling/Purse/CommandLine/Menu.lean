import Purse.CommandLine.Arguments

/-!
# Menus

A menu is a list of commands, each with a name, and of groups of commands. Every menu also has a word for
help: with further words it shows the help page of the command they lead to. What is read is the command
that a line chooses, with its arguments.
-/
namespace Purse.CommandLine

/-- A command: how it is called, what it takes, and what its arguments make. -/
structure Choice (α : Type) where
  name : String
  about : String
  signature : Signature := {}
  build : Arguments → Option α

/-- Commands under one name. -/
structure Group (α : Type) where
  name : String
  about : String
  choices : List (Choice α)

inductive Branch (α : Type) where
  | choice (choice : Choice α)
  | group (group : Group α)

namespace Choice

/-- The help page of the command behind the given words. -/
def page (path : List String) (c : Choice α) : Help := c.signature.page (path ++ [c.name]) c.about

def read (path : List String) (c : Choice α) (args : List String) : Except Stop α := do
  match c.build (← c.signature.read (c.page path) args) with
  | some a => .ok a
  | none => .error .misuse

/-- What more words after the command's name lead to when help is asked for. -/
def helpOn (path : List String) (c : Choice α) : List String → Stop
  | [] => .help (c.page path)
  | _ :: _ => .misuse

end Choice

/-- The help page of the word for help in the menu behind the given words. -/
def helpOnHelp (path : List String) : List String → Stop
  | [] =>
    .help {
      about := Help.ofCommands.2
      usage := path ++ [Help.ofCommands.1, "[COMMAND]..."]
      operands := [("[COMMAND]...", "Print help for the subcommand(s)")] }
  | _ :: _ => .misuse

namespace Group

def choice? (g : Group α) (name : String) : Option (Choice α) := g.choices.find? (·.name = name)

def page (g : Group α) : Help where
  about := g.about
  usage := [g.name, "<COMMAND>"]
  commands := (g.choices.map fun c => (c.name, c.about)) ++ [Help.ofCommands]
  parameters := [Help.forHelp]

/-- What words lead to when help is asked for. -/
def helpOn (g : Group α) : List String → Stop
  | [] => .help g.page
  | name :: names =>
    if name = Help.ofCommands.1 then helpOnHelp [g.name] names
    else
      match g.choice? name with
      | some c => c.helpOn [g.name] names
      | none => .misuse

def read (g : Group α) : List String → Except Stop α
  | [] => .error .misuse
  | arg :: rest =>
    if arg = Help.ofCommands.1 then .error (g.helpOn rest)
    else
      match g.choice? arg with
      | some c => c.read [g.name] rest
      | none => .error (if asksForHelp arg then .help g.page else .misuse)

end Group

namespace Branch

def name : Branch α → String
  | .choice c => c.name
  | .group g => g.name

def about : Branch α → String
  | .choice c => c.about
  | .group g => g.about

/-- Reads what follows the name. -/
def read : Branch α → List String → Except Stop α
  | .choice c => c.read []
  | .group g => g.read

/-- What words after the name lead to when help is asked for. -/
def helpOn : Branch α → List String → Stop
  | .choice c => c.helpOn []
  | .group g => g.helpOn

end Branch
end Purse.CommandLine
