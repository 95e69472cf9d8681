import Purse.CommandLine.Help
import Purse.Numeral

/-!
# Arguments

A command takes parameters that are named, with a value or without one, and perhaps one operand. The value
of a parameter stands after an equals sign or in the next argument, which must not look like a parameter
itself. No parameter may be repeated. After two hyphens everything is an operand. Arguments are read from
left to right, and the first that is wrong, or that asks for help, decides.
-/
namespace Purse.CommandLine

inductive Parameter.Kind where
  | flag
  | text
  | number
  deriving DecidableEq, Repr

/-- A named parameter. Its value may come from a setting, or be the usual one, if it is not given. -/
structure Parameter where
  name : String
  kind : Parameter.Kind := .text
  isRequired : Bool := false
  about : String := ""
  setting? : Option String := none
  usual? : Option String := none
  deriving DecidableEq, Repr

structure Operand where
  name : String
  about : String
  deriving DecidableEq, Repr

structure Signature where
  parameters : List Parameter := []
  operand? : Option Operand := none
  deriving DecidableEq, Repr

/-- Why a line is not carried out: it is no command, or it asks for something about the program. -/
inductive Stop where
  | misuse
  | help (page : Help)
  | version
  deriving DecidableEq, Repr

structure Arguments where
  values : List (String × String) := []
  flags : List String := []
  operand? : Option String := none
  deriving DecidableEq, Repr

namespace Arguments

/-- The value that was given for a parameter. -/
def value? (a : Arguments) (name : String) : Option String := a.values.lookup name

/-- The number that was given for a parameter. -/
def number? (a : Arguments) (name : String) : Option Int := do
  Numeral.word? (← a.value? name).toList

end Arguments

/-- What stands for the value of a parameter in a help page. -/
def placeholder (name : String) : String :=
  "<" ++ name.map (fun c => if c = '-' then '_' else c.toUpper) ++ ">"

namespace Parameter

def spelling (p : Parameter) : String :=
  match p.kind with
  | .flag => "--" ++ p.name
  | _ => "--" ++ p.name ++ " " ++ placeholder p.name

/-- What a help page says about the parameter. -/
def remark (p : Parameter) : String :=
  let setting := p.setting?.map fun name => "[env: " ++ name ++ "=]"
  let usual := p.usual?.map fun value => "[default: " ++ value ++ "]"
  let about := if p.about.isEmpty then [] else [p.about]
  " ".intercalate (about ++ setting.toList ++ usual.toList)

def accepts (p : Parameter) (value : String) : Bool :=
  match p.kind with
  | .flag => false
  | .text => true
  | .number => (Numeral.word? value.toList).isSome

end Parameter

/-- Whether an argument looks like a parameter. A single hyphen does not. -/
def looksLikeParameter (arg : String) : Bool := arg.startsWith "-" && arg ≠ "-"

/-- The name of a parameter, and its value if that stands after an equals sign. -/
def named? (arg : String) : Option (String × Option String) :=
  match arg.toList with
  | '-' :: '-' :: c :: cs =>
    let name := String.ofList ((c :: cs).takeWhile (· ≠ '='))
    match (c :: cs).dropWhile (· ≠ '=') with
    | [] => some (name, none)
    | _ :: value => some (name, some (String.ofList value))
  | _ => none

/-- Whether an argument asks for help. The short form may have anything behind its letter. -/
def asksForHelp (arg : String) : Bool := arg = "--help" || arg.startsWith "-h"

namespace Signature

def parameter? (s : Signature) (name : String) : Option Parameter :=
  s.parameters.find? (·.name = name)

/-- How the command is used, behind its name. -/
def usage (s : Signature) : List String :=
  (if s.parameters.all (·.isRequired) then [] else ["[OPTIONS]"]) ++
    (s.parameters.filter (·.isRequired)).map Parameter.spelling ++
    (s.operand?.map fun operand => placeholder operand.name).toList

/-- The help page of a command that is reached by the given words. -/
def page (s : Signature) (path : List String) (about : String) : Help where
  about
  usage := path ++ s.usage
  operands := (s.operand?.map fun operand => (placeholder operand.name, operand.about)).toList
  parameters := (s.parameters.map fun p => ("    " ++ p.spelling, p.remark)) ++ [Help.forHelp]

def addOperand (s : Signature) (given : Arguments) (operand : String) : Except Stop Arguments :=
  if s.operand?.isSome && given.operand?.isNone then .ok { given with operand? := some operand }
  else .error .misuse

/-- Adds a parameter with its value, if the command takes it and it is new. -/
def addValue (s : Signature) (given : Arguments) (name value : String) : Except Stop Arguments :=
  match s.parameter? name with
  | none => .error .misuse
  | some p =>
    if p.accepts value && (given.value? name).isNone then
      .ok { given with values := given.values ++ [(name, value)] }
    else .error .misuse

def addFlag (given : Arguments) (name : String) : Except Stop Arguments :=
  if given.flags.contains name then .error .misuse
  else .ok { given with flags := given.flags ++ [name] }

/-- Reads arguments, after those that were given already. -/
def readFrom (s : Signature) (page : Help) (given : Arguments) : List String → Except Stop Arguments
  | [] => .ok given
  | arg :: rest =>
    if arg = "--" then rest.foldlM s.addOperand given
    else if asksForHelp arg then .error (.help page)
    else
      match named? arg with
      | some (name, some value) => do s.readFrom page (← s.addValue given name value) rest
      | some (name, none) =>
        match s.parameter? name with
        | none => .error .misuse
        | some p =>
          if p.kind = .flag then do s.readFrom page (← addFlag given name) rest
          else
            match rest with
            | [] => .error .misuse
            | value :: rest =>
              if looksLikeParameter value then .error .misuse
              else do s.readFrom page (← s.addValue given name value) rest
      | none =>
        if looksLikeParameter arg then .error .misuse
        else do s.readFrom page (← s.addOperand given arg) rest

/-- The usual values of parameters that were not given. -/
def usualValues (s : Signature) (given : Arguments) : List (String × String) :=
  s.parameters.filterMap fun p =>
    if (given.value? p.name).isSome then none else p.usual?.map fun value => (p.name, value)

def read (s : Signature) (page : Help) (args : List String) : Except Stop Arguments := do
  let given ← s.readFrom page {} args
  let isThere (p : Parameter) : Bool := !p.isRequired || (given.value? p.name).isSome
  if s.parameters.all isThere && (s.operand?.isNone || given.operand?.isSome) then
    .ok { given with values := given.values ++ s.usualValues given }
  else .error .misuse

end Signature
end Purse.CommandLine
