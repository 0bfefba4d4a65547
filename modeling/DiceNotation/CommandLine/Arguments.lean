import DiceNotation.Number.Loose

/-!
# Command-line arguments

Options start with one or two hyphens; a value follows its option as the next argument, after an equals sign,
or right after a short option. Short options without a value may be written together. After two hyphens alone,
every argument stands for itself.
-/

set_option autoImplicit false

namespace DiceNotation.CommandLine

/-- An option of a command. -/
structure OptionSpec where
  long : Text
  short : Option Char := none
  takesValue : Bool := false
  deriving DecidableEq, Repr

/-- An option that was given, by its long name, with its value if it takes one. -/
structure Given where
  long : Text
  value : Text := []
  deriving DecidableEq, Repr

/-- The arguments of a command taken apart. -/
structure Parsed where
  options : List Given := []
  operands : List Text := []
  deriving DecidableEq, Repr

/-- The value given last for an option. -/
def Parsed.value? (parsed : Parsed) (long : Text) : Option Text :=
  (parsed.options.reverse.find? (·.long == long)).map (·.value)

def Parsed.has (parsed : Parsed) (long : Text) : Bool :=
  parsed.options.any (·.long == long)

/-- The options that one argument gives, and whether the next argument is the value of the last one. -/
structure Reading where
  options : List Given
  awaits : Option Text := none
  deriving DecidableEq, Repr

/-- The short options written together in one argument. What follows an option with a value is its value. -/
def readShort? (specs : List OptionSpec) : Text → Option Reading
  | [] => some { options := [] }
  | char :: rest => do
      let spec ← specs.find? fun spec => spec.short == some char
      if spec.takesValue then
        if rest.isEmpty then return { options := [], awaits := some spec.long }
        else return { options := [{ long := spec.long, value := rest }] }
      else
        let later ← readShort? specs rest
        return { later with options := { long := spec.long } :: later.options }

/-- A long option; only an option that takes a value may have one after an equals sign. -/
def readLong? (spec : OptionSpec) (attached : Option Text) : Option Reading :=
  match spec.takesValue, attached with
  | true, some value => some { options := [{ long := spec.long, value }] }
  | true, none => some { options := [], awaits := some spec.long }
  | false, none => some { options := [{ long := spec.long }] }
  | false, some _ => none

/-- An argument that starts with a hyphen and has more to it. -/
def readOption? (specs : List OptionSpec) (argument : Text) : Option Reading :=
  let name := argument.takeWhile (· != '=')
  let attached := if argument.contains '=' then some (argument.drop (name.length + 1)) else none
  match specs.find? fun spec => Text.of "--" ++ spec.long == name with
  | some spec => readLong? spec attached
  | none =>
      if (Text.of "--").isPrefixOf argument then none
      else readShort? specs argument.tail

/-- Whether an argument gives options; a hyphen alone is an operand. -/
def isOption (argument : Text) : Bool :=
  argument.head? == some '-' && 1 < argument.length

/-- Takes arguments apart. Unless options may come after operands, the first operand ends the options. -/
def parse? (specs : List OptionSpec) (interspersed : Bool) : List Text → Option Parsed
  | [] => some {}
  | argument :: rest =>
      if argument == Text.of "--" then some { operands := rest }
      else if isOption argument then do
        let reading ← readOption? specs argument
        match reading.awaits, rest with
        | none, rest =>
            let later ← parse? specs interspersed rest
            return { later with options := reading.options ++ later.options }
        | some _, [] => none
        | some long, value :: rest =>
            let later ← parse? specs interspersed rest
            return { later with options := reading.options ++ { long, value } :: later.options }
      else if interspersed then do
        let later ← parse? specs interspersed rest
        return { later with operands := argument :: later.operands }
      else some { operands := argument :: rest }

/-- A whole number that is at least one, given as the value of an option. -/
def positive? (value : Text) : Option Int :=
  match LooseNumeral.read value with
  | .ok number => if 1 ≤ number then some number else none
  | .error _ => none

end DiceNotation.CommandLine
