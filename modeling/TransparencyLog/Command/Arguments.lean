namespace TransparencyLog.Command

/-- An option: its long name, its short letter if it has one, and whether a value follows it. -/
structure OptionForm where
  long : String
  short : Option Char
  takesValue : Bool
deriving DecidableEq, Repr

/-- Where operands may stand: among the options, or only after them. -/
inductive Operands
  | anywhere
  | last
deriving DecidableEq, Repr

inductive UsageFault
  | unknownOption (name : String)
  | valueMissing (name : String)
  | valueForbidden (name : String)
deriving DecidableEq, Repr

/-- Arguments taken apart; the values stand under the long names, in order. -/
structure Arguments where
  values : List (String × String)
  flags : List String
  operands : List String
deriving DecidableEq, Repr

namespace Arguments

def empty : Arguments := ⟨[], [], []⟩

def addValue (name value : String) (arguments : Arguments) : Arguments :=
  { arguments with values := (name, value) :: arguments.values }

def addFlag (name : String) (arguments : Arguments) : Arguments :=
  { arguments with flags := name :: arguments.flags }

def addOperand (operand : String) (arguments : Arguments) : Arguments :=
  { arguments with operands := operand :: arguments.operands }

def value? (arguments : Arguments) (name : String) : Option String :=
  (arguments.values.reverse.lookup name)

def hasFlag (arguments : Arguments) (name : String) : Bool :=
  arguments.flags.contains name

/-- What an argument that starts with a dash says. -/
inductive Reading
  | flag (name : String)
  | value (name value : String)
  | valueFollows (name : String)

def readShort (forms : List OptionForm) (argument : List Char) : Except UsageFault Reading :=
  match argument with
  | _ :: letter :: rest =>
      match forms.find? fun form => decide (form.short = some letter) with
      | none => .error (.unknownOption (String.ofList ['-', letter]))
      | some form =>
          if rest.isEmpty then .ok (.valueFollows form.long)
          else .ok (.value form.long (String.ofList rest))
  | _ => .error (.unknownOption (String.ofList argument))

def readOption (forms : List OptionForm) (argument : String) : Except UsageFault Reading :=
  let cs := argument.toList
  let name := String.ofList (cs.takeWhile (· ≠ '='))
  match forms.find? fun form => decide (form.long = name) with
  | some form =>
      match form.takesValue, cs.dropWhile (· ≠ '=') with
      | true, _ :: value => .ok (.value form.long (String.ofList value))
      | true, [] => .ok (.valueFollows form.long)
      | false, _ :: _ => .error (.valueForbidden form.long)
      | false, [] => .ok (.flag form.long)
  | none =>
      if cs.take 2 = ['-', '-'] then .error (.unknownOption name) else readShort forms cs

def parse (forms : List OptionForm) (operands : Operands) :
    List String → Except UsageFault Arguments
  | [] => .ok empty
  | argument :: rest =>
      if argument = "--" then .ok { empty with operands := rest }
      else if argument.toList.head? = some '-' ∧ 1 < argument.length then
        match readOption forms argument with
        | .error fault => .error fault
        | .ok (.flag name) => addFlag name <$> parse forms operands rest
        | .ok (.value name value) => addValue name value <$> parse forms operands rest
        | .ok (.valueFollows name) =>
            match rest with
            | [] => .error (.valueMissing name)
            | value :: rest => addValue name value <$> parse forms operands rest
      else
        match operands with
        | .anywhere => addOperand argument <$> parse forms operands rest
        | .last => .ok { empty with operands := argument :: rest }

end Arguments

end TransparencyLog.Command
