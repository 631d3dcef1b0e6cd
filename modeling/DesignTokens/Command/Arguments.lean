/-!
# Arguments of a command line

Arguments are options and operands. An option is written by its long name, with its
value after an equals sign or in the next argument, or by its letter, with its value
in the rest of the argument or in the next one; letters without values may share an
argument. Two hyphens alone end the options.
-/

namespace DesignTokens.Command

/-- An option that a command line may hold. -/
structure Switch where
  name : String
  letter : Option Char
  takesValue : Bool
  deriving DecidableEq, Repr

/-- Why a command line is refused. -/
inductive UsageFault where
  | unknownOption (text : String)
  | missingValue (name : String)
  | unexpectedValue (name : String)
  | missingCommand
  | unknownCommand (name : String)
  | missingOperand (name : String)
  | extraOperands (operands : List String)
  deriving DecidableEq, Repr

/-- The wording of a fault. -/
def UsageFault.message : UsageFault → String
  | .unknownOption text => "No such option: " ++ text
  | .missingValue name => "Option '" ++ name ++ "' requires an argument."
  | .unexpectedValue name => "Option '" ++ name ++ "' does not take a value."
  | .missingCommand => "Missing command."
  | .unknownCommand name => "No such command '" ++ name ++ "'."
  | .missingOperand name => "Missing argument '" ++ name ++ "'."
  | .extraOperands operands =>
    "Got unexpected extra argument(s) (" ++ " ".intercalate operands ++ ")"

/-- The options of one argument by name, and the name of an option that still awaits
its value. -/
structure OptionReading where
  given : List (String × String)
  awaiting : Option String

/-- The reading of one option and of a value that may follow it. -/
def Switch.reading (switch : Switch) (value : Option String) :
    Except UsageFault OptionReading :=
  match switch.takesValue, value with
  | true, some text => .ok ⟨[(switch.name, text)], none⟩
  | true, none => .ok ⟨[], some switch.name⟩
  | false, none => .ok ⟨[(switch.name, "")], none⟩
  | false, some _ => .error (.unexpectedValue switch.name)

/-- Read an option that is written by its long name. -/
def readLong (switches : List Switch) (text : List Char) : Except UsageFault OptionReading :=
  let name := String.ofList (text.takeWhile (· ≠ '='))
  match switches.find? fun switch => switch.name = name with
  | none => .error (.unknownOption name)
  | some switch =>
    match text.dropWhile (· ≠ '=') with
    | [] => switch.reading none
    | _ :: value => switch.reading (some (String.ofList value))

/-- Read options that are written by their letters. -/
def readLetters (switches : List Switch) : List Char → Except UsageFault OptionReading
  | [] => .ok ⟨[], none⟩
  | letter :: rest =>
    match switches.find? fun switch => switch.letter = some letter with
    | none => .error (.unknownOption (String.ofList ['-', letter]))
    | some switch =>
      if switch.takesValue then
        switch.reading (if rest = [] then none else some (String.ofList rest))
      else do
        let reading ← readLetters switches rest
        .ok { reading with given := (switch.name, "") :: reading.given }

/-- Arguments sorted into options and operands, each in their order. -/
structure SortedArguments where
  options : List (String × String)
  operands : List String

namespace SortedArguments

/-- The last value that an option is given. -/
def value? (name : String) (sorted : SortedArguments) : Option String :=
  (sorted.options.reverse.find? fun entry => entry.1 = name).map Prod.snd

/-- Whether an option is given. -/
def has (name : String) (sorted : SortedArguments) : Bool :=
  (sorted.value? name).isSome

/-- More options in front of the others. -/
def withOptions (given : List (String × String)) (sorted : SortedArguments) :
    SortedArguments :=
  { sorted with options := given ++ sorted.options }

/-- One more operand in front of the others. -/
def withOperand (operand : String) (sorted : SortedArguments) : SortedArguments :=
  { sorted with operands := operand :: sorted.operands }

end SortedArguments

/-- Sort arguments into options and operands. Where options do not mix with operands,
everything from the first operand on is one. An option that awaits its value takes the
next argument, whatever it is. -/
def sortArguments (switches : List Switch) (mixed : Bool) (awaiting : Option String) :
    List String → Except UsageFault SortedArguments
  | [] =>
    match awaiting with
    | some name => .error (.missingValue name)
    | none => .ok ⟨[], []⟩
  | argument :: rest =>
    match awaiting with
    | some name => do
      let sorted ← sortArguments switches mixed none rest
      .ok (sorted.withOptions [(name, argument)])
    | none =>
      match argument.toList with
      | ['-', '-'] => .ok ⟨[], rest⟩
      | '-' :: '-' :: _ => do
        let reading ← readLong switches argument.toList
        let sorted ← sortArguments switches mixed reading.awaiting rest
        .ok (sorted.withOptions reading.given)
      | '-' :: letter :: letters => do
        let reading ← readLetters switches (letter :: letters)
        let sorted ← sortArguments switches mixed reading.awaiting rest
        .ok (sorted.withOptions reading.given)
      | _ =>
        if mixed then do
          let sorted ← sortArguments switches mixed none rest
          .ok (sorted.withOperand argument)
        else .ok ⟨[], argument :: rest⟩

end DesignTokens.Command
