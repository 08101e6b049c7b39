import DirectionFinding.CommandLine.Inquiry

/-!
Why a command line names no run: it asks a question about the program, or it is misused.
-/
namespace DirectionFinding

inductive UsageFault where
  | asked (inquiry : Inquiry) (vocabulary : Vocabulary)
  | invalidValue (option : OptionName) (value message : String)
  | unknownOption (text : String)
  | unexpectedArgument (text : String)
  | unexpectedValue (name : String)
  | missingValue (option : OptionName)
  | repeated (option : OptionName)
  | missingCommand
  | missingOption (option : OptionName)
  | missingOutput
  deriving DecidableEq, Repr

def styled (style text : String) : String :=
  style ++ text ++ "\x1b[0m"

/-- What is shown of a misuse, with the control sequences of a terminal in it. Only a refused value
is explained. -/
def UsageFault.styledText : UsageFault → String
  | invalidValue option value message =>
    let name := s!"--{option.text} <{option.placeholder}>"
    styled "\x1b[1m\x1b[31m" "error:" ++ " invalid value '" ++ styled "\x1b[33m" value ++
      "' for '" ++ styled "\x1b[1m" name ++ "': " ++ message ++
      "\n\nFor more information, try '" ++ styled "\x1b[1m" "--help" ++ "'.\n"
  | _ => ""

end DirectionFinding
