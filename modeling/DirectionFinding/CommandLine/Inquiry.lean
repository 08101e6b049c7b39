import DirectionFinding.CommandLine.OptionName

/-!
Questions about the program that a command line can ask in place of a run.
-/
namespace DirectionFinding

inductive Inquiry where
  | help
  | version
  deriving DecidableEq, Repr

namespace Inquiry

def text : Inquiry → String
  | help => "help"
  | version => "version"

def letter : Inquiry → Char
  | help => 'h'
  | version => 'V'

end Inquiry

structure Vocabulary where
  commands : List String
  options : List OptionName
  inquiries : List Inquiry
  deriving DecidableEq, Repr

namespace Vocabulary

def summary (v : Vocabulary) : List String :=
  (v.commands.map fun name => s!"  {name}") ++
  (v.options.map fun option =>
    let letter := match option.letter? with
      | some c => s!"-{c}, "
      | none => "    "
    let value := if option.takesValue then s!" <{option.placeholder}>" else ""
    s!"  {letter}--{option.text}{value}") ++
  v.inquiries.map fun inquiry => s!"  -{inquiry.letter}, --{inquiry.text}"

def answer (v : Vocabulary) : Inquiry → String
  | .help => String.join (v.summary.map (· ++ "\n"))
  | .version => "0.1.0\n"

end Vocabulary

end DirectionFinding
