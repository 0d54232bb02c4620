namespace RegexMachine

/-- What the command line asks for: `verbose` is whether the automaton is shown before the first answer. -/
structure Options where
  verbose : Bool := false
  deriving DecidableEq

/-- How a command line ends the program before the dialogue: with a page, which is the help or the version,
or with a complaint. -/
inductive Ending where
  | page
  | misuse
  deriving DecidableEq

namespace Options

/-- The only flag is given at most once. -/
def setVerbose (options : Options) : Except Ending Options :=
  if options.verbose then .error .misuse else .ok { options with verbose := true }

/-- One letter of an argument that begins with a single hyphen. -/
def readLetter (options : Options) (letter : Char) : Except Ending Options :=
  if letter = 'v' then options.setVerbose
  else if letter = 'h' ∨ letter = 'V' then .error .page
  else .error .misuse

/-- One argument. No flag takes a value, and there is nothing but flags. -/
def readArgument (options : Options) (argument : String) : Except Ending Options :=
  if argument = "--verbose" then options.setVerbose
  else if argument = "--help" ∨ argument = "--version" then .error .page
  else
    match argument.toList with
    | '-' :: '-' :: _ => .error .misuse
    | '-' :: letter :: letters => (letter :: letters).foldlM readLetter options
    | _ => .error .misuse

/-- The arguments in turn, up to the first that ends the program. Behind the mark that no more flags follow
nothing may stand. -/
def read (options : Options) : List String → Except Ending Options
  | [] | ["--"] => .ok options
  | argument :: rest => do (← options.readArgument argument).read rest

def parse (arguments : List String) : Except Ending Options := read {} arguments

end Options

end RegexMachine
