/-!
# Arguments

Options stand in front of the operands.  A value follows its option as the next
argument, or is attached to it, and starts with a hyphen only if it is attached.
-/

namespace ProgramGuide.CommandLine

inductive OptionKind where
  | flag
  | value (accepts : String → Bool)

structure OptionRule where
  name : String
  letter : Option Char
  repeatable : Bool
  kind : OptionKind

inductive Stop where
  | usage | help | version
  deriving DecidableEq, Repr

abbrev Given := List (String × String)

def Given.values (given : Given) (name : String) : List String :=
  (given.filter (·.1 == name)).map (·.2)

def Given.value? (given : Given) (name : String) : Option String := given.lookup name

inductive Form where
  | terminator
  | long (name : String) (attached : Option String)
  | short (letter : Char) (attached : Option String)
  | operand
  deriving DecidableEq, Repr

/-- What is attached to the letter of an option, with or without an equals sign. -/
def attachedTo : List Char → Option String
  | [] => none
  | '=' :: cs => some (String.ofList cs)
  | cs => some (String.ofList cs)

def Form.of (argument : String) : Form :=
  match argument.toList with
  | ['-', '-'] => .terminator
  | '-' :: '-' :: cs =>
      let name := cs.takeWhile (· != '=')
      .long (String.ofList name)
        (if name.length == cs.length then none
         else some (String.ofList (cs.drop (name.length + 1))))
  | '-' :: c :: cs => .short c (attachedTo cs)
  | _ => .operand

def record (rule : OptionRule) (value : String) (given : Given) : Except Stop Given :=
  let fits :=
    match rule.kind with
    | .flag => true
    | .value accepts => accepts value
  if fits && (rule.repeatable || (given.value? rule.name).isNone) then
    .ok (given ++ [(rule.name, value)])
  else .error .usage

def option? (rules : List OptionRule) : Form → Option (OptionRule × Option String)
  | .long name attached => (rules.find? (·.name == name)).map fun rule => (rule, attached)
  | .short letter attached =>
      (rules.find? (·.letter == some letter)).map fun rule => (rule, attached)
  | _ => none

/-- Reads options up to the first operand.  Requests for help and for the version are
met at once. -/
def scan (rules : List OptionRule) (hasVersion : Bool) (given : Given) :
    List String → Except Stop (Given × List String)
  | [] => .ok (given, [])
  | argument :: rest =>
      match Form.of argument with
      | .operand => .ok (given, argument :: rest)
      | .terminator => if rest.isEmpty then .ok (given, []) else .error .usage
      | .long "help" none | .short 'h' _ => .error .help
      | form =>
          if hasVersion && isVersion form then .error .version
          else
            match option? rules form with
            | none => .error .usage
            | some (rule, attached) =>
                match rule.kind, attached, rest with
                | .flag, none, rest =>
                    (record rule "" given).bind fun given => scan rules hasVersion given rest
                | .flag, some _, _ => .error .usage
                | .value _, some value, rest =>
                    (record rule value given).bind fun given =>
                      scan rules hasVersion given rest
                | .value _, none, [] => .error .usage
                | .value _, none, value :: rest =>
                    if Form.of value == .operand then
                      (record rule value given).bind fun given =>
                        scan rules hasVersion given rest
                    else .error .usage
where
  isVersion : Form → Bool
    | .long "version" none | .short 'V' _ => true
    | _ => false

end ProgramGuide.CommandLine
