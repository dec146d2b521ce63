import ReversePolish.Calculator

set_option autoImplicit false

namespace ReversePolish.CommandLine

structure Settings where
  strict : Bool
  forgetful : Bool
  historyPath : Option String
  verbosity : Nat
  deriving DecidableEq, Repr

def Settings.default : Settings := ⟨false, false, none, 0⟩

def Settings.calculator (s : Settings) : Calculator :=
  if s.strict then Calculator.strict else Calculator.lenient

inductive Request where
  | help
  | version
  | refused
  | single (settings : Settings) (expression : String)
  | prompt (settings : Settings)
  deriving DecidableEq, Repr

inductive Switch where
  | strict
  | forgetful
  | history
  | verbose
  | version
  | help
  deriving DecidableEq, Repr

def Switch.ofName? (name : List Char) : Option Switch :=
  if name = "strict".toList then some .strict
  else if name = "no-history".toList then some .forgetful
  else if name = "history".toList then some .history
  else if name = "verbose".toList then some .verbose
  else if name = "version".toList then some .version
  else if name = "help".toList then some .help
  else none

def Switch.ofLetter? : Char → Option Switch
  | 'v' => some .verbose
  | 'V' => some .version
  | 'h' => some .help
  | _ => none

inductive Argument where
  | endOfOptions
  | switches (list : List Switch)
  | assigned (switch : Switch) (value : String)
  | operand
  deriving DecidableEq, Repr

def Argument.ofName (text : List Char) : Argument :=
  match Switch.ofName? (text.takeWhile (· ≠ '=')), text.dropWhile (· ≠ '=') with
  | none, _ => .operand
  | some switch, [] => .switches [switch]
  | some switch, _ :: value => .assigned switch (String.ofList value)

def Argument.ofLetters (letters : List Char) : Argument :=
  match letters.mapM Switch.ofLetter? with
  | none => .operand
  | some [] => .operand
  | some list => .switches list

def Argument.read (argument : String) : Argument :=
  match argument.toList with
  | ['-', '-'] => .endOfOptions
  | '-' :: '-' :: name => .ofName name
  | '-' :: letters => .ofLetters letters
  | _ => .operand

def Settings.turn (s : Settings) : Switch → Except Request Settings
  | .strict => if s.strict then .error .refused else .ok { s with strict := true }
  | .forgetful => if s.forgetful then .error .refused else .ok { s with forgetful := true }
  | .history => .error .refused
  | .verbose => .ok { s with verbosity := s.verbosity + 1 }
  | .version => .error .version
  | .help => .error .help

def Settings.turnAll (s : Settings) (list : List Switch) : Except Request Settings :=
  list.foldlM Settings.turn s

def Settings.keepAt? (s : Settings) (path : String) : Option Settings :=
  if s.historyPath = none ∧ path ≠ "" then some { s with historyPath := some path } else none

def requestAfter (s : Settings) : List String → Request
  | [] => .prompt s
  | argument :: rest => match Argument.read argument with
    | .operand => .single s (" ".intercalate (argument :: rest))
    | .endOfOptions => match rest with
      | [] => .prompt s
      | _ => .single s (" ".intercalate rest)
    | .assigned .history path => match s.keepAt? path with
      | some kept => requestAfter kept rest
      | none => .refused
    | .assigned _ _ => .refused
    | .switches [.history] => match rest with
      | [] => .refused
      | path :: more => match Argument.read path, s.keepAt? path with
        | .operand, some kept => requestAfter kept more
        | _, _ => .refused
    | .switches list => match s.turnAll list with
      | .ok turned => requestAfter turned rest
      | .error request => request

def request (arguments : List String) : Request := requestAfter .default arguments

end ReversePolish.CommandLine
