import ReversePolish.Log
import ReversePolish.Terminal.CommandLine
import ReversePolish.Terminal.Editor

set_option autoImplicit false

namespace ReversePolish

def usage : String :=
  "usage: rpn [--strict] [--no-history] [--history PATH] [-v] [EXPRESSION]..."

def Level.shownFrom : Level → Nat
  | .info => 1
  | .debug => 2
  | .trace => 3

def showLog (settings : CommandLine.Settings) (expression : String) : IO Unit := do
  for record in settings.calculator.log expression do
    if record.level.shownFrom ≤ settings.verbosity then
      IO.eprintln record.message

def answerSingle (settings : CommandLine.Settings) (expression : String) : IO UInt32 := do
  showLog settings expression
  let (code, text) := Single.report settings.calculator expression
  IO.print text
  return code

-- What an attempt to read from standard input comes to; `none` where the editor breaks down.
def readLine : IO (Option Reading) := do
  try
    match Terminal.edited (← (← IO.getStdin).getLine) with
    | [] => return some .ended
    | line :: _ => return line.map .line
  catch problem => return some (.failed (toString problem))

partial def converse (settings : CommandLine.Settings) (session : Session) : IO (Option Session) := do
  if session.stage ≠ .reading then
    return some session
  match ← readLine with
  | none => return none
  | some reading =>
      if let .line text := reading then
        if let .evaluate expression := Command.ofLine text then
          showLog settings expression
      let (printed, after) := session.enter settings.calculator reading
      IO.print printed
      converse settings after

def historyFile? (settings : CommandLine.Settings) : IO (Option String) := do
  if settings.forgetful then
    return none
  match settings.historyPath with
  | some path => return some path
  | none => return (← IO.getEnv "HOME").map (· ++ "/.rpn_history")

def loadHistory (file : Option String) : IO History := do
  match file with
  | none => return .empty
  | some path =>
      try
        return .load Terminal.recover (← IO.FS.readFile path)
      catch _ =>
        return .empty

def saveHistory (file text : Option String) : IO UInt32 := do
  match file, text with
  | some path, some written =>
      try
        IO.FS.writeFile path written
        return 0
      catch problem =>
        IO.eprintln s!"Saving history to {path}: {problem}"
        return 1
  | _, _ => return 0

def runPrompt (settings : CommandLine.Settings) : IO UInt32 := do
  let file ← historyFile? settings
  let history ← loadHistory file
  IO.print (Prompt.greeting settings.calculator)
  match ← converse settings (.start history) with
  | none =>
      IO.eprintln "a character cannot be taken back in part"
      return 101
  | some session =>
      if let some problem := session.problem? then
        IO.eprintln problem
        return 1
      saveHistory file session.kept?

end ReversePolish

def main (arguments : List String) : IO UInt32 :=
  match ReversePolish.CommandLine.request arguments with
  | .help => do
      IO.println ReversePolish.usage
      return 0
  | .version => do
      IO.println "rpn 0.1.0"
      return 0
  | .refused => do
      IO.eprintln ReversePolish.usage
      return 2
  | .single settings expression => ReversePolish.answerSingle settings expression
  | .prompt settings => ReversePolish.runPrompt settings
