import ApiBindings.Command.Run

/-!
# Entry point

Carries out the plan of the command on the file system of the machine.
-/

namespace ApiBindings

open Files

/-- The refusal that an error of the system is. What has no refusal of its own counts as a
denial. -/
def refusalOf : IO.Error → Refusal
  | .noFileOrDirectory .. => .notFound
  | .resourceBusy .. => .busy
  | .alreadyExists .. => .alreadyExists
  | .invalidArgument .. => .nameTooLong
  | .inappropriateType _ code _ => if code = 21 then .isDirectory else .notDirectory
  | _ => .denied

/-- The answer of an action that may be refused. -/
def answerOf {α : Type} (action : IO α) : IO (Except Refusal α) := do
  try
    return .ok (← action)
  catch e => return .error (refusalOf e)

/-- Carries out a call. A directory is told by the refusal to read it. -/
def carryOut : (c : Call) → IO c.Answer
  | .read p => answerOf (IO.FS.readBinFile p.text)
  | .isDirectory p => do
    match ← answerOf (IO.FS.readBinFile p.text) with
    | .error .isDirectory => return true
    | _ => return false
  | .makeDirectory p => answerOf (IO.FS.createDir p.text)
  | .write p content => answerOf (IO.FS.writeBinFile p.text content)
  | .rename source target => answerOf (IO.FS.rename source.text target.text)
  | .remove p => answerOf (IO.FS.removeFile p.text)

/-- Carries out a plan. -/
def carryOutPlan {α : Type} : Plan α → IO α
  | .done a => return a
  | .call c next => do carryOutPlan (next (← carryOut c))

end ApiBindings

/-- Runs the command with the arguments of the process. -/
def main (arguments : List String) : IO UInt32 := do
  let ending ← ApiBindings.carryOutPlan (ApiBindings.Command.run arguments)
  (← IO.getStdout).putStr ending.stdout
  (← IO.getStderr).putStr ending.stderr
  return ending.exit.toUInt32
