/- What a run of the program leaves behind: two texts and an exit code. -/

namespace DoorControl.Program

/-- How the work on a job ends. -/
inductive Ending
  | done
  /-- The messages of an error and its causes, from the outermost inwards. -/
  | failed (chain : List String)
  /-- The work stops in the middle of something that must not happen. -/
  | aborted
  deriving DecidableEq, Repr

structure Report where
  output : String := ""
  errors : String := ""
  code : Nat := 0
  deriving DecidableEq, Repr

/-- The causes of an error; several of them are numbered. -/
def causes : List String → String
  | [] => ""
  | [cause] => "\n\nCaused by:\n    " ++ cause
  | several =>
      "\n\nCaused by:" ++
        String.join (several.zipIdx.map (fun (cause, n) => "\n    " ++ toString n ++ ": " ++ cause))

namespace Ending

/-- The report on work that has written `output`. -/
def report (output : String) : Ending → Report
  | .done => { output }
  | .failed chain =>
      { output, errors := "Error: " ++ chain.headD "" ++ causes (chain.drop 1) ++ "\n", code := 1 }
  | .aborted => { output, code := 101 }

end Ending

end DoorControl.Program
