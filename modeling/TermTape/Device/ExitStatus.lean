import TermTape.Number.Layout

/-!
# Ends of commands

A command exits with a code or is terminated by a signal. The system reports either in one word: the
lowest seven bits hold the signal, and zero there means an exit, with its code in the next byte. A
word that means neither counts as an exit with the code -1.
-/
namespace TermTape

/-- How a command ended. -/
inductive ExitStatus where
  | exited (code : Int)
  | signaled (signal : Int)
  deriving DecidableEq

namespace ExitStatus

/-- The end that a word of the system reports. -/
def ofWord (word : Int) : ExitStatus :=
  let signal := word % 128
  if signal = 0 then .exited (word / 256 % 256)
  else if signal = 127 then .exited (-1)
  else .signaled signal

/-- The command succeeded. -/
def isSuccess : ExitStatus → Bool
  | .exited code => code == 0
  | .signaled _ => false

/-- The code of a command that exited. -/
def code? : ExitStatus → Option Int
  | .exited code => some code
  | .signaled _ => none

/-- The end in words. -/
def text : ExitStatus → String
  | .exited code => "exited with code " ++ signedText code
  | .signaled signal => "terminated by signal " ++ signedText signal

end ExitStatus
end TermTape
