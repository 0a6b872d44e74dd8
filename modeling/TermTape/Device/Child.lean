import TermTape.IoError
import TermTape.Terminal.Notice

/-!
# Commands on devices

Commands run through the shell of the system, as one argument to it. On a device of its own a command
gets variables besides those of its parent, of which later ones win, and the size of its window.
-/
namespace TermTape

/-- A program and its arguments. -/
structure Invocation where
  program : String
  arguments : List String
  deriving DecidableEq

/-- The invocation of the shell that runs a command. -/
def Invocation.ofCommand (command : String) : Invocation := ⟨"/bin/sh", ["-c", command]⟩

/-- The error of an argument that holds a zero byte, which the system cannot take. -/
def IoError.zeroInArgument : IoError := ⟨.invalidInput, "nul byte found in provided data"⟩

/-- The error of an argument that is longer than the system takes. -/
def IoError.argumentTooLong : IoError := .system .argumentListTooLong "Argument list too long" 7

/-- The most bytes of an argument. -/
def Invocation.longestArgument : Nat := 131071

/-- The invocation, if the system can start it: no argument holds a zero byte or is too long. -/
def Invocation.checked (invocation : Invocation) : Except DeviceFault Invocation :=
  if invocation.arguments.any fun argument => argument.toList.contains '\x00' then
    .error (.spawn .zeroInArgument)
  else if invocation.arguments.any fun argument => longestArgument < argument.utf8ByteSize then
    .error (.spawn .argumentTooLong)
  else .ok invocation

/-- What a command gets. -/
structure ChildSettings where
  bindings : List (String × String) := []
  window : WindowSize := .usual

namespace ChildSettings

/-- The settings with one more variable. -/
def withVariable (settings : ChildSettings) (name value : String) : ChildSettings :=
  { settings with bindings := settings.bindings ++ [(name, value)] }

/-- The settings with a window of columns and rows. -/
def withWindow (settings : ChildSettings) (columns rows : UInt16) : ChildSettings :=
  { settings with window := ⟨columns, rows, 0, 0⟩ }

end ChildSettings

end TermTape
