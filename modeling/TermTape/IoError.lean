/-!
# Input and output errors

What the system reports when reading, writing or a device call fails: a kind that callers can act on
and a text for people. A fault of the terminal device says what failed below a recording: making the
device, starting the command, changing modes or size, and waiting. Each but one has the system's error
beneath it.
-/
namespace TermTape

/-- The kind of an input or output error. -/
inductive IoError.Kind where
  | notFound
  | permissionDenied
  | brokenPipe
  | interrupted
  | wouldBlock
  | invalidInput
  | timedOut
  | unexpectedEof
  | writeZero
  | isADirectory
  | notADirectory
  | invalidFilename
  | argumentListTooLong
  | other
  | uncategorized
  deriving DecidableEq, Repr

/-- An input or output error. -/
structure IoError where
  kind : IoError.Kind
  message : String
  deriving DecidableEq, Repr

namespace IoError

/-- The error of a system call, with the number of its cause. -/
def system (kind : Kind) (text : String) (number : Nat) : IoError :=
  ⟨kind, text ++ " (os error " ++ toString number ++ ")"⟩

/-- No such file. -/
def noSuchFile : IoError := system .notFound "No such file or directory" 2

/-- A file stands where a directory has to. -/
def notDirectory : IoError := system .notADirectory "Not a directory" 20

/-- A directory stands where a file has to. -/
def isDirectory : IoError := system .isADirectory "Is a directory" 21

/-- The device has no such operation. -/
def wrongDevice : IoError := system .uncategorized "Inappropriate ioctl for device" 25

/-- The reader of a pipe is gone. -/
def brokenPipe : IoError := system .brokenPipe "Broken pipe" 32

/-- A name in a path is too long. -/
def nameTooLong : IoError := system .invalidFilename "File name too long" 36

/-- A path holds a zero byte, which the system cannot take. -/
def zeroInPath : IoError := ⟨.invalidInput, "file name contained an unexpected NUL byte"⟩

/-- A sink took none of the bytes of a buffer that has to be written whole. -/
def wroteNothing : IoError := ⟨.writeZero, "failed to write whole buffer"⟩

end IoError

/-! ## Faults of devices -/

/-- A fault of the terminal device or of the command behind it. -/
inductive DeviceFault where
  | create (cause : IoError)
  | spawn (cause : IoError)
  | io (cause : IoError)
  | setAttributes (cause : IoError)
  | getAttributes (cause : IoError)
  | resize (cause : IoError)
  | closed
  | signal (cause : IoError)
  | wait (cause : IoError)
  deriving DecidableEq, Repr

namespace DeviceFault

/-- The system's error beneath a fault. -/
def cause? : DeviceFault → Option IoError
  | .create e | .spawn e | .io e | .setAttributes e | .getAttributes e | .resize e | .signal e
  | .wait e => some e
  | .closed => none

/-- The wording of a fault. -/
def message : DeviceFault → String
  | .create e => "failed to create PTY: " ++ e.message
  | .spawn e => "failed to spawn process: " ++ e.message
  | .io e => "PTY I/O error: " ++ e.message
  | .setAttributes e => "failed to set terminal attributes: " ++ e.message
  | .getAttributes e => "failed to get terminal attributes: " ++ e.message
  | .resize e => "failed to resize PTY: " ++ e.message
  | .closed => "PTY has been closed"
  | .signal e => "signal error: " ++ e.message
  | .wait e => "failed to wait for child: " ++ e.message

end DeviceFault

end TermTape
