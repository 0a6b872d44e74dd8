/-!
# Modes of terminals

The modes of a terminal are four words of flags, a list of control characters, the discipline of its
line and its speeds. Raw mode turns off everything that a terminal does to what passes through it: the
flags below, the size of characters, which becomes eight bits, and the rule of reading, which is to
wait for one byte. All other flags and characters stay, and so do the discipline and the speeds.
-/
namespace TermTape

/-- The modes of a terminal. -/
@[ext]
structure Modes where
  input : UInt32
  output : UInt32
  control : UInt32
  line : UInt32
  characters : Vector UInt8 17
  discipline : UInt8 := 0
  inputSpeed : UInt32 := 38400
  outputSpeed : UInt32 := 38400
  deriving DecidableEq

namespace Modes

/-! ## Flags -/

/-- Breaks are ignored (`IGNBRK`). -/
def ignoreBreak : UInt32 := 0x1

/-- Breaks interrupt (`BRKINT`). -/
def breakInterrupt : UInt32 := 0x2

/-- Errors of parity are marked (`PARMRK`). -/
def markParity : UInt32 := 0x8

/-- The eighth bit is stripped (`ISTRIP`). -/
def stripEighth : UInt32 := 0x20

/-- Newlines become carriage returns (`INLCR`). -/
def newlineToReturn : UInt32 := 0x40

/-- Carriage returns are ignored (`IGNCR`). -/
def ignoreReturn : UInt32 := 0x80

/-- Carriage returns become newlines (`ICRNL`). -/
def returnToNewline : UInt32 := 0x100

/-- Characters of the input stop and start the output (`IXON`). -/
def flowControl : UInt32 := 0x400

/-- The flags of input that raw mode turns off. -/
def inputProcessing : List UInt32 :=
  [ignoreBreak, breakInterrupt, markParity, stripEighth, newlineToReturn, ignoreReturn,
    returnToNewline, flowControl]

/-- Output is processed at all (`OPOST`). -/
def processOutput : UInt32 := 0x1

/-- The flags of output that raw mode turns off. -/
def outputProcessing : List UInt32 := [processOutput]

/-- Characters of the input send signals (`ISIG`). -/
def signals : UInt32 := 0x1

/-- Input is read by lines (`ICANON`). -/
def byLines : UInt32 := 0x2

/-- Input is echoed (`ECHO`). -/
def echo : UInt32 := 0x8

/-- Newlines are echoed by themselves (`ECHONL`). -/
def echoNewline : UInt32 := 0x40

/-- Extensions of lines are processed (`IEXTEN`). -/
def extensions : UInt32 := 0x8000

/-- The flags of the line that raw mode turns off. -/
def lineProcessing : List UInt32 := [signals, byLines, echo, echoNewline, extensions]

/-- Characters have a bit of parity (`PARENB`). -/
def parity : UInt32 := 0x100

/-- The field that holds the size of characters (`CSIZE`). -/
def characterSize : UInt32 := 0x30

/-- The size of eight bits in its field (`CS8`). -/
def eightBits : UInt32 := 0x30

/-- Flags together. -/
def together (flags : List UInt32) : UInt32 := flags.foldl (· ||| ·) 0

/-- A word without some flags. -/
def without (word flags : UInt32) : UInt32 := word &&& ~~~flags

/-! ## Raw mode -/

/-- The place of the longest wait of a read among the control characters (`VTIME`). -/
def waitPlace : Fin 17 := 5

/-- The place of the least count of bytes of a read among the control characters (`VMIN`). -/
def countPlace : Fin 17 := 6

/-- The modes of raw mode. -/
def raw (modes : Modes) : Modes :=
  { modes with
    input := without modes.input (together inputProcessing)
    output := without modes.output (together outputProcessing)
    control := without modes.control (characterSize ||| parity) ||| eightBits
    line := without modes.line (together lineProcessing)
    characters := (modes.characters.set countPlace 1).set waitPlace 0 }

/-- The least count of bytes of a read. -/
def readCount (modes : Modes) : UInt8 := modes.characters[countPlace]

/-- The longest wait of a read. -/
def readWait (modes : Modes) : UInt8 := modes.characters[waitPlace]

/-- The modes that a terminal starts with. -/
def initial : Modes where
  input := 0x500
  output := 0x5
  control := 0xbf
  line := 0x8a3b
  characters :=
    #v[3, 28, 127, 21, 4, 0, 1, 0, 17, 19, 26, 0, 18, 15, 23, 22, 0]

end Modes
end TermTape
