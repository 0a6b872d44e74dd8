import TermTape.Device.Modes
import TermTape.IoError
import TermTape.Terminal.Notice

/-!
# Terminals and raw mode

A device is a terminal, with a size and modes, or something else, which has neither. A guard puts a
terminal into raw mode and its earlier modes back; it does so once. A restorer puts the same modes
back whenever it is asked to.
-/
namespace TermTape

/-- A device that bytes go to or come from. -/
inductive Device where
  | terminal (size : WindowSize) (modes : Modes)
  | other

namespace Device

/-- A terminal that nothing has been done to. -/
def fresh : Device := .terminal ⟨0, 0, 0, 0⟩ .initial

/-- The device is a terminal. -/
def isTerminal : Device → Bool
  | .terminal .. => true
  | .other => false

/-! ## Sizes -/

/-- The size of a terminal. -/
def size : Device → Except DeviceFault WindowSize
  | .terminal size _ => .ok size
  | .other => .error (.getAttributes .wrongDevice)

/-- The size of a terminal that has columns and rows, and the usual size otherwise. -/
def sizeOrUsual : Device → WindowSize
  | .terminal size _ => if 0 < size.columns ∧ 0 < size.rows then size else .usual
  | .other => .usual

/-- The terminal with another size. -/
def resized (device : Device) (size : WindowSize) : Except DeviceFault Device :=
  match device with
  | .terminal _ modes => .ok (.terminal size modes)
  | .other => .error (.resize .wrongDevice)

/-- The target with the size of the source, and that size. -/
def propagate (source target : Device) : Except DeviceFault (WindowSize × Device) :=
  (target.resized source.sizeOrUsual).map (source.sizeOrUsual, ·)

/-! ## Modes -/

/-- The modes of a terminal. -/
def modes : Device → Except DeviceFault Modes
  | .terminal _ modes => .ok modes
  | .other => .error (.getAttributes .wrongDevice)

/-- The terminal with other modes. -/
def withModes (device : Device) (modes : Modes) : Device :=
  match device with
  | .terminal size _ => .terminal size modes
  | .other => .other

end Device

/-- The modes that are to be put back. -/
structure ModeRestorer where
  saved : Modes

/-- The terminal with the saved modes. -/
def ModeRestorer.restore (restorer : ModeRestorer) (device : Device) : Device :=
  device.withModes restorer.saved

/-- A terminal in raw mode, and whether its modes are still to be put back. -/
structure RawGuard where
  restorer : ModeRestorer
  active : Bool

namespace RawGuard

/-- Put a terminal into raw mode. -/
def enter (device : Device) : Except DeviceFault (RawGuard × Device) :=
  device.modes.map fun modes => (⟨⟨modes⟩, true⟩, device.withModes modes.raw)

/-- Put the modes back, if that has not been done. The end of a guard does the same. -/
def restore (guard : RawGuard) (device : Device) : RawGuard × Device :=
  if guard.active then ({ guard with active := false }, guard.restorer.restore device)
  else (guard, device)

end RawGuard
end TermTape
