import TermTape.IoError
import TermTape.Recording.Basic
import TermTape.Settings.Variables
import TermTape.Url.Host

/-!
# Faults

Everything that can go wrong, sorted by what a caller can do about it: the terminal refused a
change, the command did not start, input or output failed, a document is malformed or not to be
found, a remote resource could not be fetched, or a setting is wrong.
-/
namespace TermTape

/-- A document that is malformed or not to be found. -/
inductive FormatFault where
  | document (fault : DocumentFault)
  | badUrl (location : String) (fault : Url.Fault)
  | badLink (href : String) (fault : Url.Fault)
  | linkMissing (page : String)
  | tooManyPages (limit : Nat) (start : String)
  | described (message : String)
  deriving DecidableEq

/-- The wording of a fault. -/
def FormatFault.message : FormatFault → String
  | .document fault => fault.message
  | .badUrl location fault => "invalid URL " ++ quoted location ++ ": " ++ fault.message
  | .badLink href fault => "invalid alternate link " ++ quoted href ++ ": " ++ fault.message
  | .linkMissing page => "expected alternate <link> not found in HTML document " ++ page
  | .tooManyPages limit start =>
    "gave up after " ++ wholeText limit ++ " HTML redirections starting at " ++ start
  | .described message => message

/-- A remote resource that could not be fetched. -/
inductive NetworkFault where
  | refusedScheme (url : String)
  | unreachable (url : String)
  | redirect (url : String)
  | status (line : String) (url : String)
  | described (message : String)
  deriving DecidableEq

/-- The wording of a fault. -/
def NetworkFault.message : NetworkFault → String
  | .refusedScheme url => "builder error for url (" ++ url ++ ")"
  | .unreachable url => "error sending request for url (" ++ url ++ ")"
  | .redirect url => "error following redirect for url (" ++ url ++ ")"
  | .status line url => "got status " ++ line ++ " when requesting " ++ url
  | .described message => message

/-- Anything that can go wrong. -/
inductive Fault where
  | device (cause : DeviceFault)
  | spawn (cause : DeviceFault)
  | io (cause : IoError)
  | deviceIo (cause : DeviceFault)
  | ioContext (context : String) (cause : IoError)
  | format (cause : FormatFault)
  | network (cause : NetworkFault)
  | setting (cause : SettingFault)
  deriving DecidableEq

namespace Fault

/-- What a caller can act on. -/
inductive Class where
  | device
  | spawn
  | io
  | ioWithContext
  | format
  | network
  | config
  deriving DecidableEq, Repr

/-- The class of a fault. -/
def classOf : Fault → Class
  | .device _ => .device
  | .spawn _ => .spawn
  | .io _ | .deviceIo _ => .io
  | .ioContext .. => .ioWithContext
  | .format _ => .format
  | .network _ => .network
  | .setting _ => .config

/-- The wording of a fault. -/
def message : Fault → String
  | .device cause => "terminal device error: " ++ cause.message
  | .spawn cause => "failed to spawn process: " ++ cause.message
  | .io cause => "I/O error: " ++ cause.message
  | .deviceIo cause => "I/O error: " ++ cause.message
  | .ioContext context cause => context ++ ": " ++ cause.message
  | .format cause => "format error: " ++ cause.message
  | .network cause => "network error: " ++ cause.message
  | .setting cause => "configuration error: " ++ cause.message

/-- The wordings of the errors beneath a device fault, itself first. -/
def deviceCauses (cause : DeviceFault) : List String :=
  cause.message :: (cause.cause?.map IoError.message).toList

/-- The wordings of the errors beneath a fault, the nearest first. -/
def causes : Fault → List String
  | .device cause | .spawn cause | .deviceIo cause => deviceCauses cause
  | .io cause | .ioContext _ cause => [cause.message]
  | .format _ | .network _ | .setting _ => []

/-- A fault of the device: a mode that was refused, a command that did not start, or an input or
output error. -/
def ofDevice : DeviceFault → Fault
  | .getAttributes e => .device (.getAttributes e)
  | .setAttributes e => .device (.setAttributes e)
  | .create e => .spawn (.create e)
  | .spawn e => .spawn (.spawn e)
  | .io e => .io e
  | other => .deviceIo other

/-- A fault of a document; the failure of its source is an input error. -/
def ofDocument : DocumentFault → Fault
  | .json (.stopped cause) => .io cause
  | fault => .format (.document fault)

/-- The document is malformed or not to be found. -/
def isFormat (fault : Fault) : Bool := fault.classOf == .format

/-- The resource could not be fetched. -/
def isNetwork (fault : Fault) : Bool := fault.classOf == .network

/-- The fault stops a recording before it starts. -/
def isFatalSetup (fault : Fault) : Bool := fault.classOf == .device || fault.classOf == .spawn

end Fault
end TermTape
