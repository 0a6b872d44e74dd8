import TermTape.Number.Binary64
import TermTape.Number.Shortest
import TermTape.Number.Layout
import TermTape.Number.Reading
import TermTape.Text.Basic
import TermTape.Text.Word
import TermTape.Text.Images
import TermTape.Text.Unassigned
import TermTape.Text.Marks
import TermTape.Text.CombiningClass
import TermTape.Text.Composites
import TermTape.Text.NormalForm
import TermTape.Text.Direction
import TermTape.Text.Joining
import TermTape.Text.Quoted
import TermTape.Text.Uppercase
import TermTape.Text.Utf8
import TermTape.IoError
import TermTape.Json.Fault
import TermTape.Json.Source
import TermTape.Json.Text
import TermTape.Json.Rounding
import TermTape.Json.Number
import TermTape.Json.Skip
import TermTape.Json.Items
import TermTape.Json.Shape
import TermTape.Json.Value
import TermTape.Recording.FrameText
import TermTape.Json.Print
import TermTape.Recording.Basic
import TermTape.Recording.Write
import TermTape.Recording.Decode
import TermTape.Duration
import TermTape.Url.Host
import TermTape.Settings.Variables
import TermTape.Fault
import TermTape.Sink
import TermTape.Url.Percent
import TermTape.Url.Address
import TermTape.Text.Folding
import TermTape.Url.Punycode
import TermTape.Url.Label
import TermTape.Url.Path
import TermTape.Url.Basic
import TermTape.Url.Reading
import TermTape.Disk.Basic
import TermTape.Loading.Location
import TermTape.Loading.Link
import TermTape.Web.Network
import TermTape.Loading.Loader
import TermTape.Terminal.Notice
import TermTape.Session.Recorder
import TermTape.Session.Playback
import TermTape.Settings.Log
import TermTape.Recording.Stream
import TermTape.Device.Child
import TermTape.Console.Screen
import TermTape.Console.Control
import TermTape.Console.Repaint
import TermTape.Console.Session
import TermTape.Device.Modes
import TermTape.Device.Terminal
import TermTape.Device.Copy
import TermTape.Device.Descriptor
import TermTape.Device.ExitStatus
import TermTape.Proofs.Text.Utf8
import TermTape.Proofs.Number.Rounding
import TermTape.Proofs.Number.SixPlaces
import TermTape.Proofs.Number.Digits
import TermTape.Proofs.Number.FixedText
import TermTape.Proofs.Json.Reading
import TermTape.Proofs.Json.Settled
import TermTape.Proofs.Json.SettledNumbers
import TermTape.Proofs.Json.SettledValues
import TermTape.Proofs.Json.Strings
import TermTape.Proofs.Json.Numbers
import TermTape.Proofs.Json.Rounding
import TermTape.Proofs.Json.Written
import TermTape.Proofs.Json.Layout
import TermTape.Proofs.Recording.FrameText
import TermTape.Proofs.Recording.Document
import TermTape.Proofs.Recording.RoundTrip
import TermTape.Proofs.Number.Signs
import TermTape.Proofs.Sink
import TermTape.Proofs.Session.Fidelity
import TermTape.Proofs.Console.Display
import TermTape.Proofs.Console.Reproduction
import TermTape.Proofs.Console.Cursor
import TermTape.Proofs.Console.Recordings
import TermTape.Proofs.Disk.Saving
import TermTape.Proofs.Json.Ensured
import TermTape.Proofs.Recording.Resaving
import TermTape.Proofs.Recording.Truncation
import TermTape.Proofs.Recording.Concatenation
import TermTape.Proofs.Loading.Chain
import TermTape.Proofs.Loading.Remote
import TermTape.Proofs.Recording.TwoPasses
import TermTape.Proofs.Recording.StrictTexts
import TermTape.Proofs.Recording.Lines
import TermTape.Proofs.Json.Grammar
import TermTape.Proofs.Json.Passing
import TermTape.Proofs.Json.Numerals
import TermTape.Proofs.Json.Members
import TermTape.Proofs.Recording.FrameShapes
import TermTape.Proofs.Recording.DocumentShapes
import TermTape.Proofs.Recording.Exactness
import TermTape.Proofs.Sink.Refusals
import TermTape.Proofs.Recording.Streaming
import TermTape.Proofs.Session.Stopping
import TermTape.Proofs.Recording.Timing
import TermTape.Proofs.Session.RecordedTime
import TermTape.Proofs.Console.LostRows
import TermTape.Proofs.Device.Copying
import TermTape.Proofs.Device.Delivery
import TermTape.Proofs.Number.Order
import TermTape.Proofs.Number.Seconds
import TermTape.Proofs.Session.Pauses
import TermTape.Proofs.Device.RawMode
import TermTape.Proofs.Loading.Gateway
import TermTape.Proofs.Loading.WrittenTags
import TermTape.Proofs.Loading.WrittenPages
import TermTape.Proofs.Settings.Command
