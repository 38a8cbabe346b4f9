import Raster.Decoders
import Raster.Dib.Decode
import Raster.Jpeg.Decode
import Raster.Png.Image
import Raster.Png.Overlay

/-!
Loading images from streams: telling formats apart, loading one of them or whichever it is, and
reporting what happened. A load that replaces a bitmap leaves the empty one if it fails; a mask
that cannot be applied leaves the bitmap as it was.
-/

namespace Raster

inductive ImageFormat where
  | png
  | jpeg
  | dib
  | unknown
deriving DecidableEq, Repr

def ImageFormat.name : ImageFormat → String
  | .png => "Png"
  | .jpeg => "Jpeg"
  | .dib => "Dib"
  | .unknown => "Unknown"

inductive PngMode where
  | replace
  | overlayAlpha
deriving DecidableEq, Repr

instance : Inhabited PngMode := ⟨.replace⟩

inductive Reporter where
  | dib
  | jpeg
  | png
  | overlay
  | dispatch
deriving DecidableEq, Repr

def Reporter.text : Reporter → String
  | .dib => "error reading Microsoft DIB file"
  | .jpeg => "error reading JPEG file"
  | .png => "error reading PNG file"
  | .overlay => "error applying PNG alpha"
  | .dispatch => "cannot load image"

inductive Event where
  | detected (format : ImageFormat)
  | rewindFailed
  | markerInserted
  | failed (reporter : Reporter) (error : Error)
deriving DecidableEq, Repr

namespace Event

def render : Event → String
  | .detected format => "DEBUG detected image format | format=" ++ format.name
  | .rewindFailed => "DEBUG could not rewind stream after header check | error=seek failed"
  | .markerInserted => "WARN premature end of JPEG data; inserting EOI marker"
  | .failed reporter error => "ERROR " ++ reporter.text ++ " | error=" ++ error.message

def isFailure : Event → Bool
  | .failed .. => true
  | _ => false

/-- Leaves out every event that is the same as the one before it. -/
def condense : List Event → List Event
  | [] => []
  | event :: later =>
      match condense later with
      | [] => [event]
      | next :: rest => if event = next then next :: rest else event :: next :: rest

end Event

def Jpeg.Input.events (input : Jpeg.Input) : List Event :=
  List.replicate input.markersInserted .markerInserted

structure Probe where
  matched : Bool
  stream : Stream
  events : List Event

def probe (decoders : Decoders) : ImageFormat → Stream → Probe
  | .png, stream =>
      let (outcome, rest) := Png.verifyHeader stream
      ⟨outcome.isOk, rest, []⟩
  | .jpeg, stream =>
      let (outcome, input) := Jpeg.verifyHeader decoders.jpeg stream
      ⟨outcome.isOk, input.stream, input.events⟩
  | .dib, stream =>
      let (outcome, rest) := Dib.verifyHeader stream
      ⟨outcome.isOk, rest, []⟩
  | .unknown, stream => ⟨false, stream, []⟩

structure Detection where
  format : ImageFormat
  stream : Stream
  events : List Event

def tryFormats (decoders : Decoders) (start : Nat) :
    List ImageFormat → Stream → List Event → Detection
  | [], stream, events => ⟨.unknown, stream, events ++ [.detected .unknown]⟩
  | format :: later, stream, events =>
      let probe := probe decoders format stream
      let events := events ++ probe.events
      match probe.stream.seek start with
      | (none, rest) => ⟨.unknown, rest, events ++ [.rewindFailed]⟩
      | (some (), rest) =>
          if probe.matched then ⟨format, rest, events ++ [.detected format]⟩
          else tryFormats decoders start later rest events

def probeOrder : List ImageFormat := [.png, .jpeg, .dib]

def detectFormat (decoders : Decoders) (stream : Stream) : Detection :=
  match stream.query with
  | (none, rest) => ⟨.unknown, rest, []⟩
  | (some start, rest) => tryFormats decoders start probeOrder rest []

structure Load (α : Type) where
  outcome : Except Failure α
  bitmap : Bitmap
  stream : Stream
  events : List Event

namespace Load

def map {α β : Type} (change : α → β) (load : Load α) : Load β :=
  ⟨load.outcome.map change, load.bitmap, load.stream, load.events⟩

/-- Puts a decoded bitmap in place of the target, which is reset before, or reports the error.
Nothing is reported of a panic. -/
def replacing {α : Type} (reporter : Reporter) (target : Bitmap)
    (outcome : Except Failure (Bitmap × α)) (stream : Stream) (events : List Event) : Load α :=
  match outcome with
  | .ok (bitmap, value) => ⟨.ok value, bitmap, stream, events⟩
  | .error (.refused error) =>
      ⟨.error (.refused error), target.reset, stream, events ++ [.failed reporter error]⟩
  | .error .panicked => ⟨.error .panicked, target.reset, stream, events⟩

end Load

def loadDib (limits : Limits) (target : Bitmap) (stream : Stream) : Load Unit :=
  let (outcome, rest) := (Dib.readBitmap limits).run stream
  Load.replacing .dib target (outcome.map fun bitmap => (bitmap, ())) rest []

def loadJpeg (decoders : Decoders) (limits : Limits) (target : Bitmap) (stream : Stream) :
    Load Unit :=
  let (outcome, input) := Jpeg.readBitmap decoders.jpeg limits stream
  Load.replacing .jpeg target (outcome.map fun bitmap => (bitmap, ())) input.stream input.events

def loadPng (decoders : Decoders) (limits : Limits) (mode : PngMode) (target : Bitmap)
    (stream : Stream) : Load Transparency :=
  match mode with
  | .replace =>
      let (outcome, rest) := Png.readBitmap decoders.png limits stream
      Load.replacing .png target outcome rest []
  | .overlayAlpha =>
      let (outcome, bitmap, rest) :=
        Png.overlayAlpha decoders.png limits.maxDecodeBytes target stream
      match outcome with
      | .ok transparency => ⟨.ok transparency, bitmap, rest, []⟩
      | .error (.refused error) =>
          ⟨.error (.refused error), bitmap, rest, [.failed .overlay error]⟩
      | .error .panicked => ⟨.error .panicked, bitmap, rest, []⟩

def loadFormat (decoders : Decoders) (limits : Limits) (format : ImageFormat) (target : Bitmap)
    (stream : Stream) : Load Transparency :=
  match format with
  | .png => loadPng decoders limits .replace target stream
  | .jpeg => (loadJpeg decoders limits target stream).map fun _ => .solid
  | .dib =>
      let load := loadDib limits target stream
      load.map fun _ => load.bitmap.transparency
  | .unknown =>
      let error : Error := .validation .unrecognisedFormat
      ⟨.error (.refused error), target.reset, stream, [.failed .dispatch error]⟩

def load (decoders : Decoders) (limits : Limits) (target : Bitmap) (stream : Stream) :
    Load Transparency :=
  let detection := detectFormat decoders stream
  let load := loadFormat decoders limits detection.format target detection.stream
  { load with events := detection.events ++ load.events }

end Raster
