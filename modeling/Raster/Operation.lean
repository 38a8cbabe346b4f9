import Raster.Loader
import Raster.Resample

/-!
What a caller can do to a bitmap, one operation at a time. An operation that is refused leaves the
bitmap as it was, except for loads, which say themselves what they leave.
-/

namespace Raster

inductive Loader where
  | dib
  | jpeg
  | png (mode : PngMode)
  | detecting
deriving DecidableEq, Repr

/-- Loads with the given loader. Those for a single format without alpha report no transparency. -/
def Loader.load (loader : Loader) (decoders : Decoders) (limits : Limits) (target : Bitmap)
    (stream : Stream) : Load (Option Transparency) :=
  match loader with
  | .dib => (loadDib limits target stream).map fun _ => none
  | .jpeg => (loadJpeg decoders limits target stream).map fun _ => none
  | .png mode => (loadPng decoders limits mode target stream).map some
  | .detecting => (Raster.load decoders limits target stream).map some

namespace Bitmap

def replaced (bitmap : Bitmap) (built : Except Failure Bitmap) : Except Failure Unit × Bitmap :=
  match built with
  | .ok built => (.ok (), built)
  | .error failure => (.error failure, bitmap)

/-- Sizes are set before the storage is allocated, so a panic leaves them with the old storage. -/
def reallocated (bitmap : Bitmap) (width height stride : UInt32) :
    Except Failure Unit × Bitmap :=
  match allocate width height stride with
  | .ok built => (.ok (), built)
  | .error failure => (.error failure, ⟨width, height, stride, bitmap.pixels⟩)

def changed (bitmap : Bitmap) (next : Option Bitmap) : Except Failure Unit × Bitmap :=
  match next with
  | some next => (.ok (), next)
  | none => (.error .panicked, bitmap)

end Bitmap

inductive Operation where
  | allocate (width height : UInt32)
  | allocateStride (width height stride : UInt32)
  | adopt (width height : UInt32) (pixels : Array Pixel)
  | reset
  | fill (color : Pixel)
  | setPixel (y x : UInt32) (color : Pixel)
  | changeRow (y : UInt32) (change : Nat → Pixel → Pixel)
  | resample (source : Bitmap) (tint : Tint) (forceAverage : Bool)
  | load (loader : Loader) (limits : Limits) (stream : Stream)

def Operation.perform (decoders : Decoders) (bitmap : Bitmap) :
    Operation → Except Failure Unit × Bitmap
  | .allocate width height => bitmap.reallocated width height width
  | .allocateStride width height stride =>
      if stride < width then (.error (.refused (.validation .strideBelowWidth)), bitmap)
      else bitmap.reallocated width height stride
  | .adopt width height pixels => bitmap.replaced (Bitmap.ofPixels width height pixels)
  | .reset => (.ok (), bitmap.reset)
  | .fill color => (.ok (), bitmap.fill color)
  | .setPixel y x color => bitmap.changed (bitmap.setPixel? y x color)
  | .changeRow y change => bitmap.changed (bitmap.mapRow? y change)
  | .resample source tint forceAverage =>
      (.ok (), Raster.resample bitmap source tint forceAverage)
  | .load loader limits stream =>
      let load := loader.load decoders limits bitmap stream
      (load.outcome.map fun _ => (), load.bitmap)

end Raster
