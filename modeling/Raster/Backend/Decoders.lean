import Raster.Backend.Jpeg.Scans
import Raster.Backend.Png.Image
import Raster.Backend.Png.Rows
import Raster.Decoders

/-!
The decoders to run the library with. They decode what the formats describe, and nothing is said of
them but that they have the interfaces that the library asks for.
-/

namespace Raster.Backend

def jpeg : Raster.Jpeg.Decoder where
  State := Jpeg.State
  readInfo _ := Jpeg.readInfo
  info state := some
    ⟨UInt16.ofNat state.frame.width, UInt16.ofNat state.frame.height, state.frame.format⟩
  decode := Jpeg.decode
  readInfo_reads _ input := by
    rw [Jpeg.readInfo]
    split <;> exact input.readExactly_after _ _
  decode_reads state input := by
    rw [Jpeg.decode]
    split <;> exact input.readExactly_after _ _

def png : Raster.Png.Decoder where
  image limit stream :=
    let (delivery, rest) := stream.deliverOnce Png.imageBlock
    (Png.image? limit.toNat delivery, rest)
  rows limit stream :=
    let (delivery, rest) := stream.deliverOnce Png.rowsBlock
    (Png.mask? limit.toNat delivery, rest)

def decoders : Decoders := ⟨jpeg, png⟩

end Raster.Backend
