import Raster.Jpeg.Decoder
import Raster.Png.Decoder

/-!
The decoders that loading relies on.
-/

namespace Raster

structure Decoders where
  jpeg : Jpeg.Decoder
  png : Png.Decoder

end Raster
