import Raster.Geometry.Stroke
import Raster.Proofs.Clip.Cropping
import Raster.Proofs.Clip.Endless
import Raster.Proofs.Dib.Apart
import Raster.Proofs.Dib.Fields
import Raster.Proofs.Dib.InRange
import Raster.Proofs.Dib.Levels
import Raster.Proofs.Exclusive
import Raster.Proofs.Jpeg.Supplied
import Raster.Proofs.Png.Transfer
import Raster.Proofs.Reachable
import Raster.Proofs.Relocation
import Raster.Proofs.Reported
import Raster.Proofs.Resample.Blocks
import Raster.Proofs.Resample.Coverage
import Raster.Proofs.Resample.Fading
import Raster.Proofs.Resample.Unmixed
import Raster.Proofs.Rewinding
import Raster.Proofs.Schedule
import Raster.Proofs.Stroke
import Raster.Text.Codec
import Raster.Proofs.FailureLog
import Raster.Proofs.Png.Tiling
import Raster.Proofs.Png.Turns
import Raster.Proofs.Text.Grammar
import Raster.Proofs.Text.Scanning
import Raster.Proofs.Text.Strings
import Raster.Proofs.Text.Parsing
import Raster.Proofs.Text.Options
