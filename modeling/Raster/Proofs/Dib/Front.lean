import Raster.Proofs.Dib.Decoded
import Raster.Proofs.Dib.Header

/-!
Headers of device-independent bitmaps that have been read, from whatever stream and under whatever
faults: their layout is an encoding, and reading them has ended right behind them. The masks of the
shortest info header stand behind it.
-/

namespace Raster.Dib

variable {stream rest : Stream} {layout : Layout} {headerSize : UInt32}

theorem infoHeaderSize_bounds {size : UInt32} (known : size ∈ infoHeaderSizes) :
    40 ≤ size.toNat ∧ size.toNat ≤ 124 := by
  have member : size.toNat ∈ infoHeaderSizes.map UInt32.toNat := List.mem_map_of_mem known
  exact infoSize_bounds member

theorem headerSize_bounds {size : UInt32} (known : size = coreHeaderSize ∨ size ∈ infoHeaderSizes) :
    12 ≤ size.toNat ∧ size.toNat ≤ 124 := by
  rcases known with rfl | known
  · decide
  · have bounds := infoHeaderSize_bounds known
    omega

def Layout.isMasked : Layout → Bool
  | .masked32 .. => true
  | _ => false

/-- Size of what follows an info header and belongs to it: three masks, or nothing. -/
def Layout.trailing (layout : Layout) (headerSize : UInt32) : Nat :=
  if layout.isMasked = true ∧ ¬52 ≤ headerSize then 12 else 0

theorem ofHeaderMasks_eq_ok {bytes : Array UInt8}
    (made : Layout.ofHeaderMasks headerSize bytes = .ok layout) :
    ∃ redRun greenRun blueRun opacity,
      layout = (Encoding.fields32 redRun greenRun blueRun opacity).layout := by
  have masks {alpha : UInt32} (made : (do
      Layout.ofMasks (← wordAt bytes 36) (← wordAt bytes 40) (← wordAt bytes 44) alpha) =
        .ok layout) : ∃ redRun greenRun blueRun opacity,
          layout = (Encoding.fields32 redRun greenRun blueRun opacity).layout := by
    obtain ⟨red, -, made⟩ := bind_eq_ok made
    obtain ⟨green, -, made⟩ := bind_eq_ok made
    obtain ⟨blue, -, made⟩ := bind_eq_ok made
    exact ofMasks_eq_ok made
  rw [Layout.ofHeaderMasks] at made
  split at made
  · obtain ⟨alpha, -, made⟩ := bind_eq_ok made
    exact masks made
  · exact masks made

theorem ofExtraMasks_eq_ok {bytes : Array UInt8}
    (made : Layout.ofExtraMasks bytes = .ok layout) :
    ∃ redRun greenRun blueRun opacity,
      layout = (Encoding.fields32 redRun greenRun blueRun opacity).layout := by
  rw [Layout.ofExtraMasks] at made
  obtain ⟨red, -, made⟩ := bind_eq_ok made
  obtain ⟨green, -, made⟩ := bind_eq_ok made
  obtain ⟨blue, -, made⟩ := bind_eq_ok made
  exact ofMasks_eq_ok made

theorem readLayout_eq_ok {bytes : Array UInt8}
    (read : readLayout headerSize bytes stream = (.ok layout, rest)) :
    (∃ encoding : Encoding, layout = encoding.layout) ∧
      stream.MovedTo (stream.position + layout.trailing headerSize) rest := by
  rw [readLayout] at read
  obtain ⟨bits, -, read⟩ := Reading.lift_bind_eq_ok read
  obtain ⟨compression, -, read⟩ := Reading.lift_bind_eq_ok read
  split at read
  · cases read
    exact ⟨⟨.colour24, rfl⟩, rfl, rfl, rfl⟩
  · split at read
    · cases read
      exact ⟨⟨.colourAlpha32, rfl⟩, rfl, rfl, rfl⟩
    · split at read
      · cases read
        exact ⟨⟨.colour48, rfl⟩, rfl, rfl, rfl⟩
      · split at read
        · split at read
          · rename_i long
            obtain ⟨made, rfl⟩ := Reading.lift_eq_ok read
            obtain ⟨red, green, blue, opacity, rfl⟩ := ofHeaderMasks_eq_ok made
            refine ⟨⟨_, rfl⟩, rfl, rfl, ?_⟩
            simp [Layout.trailing, long]
          · rename_i short
            obtain ⟨masks, between, extra, read⟩ := Reading.bind_eq_ok read
            obtain ⟨made, rfl⟩ := Reading.lift_eq_ok read
            obtain ⟨red, green, blue, opacity, rfl⟩ := ofExtraMasks_eq_ok made
            have moved := Reading.exactly_moved extra
            refine ⟨⟨_, rfl⟩, moved.bytes, moved.faults, ?_⟩
            rw [moved.position]
            simp [Layout.trailing, Layout.isMasked, Encoding.layout, short]
        · cases read

theorem readInfo_eq_ok {info : Info} (read : readInfo headerSize stream = (.ok info, rest)) :
    (∃ encoding : Encoding, info.layout = encoding.layout) ∧
      (info.layout.isMasked = true → headerSize ≠ coreHeaderSize) ∧
      stream.MovedTo
        (stream.position + (headerSize.toNat - 4) + info.layout.trailing headerSize) rest := by
  rw [readInfo] at read
  obtain ⟨bytes, second, block, read⟩ := Reading.bind_eq_ok read
  have moved := Reading.exactly_moved block
  split at read
  · obtain ⟨made, rfl⟩ := Reading.lift_eq_ok read
    obtain ⟨width, height, rfl⟩ := Info.ofCore_eq_ok made
    exact ⟨⟨.colour24, rfl⟩, fun masked => absurd masked Bool.false_ne_true, moved⟩
  · rename_i notCore
    obtain ⟨width, -, read⟩ := Reading.lift_bind_eq_ok read
    obtain ⟨height, -, read⟩ := Reading.lift_bind_eq_ok read
    split at read
    · cases read
    · obtain ⟨planes, -, read⟩ := Reading.lift_bind_eq_ok read
      split at read
      · obtain ⟨layout, third, described, read⟩ := Reading.bind_eq_ok read
        cases read
        obtain ⟨encoded, movedOn⟩ := readLayout_eq_ok described
        rw [moved.position] at movedOn
        exact ⟨encoded, fun _ => notCore, moved.trans movedOn⟩
      · cases read

end Raster.Dib
