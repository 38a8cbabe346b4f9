import Raster.Proofs.Detection

/-!
Order of the header checks. Main statement: on a stream where nothing fails, what a check accepts
starts with the mark of its format, no two checks accept the same data, and so the detected format
does not depend on the order in which the checks are made.
-/

namespace Raster

section Orders

variable {decoders : Decoders} (marked : decoders.jpeg.Marked) {stream : Stream}
  (quiet : stream.Quiet) {order other : List ImageFormat} {format : ImageFormat}

include marked quiet

theorem find?_of_matched (tried : format ∈ order)
    (matched : (probe decoders format stream).matched = true) :
    (order.find? fun format => (probe decoders format stream).matched) = some format := by
  cases found : order.find? fun format => (probe decoders format stream).matched with
  | none => exact absurd matched (List.find?_eq_none.mp found format tried)
  | some first =>
      have accepted := List.find?_some found
      exact congrArg some (probe_unique marked quiet accepted matched)

theorem find?_congr (same : ∀ format, format ∈ order ↔ format ∈ other) :
    (order.find? fun format => (probe decoders format stream).matched) =
      other.find? fun format => (probe decoders format stream).matched := by
  by_cases accepted : ∃ format ∈ order, (probe decoders format stream).matched = true
  · obtain ⟨format, tried, matched⟩ := accepted
    rw [find?_of_matched marked quiet tried matched,
      find?_of_matched marked quiet ((same format).mp tried) matched]
  · have refused : ∀ format ∈ order, ¬(probe decoders format stream).matched = true := by
      intro format tried matched
      exact accepted ⟨format, tried, matched⟩
    have otherRefused : ∀ format ∈ other, ¬(probe decoders format stream).matched = true := by
      intro format tried
      exact refused format ((same format).mpr tried)
    rw [List.find?_eq_none.mpr refused, List.find?_eq_none.mpr otherRefused]

end Orders

/-- On a stream where nothing fails, the data that a header check accepts starts with the mark of
its format, and all bytes of the mark are data of the stream. At most one check accepts, and the
first one to accept is the same in every order of the three. If nothing but the bytes decides
what the JPEG decoder does, detection in any order comes to the same format. -/
theorem probes_exclusive {decoders : Decoders} (marked : decoders.jpeg.Marked) {stream : Stream}
    (quiet : stream.Quiet) :
    (∀ format, (probe decoders format stream).matched = true → stream.StartsWith format.mark) ∧
    (∀ format other, (probe decoders format stream).matched = true →
      (probe decoders other stream).matched = true → format = other) ∧
    (∀ order : List ImageFormat, order.Perm probeOrder →
      (order.find? fun format => (probe decoders format stream).matched) =
        probeOrder.find? fun format => (probe decoders format stream).matched) ∧
    (decoders.jpeg.Bytewise → ∀ order, order.Perm probeOrder →
      (detectAmong decoders order stream).format = (detectFormat decoders stream).format) := by
  refine ⟨?_, ?_, ?_, ?_⟩
  · intro format matched
    exact probe_mark marked quiet matched
  · intro format other matched otherMatched
    exact probe_unique marked quiet matched otherMatched
  · intro order shuffled
    exact find?_congr marked quiet fun format => shuffled.mem_iff
  · intro bytewise order shuffled
    rw [detectFormat_eq, detectAmong_format bytewise quiet, detectAmong_format bytewise quiet,
      find?_congr marked quiet fun format => shuffled.mem_iff]

namespace Stream

def lone : Stream := .ofBytes #[0x00, 0xff] 1 FaultPlan.none

theorem lone_quiet : lone.Quiet := ⟨fun _ _ => nofun, fun _ => rfl, fun _ => rfl⟩

def headed : Stream := .ofBytes
  #[0x42, 0x4d, 58, 0, 0, 0, 0, 0, 0, 0, 54, 0, 0, 0, 40, 0, 0, 0] 0 (FaultPlan.none.shorten 5)

theorem headed_quiet : headed.Quiet := ⟨fun _ _ => nofun, fun _ => rfl, fun _ => rfl⟩

theorem lone_detected : (detectFormat Decoders.known lone).format = .unknown := by
  have refused : ∀ format ∈ probeOrder, ¬(probe Decoders.known format lone).matched = true := by
    intro format tried matched
    have starts := probe_mark Decoders.known_marked lone_quiet matched
    revert starts tried
    cases format <;> decide
  rw [detectFormat_eq, detectAmong_format Decoders.known_bytewise lone_quiet,
    List.find?_eq_none.mpr refused]
  rfl

theorem headed_matched : (probe Decoders.known .dib headed).matched = true := by
  decide +kernel

theorem headed_detected : (detectFormat Decoders.known headed).format = .dib := by
  have tried : ImageFormat.dib ∈ probeOrder := by decide
  rw [detectFormat_eq, detectAmong_format Decoders.known_bytewise headed_quiet,
    find?_of_matched Decoders.known_marked headed_quiet tried headed_matched]
  rfl

end Stream

theorem probes_exclusive_samples :
    (Decoders.known.jpeg.Marked ∧ Decoders.known.jpeg.Bytewise) ∧
    (Stream.lone.Quiet ∧ (detectFormat Decoders.known Stream.lone).format = .unknown ∧
      (detectAmong Decoders.known [.jpeg, .dib, .png] Stream.lone).format = .unknown) ∧
    (Stream.headed.Quiet ∧ Stream.headed.StartsWith ImageFormat.dib.mark ∧
      (detectFormat Decoders.known Stream.headed).format = .dib ∧
      (detectAmong Decoders.known [.dib, .jpeg, .png] Stream.headed).format = .dib) ∧
    ((Schedule.whole Jpeg.speck 0).Quiet ∧
      (detectFormat Decoders.known (Schedule.whole Jpeg.speck 0)).format = .jpeg ∧
      (detectAmong Decoders.known [.dib, .jpeg, .png] (Schedule.whole Jpeg.speck 0)).format =
        .jpeg) := by
  have shuffled : [ImageFormat.jpeg, .dib, .png].Perm probeOrder := by decide
  have reversed : [ImageFormat.dib, .jpeg, .png].Perm probeOrder := by decide
  have quiet := (Schedule.whole_torn Jpeg.speck 0).left
  obtain ⟨-, -, -, lone⟩ := probes_exclusive Decoders.known_marked Stream.lone_quiet
  obtain ⟨starts, -, -, headed⟩ := probes_exclusive Decoders.known_marked Stream.headed_quiet
  obtain ⟨-, -, -, speck⟩ := probes_exclusive Decoders.known_marked quiet
  exact ⟨⟨Decoders.known_marked, Decoders.known_bytewise⟩,
    ⟨Stream.lone_quiet, Stream.lone_detected,
      (lone Decoders.known_bytewise _ shuffled).trans Stream.lone_detected⟩,
    ⟨Stream.headed_quiet, starts .dib Stream.headed_matched, Stream.headed_detected,
      (headed Decoders.known_bytewise _ reversed).trans Stream.headed_detected⟩,
    quiet, Schedule.speck_detected,
      (speck Decoders.known_bytewise _ reversed).trans Schedule.speck_detected⟩

end Raster
