import Raster.Backend.Decoders
import Raster.Operation

/-!
What loads write to the log about their failures. Main statement: a load that fails has one line of
the highest level in its log, the last one, with the text of the error; any other load has none.
-/

namespace Raster

namespace Event

def IsErrorLine (line : String) : Prop := "ERROR ".toList <+: line.toList

instance (line : String) : Decidable (IsErrorLine line) :=
  inferInstanceAs (Decidable ("ERROR ".toList <+: line.toList))

def lines (events : List Event) : List String := events.map render

def errorLines (events : List Event) : List String := (lines events).filter IsErrorLine

def Quiet (events : List Event) : Prop := errorLines events = []

@[simp] theorem lines_append (first second : List Event) :
    lines (first ++ second) = lines first ++ lines second :=
  List.map_append

@[simp] theorem errorLines_append (first second : List Event) :
    errorLines (first ++ second) = errorLines first ++ errorLines second := by
  rw [errorLines, lines_append, List.filter_append]
  rfl

theorem render_failed (reporter : Reporter) (error : Error) :
    (Event.failed reporter error).render =
      "ERROR " ++ reporter.text ++ " | error=" ++ error.message :=
  rfl

theorem isErrorLine_render (event : Event) :
    IsErrorLine event.render ↔ event.isFailure = true := by
  cases event with
  | detected format => cases format <;> decide +kernel
  | rewindFailed => decide +kernel
  | markerInserted => decide +kernel
  | failed reporter error =>
      refine iff_of_true ?_ rfl
      rw [IsErrorLine, render_failed]
      simp only [String.append_assoc, String.toList_append, List.prefix_append]

theorem quiet_iff (events : List Event) :
    Quiet events ↔ ∀ event ∈ events, event.isFailure = false := by
  rw [Quiet, errorLines, List.filter_eq_nil_iff]
  simp only [lines, List.forall_mem_map, decide_eq_true_eq, isErrorLine_render,
    Bool.not_eq_true]

theorem Quiet.append {first second : List Event} (quietFirst : Quiet first)
    (quietSecond : Quiet second) : Quiet (first ++ second) := by
  rw [Quiet, errorLines_append, quietFirst, quietSecond]
  rfl

theorem errorLines_failed (reporter : Reporter) (error : Error) :
    errorLines [.failed reporter error] = [(Event.failed reporter error).render] := by
  have shown : IsErrorLine (Event.failed reporter error).render :=
    (isErrorLine_render _).mpr rfl
  simp only [errorLines, lines, List.map_cons, List.map_nil, List.filter_cons, shown,
    decide_true, if_true, List.filter_nil]

end Event

/-! Before a load fails it logs nothing but detection and ends of data. -/

theorem Jpeg.Input.events_quiet (input : Jpeg.Input) : Event.Quiet input.events := by
  rw [Event.quiet_iff]
  intro event member
  rw [List.eq_of_mem_replicate member]
  rfl

variable (decoders : Decoders)

theorem probe_quiet (format : ImageFormat) (stream : Stream) :
    Event.Quiet (probe decoders format stream).events := by
  cases format with
  | jpeg => exact Jpeg.Input.events_quiet _
  | png => rfl
  | dib => rfl
  | unknown => rfl

theorem detected_quiet (format : ImageFormat) : Event.Quiet [.detected format] :=
  (Event.quiet_iff _).mpr (by simp [Event.isFailure])

theorem rewindFailed_quiet : Event.Quiet [.rewindFailed] :=
  (Event.quiet_iff _).mpr (by simp [Event.isFailure])

theorem tryFormats_quiet (start : Nat) (formats : List ImageFormat) {stream : Stream}
    {events : List Event} (quiet : Event.Quiet events) :
    Event.Quiet (tryFormats decoders start formats stream events).events := by
  induction formats generalizing stream events with
  | nil => exact quiet.append (detected_quiet .unknown)
  | cons format later ih =>
      have probed := quiet.append (probe_quiet decoders format stream)
      rw [tryFormats]
      split
      · exact probed.append rewindFailed_quiet
      · split
        · exact probed.append (detected_quiet format)
        · exact ih probed

theorem detectFormat_quiet (stream : Stream) :
    Event.Quiet (detectFormat decoders stream).events := by
  rw [detectFormat]
  split
  · rfl
  · exact tryFormats_quiet decoders _ _ rfl

namespace Load

variable {α β : Type}

/-- An error that comes back is the last line of the log and the only one of its level; a success
logs none, and nor does a panic. -/
def LogsFailureOnce (load : Load α) (reporter : Reporter) : Prop :=
  match load.outcome with
  | .error (.refused error) =>
      let line := "ERROR " ++ reporter.text ++ " | error=" ++ error.message
      Event.errorLines load.events = [line] ∧ (Event.lines load.events).getLast? = some line
  | _ => Event.errorLines load.events = []

theorem logsFailureOnce_of_refused {load : Load α} {reporter : Reporter} {error : Error}
    {earlier : List Event} (failed : load.outcome = .error (.refused error))
    (events : load.events = earlier ++ [.failed reporter error]) (quiet : Event.Quiet earlier) :
    load.LogsFailureOnce reporter := by
  rw [LogsFailureOnce, failed]
  dsimp only
  rw [events, Event.errorLines_append, Event.errorLines_failed, Event.lines_append, quiet]
  exact ⟨rfl, List.getLast?_concat ..⟩

theorem LogsFailureOnce.map {load : Load α} {reporter : Reporter} (change : α → β)
    (once : load.LogsFailureOnce reporter) : (load.map change).LogsFailureOnce reporter := by
  rw [LogsFailureOnce] at once ⊢
  rw [Load.map]
  cases outcome : load.outcome with
  | ok value =>
      rw [outcome] at once
      exact once
  | error failure =>
      rw [outcome] at once
      cases failure <;> exact once

theorem LogsFailureOnce.after {load : Load α} {reporter : Reporter} {earlier : List Event}
    (quiet : Event.Quiet earlier) (once : load.LogsFailureOnce reporter) :
    { load with events := earlier ++ load.events }.LogsFailureOnce reporter := by
  rw [LogsFailureOnce] at once ⊢
  dsimp only
  rw [Event.errorLines_append, Event.lines_append, quiet, List.nil_append]
  cases outcome : load.outcome with
  | ok value =>
      rw [outcome] at once
      exact once
  | error failure =>
      rw [outcome] at once
      cases failure with
      | refused error => exact ⟨once.1, by rw [List.getLast?_append, once.2]; rfl⟩
      | panicked => exact once

theorem replacing_logsFailureOnce (reporter : Reporter) (target : Bitmap)
    (outcome : Except Failure (Bitmap × α)) (stream : Stream) {events : List Event}
    (quiet : Event.Quiet events) :
    (replacing reporter target outcome stream events).LogsFailureOnce reporter := by
  cases outcome with
  | ok decoded => exact quiet
  | error failure =>
      cases failure with
      | refused error => exact logsFailureOnce_of_refused rfl rfl quiet
      | panicked => exact quiet

end Load

theorem loadDib_logsFailureOnce (limits : Limits) (target : Bitmap) (stream : Stream) :
    (loadDib limits target stream).LogsFailureOnce .dib :=
  Load.replacing_logsFailureOnce _ _ _ _ rfl

def PngMode.reporter : PngMode → Reporter
  | .replace => .png
  | .overlayAlpha => .overlay

def ImageFormat.reporter : ImageFormat → Reporter
  | .png => .png
  | .jpeg => .jpeg
  | .dib => .dib
  | .unknown => .dispatch

section Loaders

variable (decoders : Decoders) (limits : Limits) (target : Bitmap) (stream : Stream)

theorem loadJpeg_logsFailureOnce : (loadJpeg decoders limits target stream).LogsFailureOnce .jpeg :=
  Load.replacing_logsFailureOnce _ _ _ _ (Jpeg.Input.events_quiet _)

theorem loadPng_logsFailureOnce (mode : PngMode) :
    (loadPng decoders limits mode target stream).LogsFailureOnce mode.reporter := by
  cases mode with
  | replace => exact Load.replacing_logsFailureOnce _ _ _ _ rfl
  | overlayAlpha =>
      rw [loadPng]
      dsimp only
      split
      · rfl
      · exact Load.logsFailureOnce_of_refused rfl (List.nil_append _).symm rfl
      · rfl

theorem loadFormat_logsFailureOnce (format : ImageFormat) :
    (loadFormat decoders limits format target stream).LogsFailureOnce format.reporter := by
  cases format with
  | png => exact loadPng_logsFailureOnce decoders limits target stream .replace
  | jpeg => exact (loadJpeg_logsFailureOnce decoders limits target stream).map _
  | dib => exact (loadDib_logsFailureOnce limits target stream).map _
  | unknown => exact Load.logsFailureOnce_of_refused rfl (List.nil_append _).symm rfl

end Loaders

def Loader.reporter (decoders : Decoders) (stream : Stream) : Loader → Reporter
  | .dib => .dib
  | .jpeg => .jpeg
  | .png mode => mode.reporter
  | .detecting => (detectFormat decoders stream).format.reporter

/-- Whatever loader is called, and whatever the decoders do, each error is logged once, by the
loader that met with it and as the last line, and nothing else is logged as an error: not by
detection, and not by the loader that runs another one. -/
theorem failure_logged_once (decoders : Decoders) (loader : Loader) (limits : Limits)
    (target : Bitmap) (stream : Stream) :
    (loader.load decoders limits target stream).LogsFailureOnce (loader.reporter decoders stream) ∧
    Event.errorLines (detectFormat decoders stream).events = [] := by
  refine ⟨?_, detectFormat_quiet decoders stream⟩
  cases loader with
  | dib => exact (loadDib_logsFailureOnce limits target stream).map _
  | jpeg => exact (loadJpeg_logsFailureOnce decoders limits target stream).map _
  | png mode => exact (loadPng_logsFailureOnce decoders limits target stream mode).map _
  | detecting =>
      have inner := loadFormat_logsFailureOnce decoders limits target
        (detectFormat decoders stream).stream (detectFormat decoders stream).format
      exact (inner.after (detectFormat_quiet decoders stream)).map _

example :
    let stream := Stream.ofBytes #[0x42, 0x4d] 0 (FaultPlan.none.failSeek 1)
    Event.lines (load Backend.decoders Limits.standard Bitmap.empty stream).events =
      ["DEBUG could not rewind stream after header check | error=seek failed",
        "ERROR cannot load image | error=validation error: unrecognised image format"] := by
  decide +kernel

end Raster
