import Raster.Loader
import Raster.Proofs.Png.Alphas
import Raster.Proofs.Png.Passes
import Raster.Proofs.Png.Plane

/-!
A mask that holds a picture gives each pixel the alpha that the picture has there. Reading the
mask, in one pass or in seven, paints the places of its stored rows one after the other; together
these are all places of the image.
-/

namespace Raster.Png

namespace Picture

variable (picture : Picture)

def paint : List (Nat × Nat) → Array UInt8 → Except Failure (Array UInt8)
  | [], plane => .ok plane
  | (y, x) :: later, plane =>
      if picture.Covers y x then
        paint later (plane.setIfInBounds (y * picture.width + x) (UInt8.ofNat (picture.alpha y x)))
      else .error (.refused (.decode .paletteIndexOutOfRange))

theorem paint_append (first second : List (Nat × Nat)) (plane : Array UInt8) :
    picture.paint (first ++ second) plane = picture.paint first plane >>= picture.paint second := by
  induction first generalizing plane with
  | nil => rfl
  | cons place later ih =>
      obtain ⟨y, x⟩ := place
      rw [List.cons_append, paint, paint]
      split
      · exact ih _
      · rfl

theorem paint_size {places : List (Nat × Nat)} {plane next : Array UInt8}
    (painted : picture.paint places plane = .ok next) : next.size = plane.size := by
  induction places generalizing plane with
  | nil =>
      simp only [paint, Except.ok.injEq] at painted
      rw [painted]
  | cons place later ih =>
      obtain ⟨y, x⟩ := place
      rw [paint] at painted
      split at painted
      · rw [ih painted, Array.size_setIfInBounds]
      · simp at painted

def PaintedAt (plane : Array UInt8) (place : Nat × Nat) : Prop :=
  plane[place.1 * picture.width + place.2]? = some (UInt8.ofNat (picture.alpha place.1 place.2))

theorem PaintedAt.set {picture : Picture} {plane : Array UInt8} {place : Nat × Nat}
    (painted : picture.PaintedAt plane place) (inside : place.2 < picture.width) {y x : Nat}
    (column : x < picture.width) :
    picture.PaintedAt
      (plane.setIfInBounds (y * picture.width + x) (UInt8.ofNat (picture.alpha y x))) place := by
  rw [PaintedAt, Array.getElem?_setIfInBounds]
  split
  · rename_i same
    have row : y = place.1 := by
      have divided := congrArg (· / picture.width) same
      simpa only [Bitmap.slot_div (Nat.le_refl _) column,
        Bitmap.slot_div (Nat.le_refl _) inside] using divided
    have place : x = place.2 := by
      rw [row] at same
      omega
    split
    · rw [row, place]
    · rename_i outside
      obtain ⟨bound, -⟩ := Array.getElem?_eq_some_iff.mp painted
      omega
  · exact painted

theorem paint_eq_ok {places : List (Nat × Nat)} {plane : Array UInt8}
    (size : plane.size = picture.width * picture.height)
    (inside : ∀ place ∈ places, place.1 < picture.height ∧ place.2 < picture.width)
    (covered : ∀ place ∈ places, picture.Covers place.1 place.2) :
    ∃ next, picture.paint places plane = .ok next ∧
      (∀ place : Nat × Nat, place.2 < picture.width →
        place ∈ places ∨ picture.PaintedAt plane place → picture.PaintedAt next place) := by
  induction places generalizing plane with
  | nil =>
      refine ⟨plane, rfl, ?_⟩
      rintro place - (member | painted)
      · simp at member
      · exact painted
  | cons place later ih =>
      obtain ⟨y, x⟩ := place
      have first := inside (y, x) (by simp)
      have slot : y * picture.width + x < plane.size := by
        have next : (y + 1) * picture.width ≤ picture.height * picture.width :=
          Nat.mul_le_mul_right _ first.1
        have column : x < picture.width := first.2
        rw [Nat.add_mul] at next
        rw [size, Nat.mul_comm picture.width]
        omega
      have sizeNext : (plane.setIfInBounds (y * picture.width + x)
          (UInt8.ofNat (picture.alpha y x))).size = picture.width * picture.height := by
        rw [Array.size_setIfInBounds, size]
      obtain ⟨next, painted, reached⟩ := ih sizeNext
        (fun place member => inside place (by simp [member]))
        (fun place member => covered place (by simp [member]))
      refine ⟨next, ?_, ?_⟩
      · rw [paint, if_pos (covered (y, x) (by simp))]
        exact painted
      · rintro place column (member | painted)
        · cases member with
          | head =>
              apply reached (y, x) column
              right
              simp [PaintedAt, slot]
          | tail _ member => exact reached place column (.inl member)
        · exact reached place column (.inr (painted.set column first.2))

theorem paint_eq_error {places : List (Nat × Nat)} (plane : Array UInt8)
    (missing : ∃ place ∈ places, ¬picture.Covers place.1 place.2) :
    picture.paint places plane = .error (.refused (.decode .paletteIndexOutOfRange)) := by
  induction places generalizing plane with
  | nil => simp at missing
  | cons place later ih =>
      obtain ⟨y, x⟩ := place
      rw [paint]
      split
      · rename_i covers
        obtain ⟨place, member, misses⟩ := missing
        cases member with
        | head => exact absurd covers misses
        | tail _ member => exact ih _ ⟨place, member, misses⟩
      · rfl

def plane : Array UInt8 :=
  Array.ofFn fun slot : Fin (picture.width * picture.height) =>
    UInt8.ofNat (picture.alpha (slot / picture.width) (slot % picture.width))

theorem eq_plane {plane : Array UInt8} (size : plane.size = picture.width * picture.height)
    (painted : ∀ y x, y < picture.height → x < picture.width → picture.PaintedAt plane (y, x)) :
    plane = picture.plane := by
  apply Array.ext
  · rw [size, Picture.plane, Array.size_ofFn]
  · intro slot bound _
    have row : slot / picture.width < picture.height := by
      rw [Nat.div_lt_iff_lt_mul picture.hasColumns, Nat.mul_comm]
      omega
    have here := painted _ _ row (Nat.mod_lt slot picture.hasColumns)
    rw [PaintedAt] at here
    simp only [Nat.div_add_mod', Array.getElem?_eq_getElem bound, Option.some.injEq] at here
    simp [here, Picture.plane]

/-! Reading a mask is painting the places of its stored rows. -/

namespace StoredIn

variable {picture : Picture} {interlaced : Bool} {mask : Mask}

theorem header_width (stored : picture.StoredIn interlaced mask) :
    mask.header.width.toNat = picture.width := by
  have bound := picture.widthBound
  rw [stored.header]
  exact UInt32.toNat_ofNat_of_lt' bound

theorem header_height (stored : picture.StoredIn interlaced mask) :
    mask.header.height.toNat = picture.height := by
  have bound := picture.heightBound
  rw [stored.header]
  exact UInt32.toNat_ofNat_of_lt' bound

theorem writeAlphas_eq (stored : picture.StoredIn interlaced mask) {pass : Pass} {y : Nat}
    {places : List (Nat × Nat)} {row : Array UInt8} (packed : picture.PackedRow places row)
    (located : ∀ x, (bound : x < places.length) → places[x] =
      ((pass.imageY (UInt32.ofNat y)).toNat, (pass.imageX (UInt32.ofNat x)).toNat))
    (inside : ∀ place ∈ places, place.1 < picture.height ∧ place.2 < picture.width) :
    ∀ (count x : Nat) (plane : Array UInt8), x + count = places.length →
      plane.size = picture.width * picture.height →
      writeAlphas mask pass
        (unpackRow row (places.length * picture.colour.samples) picture.depth picture.colour)
        y x count plane = picture.paint (places.drop x) plane := by
  intro count
  induction count with
  | zero =>
      intro x plane reach _
      rw [List.drop_eq_nil_of_le (by omega)]
      rfl
  | succ count ih =>
      intro x plane reach size
      have bound : x < places.length := by omega
      have colour : mask.header.colour = picture.colour := by rw [stored.header]
      have place := located x bound
      have within := inside places[x] (List.getElem_mem bound)
      rw [writeAlphas, colour, picture.maskAlpha_eq stored.palette packed bound,
        List.drop_eq_getElem_cons bound, place, paint]
      rw [place] at within
      generalize (pass.imageY (UInt32.ofNat y)).toNat = imageY at within ⊢
      generalize (pass.imageX (UInt32.ofNat x)).toNat = imageX at within ⊢
      by_cases covers : picture.Covers imageY imageX
      · have slot : imageY * picture.width + imageX < plane.size := by
          have next : (imageY + 1) * picture.width ≤ picture.height * picture.width :=
            Nat.mul_le_mul_right _ within.1
          have column : imageX < picture.width := within.2
          rw [Nat.add_mul] at next
          rw [size, Nat.mul_comm picture.width]
          omega
        simp only [covers, if_true, stored.header_width, slot]
        exact ih (x + 1) _ (by omega) (by rw [Array.size_setIfInBounds, size])
      · simp only [covers, if_false]

theorem readPass_eq (stored : picture.StoredIn interlaced mask) {pass : Pass}
    (regular : pass.Regular picture.width picture.height) {rest : List (List (Nat × Nat))} :
    ∀ (count y : Nat) (rows : List (Array UInt8)) (plane : Array UInt8),
      y + count = (pass.lines picture.height).length →
      plane.size = picture.width * picture.height →
      List.Forall₂ picture.PackedRow
        ((pass.places picture.width picture.height).drop y ++ rest) rows →
      let painted := picture.paint ((pass.places picture.width picture.height).drop y).flatten plane
      let read := readPass mask pass (pass.columns picture.width).length y count rows plane
      (∀ error, painted = .error error → read = .error error) ∧
      (∀ next, painted = .ok next →
        ∃ later, List.Forall₂ picture.PackedRow rest later ∧ read = .ok (next, later)) := by
  intro count
  induction count with
  | zero =>
      intro y rows plane reach _ packed
      rw [List.drop_eq_nil_of_le (by simp; omega)] at packed ⊢
      constructor
      · intro error failed
        simp [paint] at failed
      · intro next painted
        simp only [List.flatten_nil, paint, Except.ok.injEq] at painted
        exact ⟨rows, packed, by rw [painted]; rfl⟩
  | succ count ih =>
      intro y rows plane reach size packed
      have lineBound : y < (pass.lines picture.height).length := by omega
      have bound : y < (pass.places picture.width picture.height).length := by
        rw [Pass.length_places]
        exact lineBound
      rw [List.drop_eq_getElem_cons bound, Pass.getElem_places regular bound] at packed ⊢
      cases packed with
      | @cons _ row _ remaining first following =>
          have below := Pass.imageY_lt regular lineBound
          have written := stored.writeAlphas_eq first
            (fun x bound => Pass.getElem_rowPlaces regular bound)
            (Pass.rowPlaces_inside below) _ 0 plane (Nat.zero_add _) size
          have full := picture.unpackRow_size first
          rw [Pass.length_rowPlaces] at written full
          rw [readPass]
          simp only [stored.header, full, Nat.lt_irrefl, if_false, written, List.drop_zero,
            List.flatten_cons, paint_append]
          cases painted : picture.paint
              (pass.rowPlaces picture.width (pass.imageY (UInt32.ofNat y)).toNat) plane with
          | error error => simp [bind, Except.bind]
          | ok next =>
              exact ih (y + 1) remaining next (by omega)
                ((picture.paint_size painted).trans size) following

theorem readPasses_eq (stored : picture.StoredIn interlaced mask) :
    ∀ (passes : List Pass) (rows : List (Array UInt8)) (plane : Array UInt8),
      (∀ pass ∈ passes, pass.Regular picture.width picture.height) →
      plane.size = picture.width * picture.height →
      List.Forall₂ picture.PackedRow
        (passes.flatMap fun pass => pass.lattice.rows picture.width picture.height) rows →
      readPasses mask passes rows plane = picture.paint
        (passes.flatMap fun pass => pass.lattice.rows picture.width picture.height).flatten
        plane := by
  intro passes
  induction passes with
  | nil =>
      intro rows plane _ _ _
      rfl
  | cons pass later ih =>
      intro rows plane regular size packed
      have first := regular pass (by simp)
      have rest : ∀ pass ∈ later, pass.Regular picture.width picture.height :=
        fun pass member => regular pass (by simp [member])
      have wide := Pass.width_toNat first
      have high := Pass.height_toNat first
      rw [List.flatMap_cons, Pass.lattice_rows first] at packed ⊢
      rw [readPasses]
      simp only [stored.header, wide, high]
      split
      · rename_i empty
        rw [if_pos empty, List.nil_append] at packed
        exact ih rows plane rest size packed
      · rename_i filled
        rw [if_neg filled] at packed
        obtain ⟨fails, reads⟩ :=
          stored.readPass_eq first _ 0 rows plane (Nat.zero_add _) size packed
        rw [List.drop_zero] at fails reads
        rw [List.flatten_append, paint_append]
        cases painted : picture.paint (pass.places picture.width picture.height).flatten plane with
        | error error =>
            rw [fails error painted]
            rfl
        | ok next =>
            obtain ⟨remaining, following, read⟩ := reads next painted
            rw [read]
            exact ih remaining next rest ((picture.paint_size painted).trans size) following

theorem alphas_eq (stored : picture.StoredIn interlaced mask) :
    mask.alphas = picture.paint (storedRows interlaced picture.width picture.height).flatten
      (Array.replicate (picture.width * picture.height) 0) := by
  have rows : storedRows interlaced picture.width picture.height =
      (Pass.all interlaced).flatMap fun pass =>
        pass.lattice.rows picture.width picture.height := by
    rw [storedRows, ← Pass.all_map_lattice, List.flatMap_map]
  have kind : mask.header.interlaced = interlaced := by rw [stored.header]
  have packed := stored.rows
  rw [rows] at packed ⊢
  rw [Mask.alphas, stored.header_width, stored.header_height, kind]
  have regular := Pass.all_regular picture.widthBound picture.heightBound stored.roundsUp
  exact stored.readPasses_eq _ _ _ regular (Array.size_replicate) packed

/-- However a picture is stored, its mask is read as the same plane. -/
theorem alphas_eq_plane (stored : picture.StoredIn interlaced mask)
    (covered : ∀ y x, y < picture.height → x < picture.width → picture.Covers y x) :
    mask.alphas = .ok picture.plane := by
  have inside : ∀ place ∈ (storedRows interlaced picture.width picture.height).flatten,
      place.1 < picture.height ∧ place.2 < picture.width := by
    intro place member
    obtain ⟨places, row, found⟩ := List.mem_flatten.mp member
    exact storedRows_inside row place found
  obtain ⟨plane, painted, reached⟩ := picture.paint_eq_ok
    (Array.size_replicate (v := (0 : UInt8))) inside
    fun place member => covered _ _ (inside place member).1 (inside place member).2
  rw [stored.alphas_eq, painted]
  congr 1
  apply picture.eq_plane
  · rw [picture.paint_size painted, Array.size_replicate]
  · intro y x row column
    obtain ⟨places, found, member⟩ := storedRows_cover interlaced row column
    exact reached (y, x) column (.inl (List.mem_flatten.mpr ⟨places, found, member⟩))

theorem alphas_eq_error (stored : picture.StoredIn interlaced mask) {y x : Nat}
    (row : y < picture.height) (column : x < picture.width) (missing : ¬picture.Covers y x) :
    mask.alphas = .error (.refused (.decode .paletteIndexOutOfRange)) := by
  obtain ⟨places, found, member⟩ := storedRows_cover interlaced row column
  rw [stored.alphas_eq]
  exact picture.paint_eq_error _ ⟨(y, x), List.mem_flatten.mpr ⟨places, found, member⟩, missing⟩

end StoredIn

end Picture

end Raster.Png
