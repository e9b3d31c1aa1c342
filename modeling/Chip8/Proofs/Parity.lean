import Chip8.Proofs.Aborts
import Chip8.Proofs.Sprite

/-!
# What strokes add up to

A display is drawn on by strokes, which are sprite rows and single pixels. A stroke covers a set of pixels
and flips each of them once, so after any strokes on a blank display a pixel is on iff an odd number of them
cover it, and their order does not matter. A row tells whether it found a pixel on that it covers.

* **`Display.Stroke`**, `Stroke.Covers`, `Stroke.Fits`: strokes, the pixels that they cover, and when their
  columns are 64 bit numbers;
* `Display.draw`, `drawAll`, `Display.Checked.draw`, `drawAll`: strokes on a display, and in its array;
* `lit_draw`, `draw_row`: one stroke;
* **`lit_drawAll`**, `getElem?_drawAll`: strokes one after the other;
* **`strokes_add_up`**.
-/

namespace Chip8

namespace Pixel

variable {p : Pixel} {x y : Nat}

theorem eq_wrap_iff : p = wrap x y ↔ p.x.val = x % 64 ∧ p.y.val = y % 32 := by
  rw [Pixel.ext_iff, Fin.ext_iff, Fin.ext_iff]
  rfl

theorem ofCoordinates_eq_ok :
    ofCoordinates x y = .ok p ↔ p.x.val = x ∧ p.y.val = y := by
  constructor
  · intro h
    unfold ofCoordinates at h
    split at h
    · cases h
      exact ⟨rfl, rfl⟩
    · cases h
  · rintro ⟨rfl, rfl⟩
    exact dif_pos ⟨p.x.isLt, p.y.isLt⟩

end Pixel

namespace Display

/-- **What is drawn on a display.** -/
inductive Stroke where
  /-- A sprite row, which wraps around the edges. -/
  | row (x y : UInt64) (bits : UInt8)
  /-- A single pixel, whose coordinates do not wrap. -/
  | pixel (x y : UInt64)
  deriving DecidableEq, Repr

namespace Stroke

/-- **The pixels of a stroke**: those under the bits of a row that are set, or a single one. Coordinates
outside the display cover none. -/
def Covers : Stroke → Pixel → Prop
  | row x y bits, p => ∃ b < 8, bits.toNat.testBit (7 - b) = true ∧
      p.x.val = (x.toNat + b) % 64 ∧ p.y.val = y.toNat % 32
  | pixel x y, p => p.x.val = x.toNat ∧ p.y.val = y.toNat

instance (s : Stroke) (p : Pixel) : Decidable (s.Covers p) :=
  match s with
  | row .. => inferInstanceAs (Decidable (∃ b < 8, _ ∧ _ ∧ _))
  | pixel .. => inferInstanceAs (Decidable (_ ∧ _))

/-- All columns of a row are 64 bit numbers before they wrap. -/
def Fits : Stroke → Prop
  | row x _ _ => x.toNat + 7 < UInt64.size
  | pixel .. => True

instance (s : Stroke) : Decidable s.Fits :=
  match s with
  | row .. => inferInstanceAs (Decidable (_ < _))
  | pixel .. => inferInstanceAs (Decidable True)

/-- The pixels of a stroke in the order in which they are flipped. -/
def pixels : Stroke → List Pixel
  | row x y bits => rowPixels x.toNat y.toNat bits
  | pixel x y => (Pixel.ofCoordinates x.toNat y.toNat).toOption.toList

end Stroke

/-- The answer of a stroke, with the collision of a row, and the display after it. -/
def draw (d : Display) : Stroke → Except Fault (Option Bool) × Display
  | .row x y bits =>
    let (hit, after) := d.drawRow x.toNat y.toNat bits
    (.ok (some hit), after)
  | .pixel x y =>
    match d.toggle x.toNat y.toNat with
    | .ok after => (.ok none, after)
    | .error fault => (.error fault, d)

/-- The answers of strokes one after the other, and the display after them. -/
def drawAll (d : Display) : List Stroke → List (Except Fault (Option Bool)) × Display
  | [] => ([], d)
  | s :: strokes =>
    let (answer, d') := d.draw s
    let (answers, d'') := d'.drawAll strokes
    (answer :: answers, d'')

namespace Checked

/-- A stroke in the array of a display. -/
def draw (d : Display) : Stroke → Except Abort (Except Fault (Option Bool) × Display)
  | .row x y bits => do
    let (hit, after) ← drawRow d x y bits
    return (.ok (some hit), after)
  | .pixel x y => do
    match ← toggle d x y with
    | .ok after => return (.ok none, after)
    | .error fault => return (.error fault, d)

/-- **Strokes in the array of a display**, one after the other. -/
def drawAll (d : Display) :
    List Stroke → Except Abort (List (Except Fault (Option Bool)) × Display)
  | [] => return ([], d)
  | s :: strokes => do
    let (answer, d') ← draw d s
    let (answers, d'') ← drawAll d' strokes
    return (answer :: answers, d'')

end Checked

variable {d : Display} {s : Stroke} {strokes before after : List Stroke} {p : Pixel}

/-! ## One stroke -/

namespace Stroke

theorem mem_pixels : p ∈ s.pixels ↔ s.Covers p := by
  cases s with
  | row x y bits => simp only [pixels, mem_rowPixels, Covers, Pixel.eq_wrap_iff]
  | pixel x y =>
    rw [Covers, ← Pixel.ofCoordinates_eq_ok, pixels]
    cases Pixel.ofCoordinates x.toNat y.toNat <;> simp [Except.toOption, eq_comm]

theorem nodup_pixels (s : Stroke) : s.pixels.Nodup := by
  cases s with
  | row x y bits => exact nodup_rowPixels ..
  | pixel x y =>
    rw [pixels]
    cases (Pixel.ofCoordinates x.toNat y.toNat).toOption <;> simp

end Stroke

theorem draw_snd (d : Display) (s : Stroke) : (d.draw s).2 = (d.flipAll s.pixels).2 := by
  cases s with
  | row x y bits => rfl
  | pixel x y =>
    rw [draw, toggle, Stroke.pixels]
    cases Pixel.ofCoordinates x.toNat y.toNat <;> rfl

/-- **A stroke flips the pixels that it covers.** -/
theorem lit_draw (d : Display) (s : Stroke) (p : Pixel) :
    (d.draw s).2.lit p = (d.lit p ^^ decide (s.Covers p)) := by
  rw [draw_snd, lit_flipAll_of_nodup s.nodup_pixels]
  exact congrArg (d.lit p ^^ ·) (decide_eq_decide.mpr Stroke.mem_pixels)

/-- **A row tells whether a pixel that it covers was on.** -/
theorem draw_row (d : Display) (x y : UInt64) (bits : UInt8) :
    ∃ hit, (d.draw (.row x y bits)).1 = .ok (some hit) ∧
      (hit = true ↔ ∃ p, (Stroke.row x y bits).Covers p ∧ d.lit p = true) := by
  refine ⟨(d.drawRow x.toNat y.toNat bits).1, rfl, ?_⟩
  rw [drawRow, flipAll_fst_of_nodup (nodup_rowPixels ..)]
  exact exists_congr fun p => and_congr_left' (Stroke.mem_pixels (s := .row x y bits))

/-- A stroke that fits is carried out in the array. -/
theorem Checked.draw_eq (h : s.Fits) : draw d s = .ok (d.draw s) := by
  cases s with
  | row x y bits =>
    have hfits : rowFits x bits = true := by
      rw [rowFits, List.all_eq_true]
      intro b hb
      have hcolumn := List.mem_range.mp (List.mem_filter.mp hb).1
      have hlast : x.toNat + 7 < UInt64.size := h
      exact decide_eq_true (by omega)
    rw [draw, drawRow_eq, if_pos hfits]
    rfl
  | pixel x y =>
    rw [draw, toggle_eq, Display.draw]
    cases d.toggle x.toNat y.toNat <;> rfl

/-! ## Strokes one after the other -/

theorem drawAll_cons (d : Display) (s : Stroke) (strokes : List Stroke) :
    d.drawAll (s :: strokes) =
      ((d.draw s).1 :: ((d.draw s).2.drawAll strokes).1, ((d.draw s).2.drawAll strokes).2) := rfl

/-- **A pixel changes iff an odd number of strokes cover it.** -/
theorem lit_drawAll (d : Display) (strokes : List Stroke) (p : Pixel) :
    (d.drawAll strokes).2.lit p =
      (d.lit p ^^ decide (strokes.countP (fun s => s.Covers p) % 2 = 1)) := by
  induction strokes generalizing d with
  | nil => simp [drawAll]
  | cons s strokes ih =>
    rw [drawAll_cons, ih, lit_draw, List.countP_cons, Bool.xor_assoc]
    by_cases h : s.Covers p
    · simp only [h, decide_true, if_true, decide_odd_succ, Bool.true_xor]
    · simp only [h, decide_false, Bool.false_eq_true, if_false, Bool.false_xor, Nat.add_zero]

/-- The answer of a stroke is the one that it gets on the display at its turn. -/
theorem getElem?_drawAll (d : Display) (before : List Stroke) (s : Stroke) (after : List Stroke) :
    (d.drawAll (before ++ s :: after)).1[before.length]? = some ((d.drawAll before).2.draw s).1 := by
  induction before generalizing d with
  | nil => rfl
  | cons first before ih => exact ih (d.draw first).2

/-- **The order of strokes does not matter.** -/
theorem drawAll_perm {strokes' : List Stroke} (h : strokes'.Perm strokes) (d : Display) :
    (d.drawAll strokes').2 = (d.drawAll strokes).2 := by
  apply ext_lit
  intro p
  rw [lit_drawAll, lit_drawAll, h.countP_eq]

/-- **Strokes that fit are carried out in the array.** -/
theorem Checked.drawAll_eq (h : ∀ s ∈ strokes, s.Fits) : drawAll d strokes = .ok (d.drawAll strokes) := by
  induction strokes generalizing d with
  | nil => rfl
  | cons s strokes ih =>
    obtain ⟨hfirst, hrest⟩ := List.forall_mem_cons.mp h
    rw [drawAll]
    simp only [draw_eq hfirst, bind, Except.bind, ih hrest]
    rfl

/-- **What strokes add up to.** Any strokes that fit are carried out on a blank display. A pixel is on after
them iff an odd number of them cover it, in every order of the strokes the display after them is the same,
and each row tells whether one of the pixels that it covers was on just before it. -/
theorem strokes_add_up (h : ∀ s ∈ strokes, s.Fits) :
    ∃ answers d, Checked.drawAll blank strokes = .ok (answers, d) ∧
      (∀ p, d.lit p = true ↔ strokes.countP (fun s => s.Covers p) % 2 = 1) ∧
      (∀ strokes' : List Stroke, strokes'.Perm strokes →
        ∃ answers', Checked.drawAll blank strokes' = .ok (answers', d)) ∧
      ∀ before x y bits after, strokes = before ++ .row x y bits :: after →
        ∃ earlier now hit, Checked.drawAll blank before = .ok (earlier, now) ∧
          answers[before.length]? = some (.ok (some hit)) ∧
          (hit = true ↔ ∃ p, (Stroke.row x y bits).Covers p ∧ now.lit p = true) := by
  refine ⟨_, _, Checked.drawAll_eq h, ?_, ?_, ?_⟩
  · intro p
    rw [lit_drawAll, lit_blank, Bool.false_xor, decide_eq_true_iff]
  · intro strokes' hperm
    have hfits : ∀ s ∈ strokes', s.Fits := fun s hs => h s (hperm.mem_iff.mp hs)
    rw [Checked.drawAll_eq hfits, ← drawAll_perm hperm]
    exact ⟨_, rfl⟩
  · rintro before x y bits after rfl
    have hbefore : ∀ s ∈ before, s.Fits := fun s hs => h s (List.mem_append_left _ hs)
    obtain ⟨hit, hanswer, hhit⟩ := (blank.drawAll before).2.draw_row x y bits
    refine ⟨_, _, hit, Checked.drawAll_eq hbefore, ?_, hhit⟩
    rw [getElem?_drawAll, hanswer]

/-- A row across the right edge, the pixel in the corner, and a shorter row that starts there. -/
def cornerStrokes : List Stroke := [.row 62 32 0xF0, .pixel 0 0, .row 0 0 0xC0]

/-- Three strokes cover the corner, so it is on; two cover the pixel beside it, which the last row turns off.
The other way round they give the same display. -/
theorem strokes_add_up_in_corner :
    (∀ s ∈ cornerStrokes, s.Fits) ∧
      ∃ answers d, Checked.drawAll blank cornerStrokes = .ok (answers, d) ∧
        d.lit ⟨0, 0⟩ = true ∧ d.lit ⟨1, 0⟩ ≠ true ∧ answers[2]? = some (.ok (some true)) ∧
        ∃ answers', Checked.drawAll blank cornerStrokes.reverse = .ok (answers', d) := by
  have hfits : ∀ s ∈ cornerStrokes, s.Fits := by decide
  obtain ⟨answers, d, hdraw, hlit, hperm, hrow⟩ := strokes_add_up hfits
  obtain ⟨earlier, now, hit, hnow, hanswer, hhit⟩ := hrow [.row 62 32 0xF0, .pixel 0 0] 0 0 0xC0 [] rfl
  have hbeside : now.lit ⟨1, 0⟩ = true := by
    have hfirst : ∀ s ∈ cornerStrokes.take 2, s.Fits := by decide
    obtain ⟨_, now', hnow', hlit', -⟩ := strokes_add_up hfirst
    cases hnow.symm.trans hnow'
    exact (hlit' _).mpr (by decide)
  have hturned : hit = true := hhit.mpr ⟨⟨1, 0⟩, by decide, hbeside⟩
  refine ⟨hfits, answers, d, hdraw, (hlit _).mpr (by decide), (hlit _).not.mpr (by decide), ?_,
    hperm _ (List.reverse_perm cornerStrokes)⟩
  rw [← hturned]
  exact hanswer

end Display

end Chip8
