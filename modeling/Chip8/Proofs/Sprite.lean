import Chip8.Display
import Mathlib.Data.List.Nodup
import Mathlib.Data.List.Count
import Mathlib.Tactic.Common

/-!
# Sprites

Flipping pixels one after the other adds parities: a pixel changes iff it is flipped an odd number of
times (`lit_flipAll`). The pixels of a sprite of at most 32 rows are distinct although they wrap
around both edges (`nodup_spritePixels`), so a draw is one exclusive or with a set of pixels, and what
it turns off is what was on before it.

* `Display.Covers`: the set of pixels of a sprite;
* **`lit_drawSprite`**, **`drawSprite_fst`**: the display and the collision after a draw.
-/

namespace Chip8

namespace Display

variable (d : Display)

/-! ## Flipping one after the other -/

theorem flipAll_cons (p : Pixel) (ps : List Pixel) :
    d.flipAll (p :: ps) = (d.lit p || ((d.flip p).flipAll ps).1, ((d.flip p).flipAll ps).2) := rfl

theorem flipAll_append (ps qs : List Pixel) :
    d.flipAll (ps ++ qs) =
      ((d.flipAll ps).1 || ((d.flipAll ps).2.flipAll qs).1, ((d.flipAll ps).2.flipAll qs).2) := by
  induction ps generalizing d with
  | nil => rfl
  | cons p ps ih => rw [List.cons_append, flipAll_cons, ih, flipAll_cons, Bool.or_assoc]

theorem decide_odd_succ (n : Nat) : decide ((n + 1) % 2 = 1) = !decide (n % 2 = 1) := by
  rw [← decide_not]
  exact decide_eq_decide.mpr (by omega)

/-- **A pixel changes iff it is flipped an odd number of times.** -/
theorem lit_flipAll (ps : List Pixel) (q : Pixel) :
    (d.flipAll ps).2.lit q = (d.lit q ^^ decide (ps.count q % 2 = 1)) := by
  induction ps generalizing d with
  | nil => simp [flipAll_nil]
  | cons p ps ih =>
    rw [flipAll_cons, ih, lit_flip]
    by_cases h : p = q
    · subst h
      rw [if_pos rfl, List.count_cons_self, decide_odd_succ, Bool.not_xor, Bool.xor_not]
    · rw [if_neg h, List.count_cons_of_ne h]

variable {d} in
theorem lit_flipAll_of_nodup {ps : List Pixel} (hps : ps.Nodup) (q : Pixel) :
    (d.flipAll ps).2.lit q = (d.lit q ^^ decide (q ∈ ps)) := by
  rw [lit_flipAll]
  by_cases hq : q ∈ ps
  · rw [List.count_eq_one_of_mem hps hq]
    simp [hq]
  · rw [List.count_eq_zero_of_not_mem hq]
    simp [hq]

variable {d} in
/-- Distinct pixels are met as they were at the start. -/
theorem flipAll_fst_of_nodup {ps : List Pixel} (hps : ps.Nodup) :
    (d.flipAll ps).1 = true ↔ ∃ p ∈ ps, d.lit p = true := by
  induction ps generalizing d with
  | nil => simp [flipAll_nil]
  | cons p ps ih =>
    obtain ⟨hp, hps⟩ := List.nodup_cons.mp hps
    have hsame : ∀ q ∈ ps, (d.flip p).lit q = d.lit q := by
      intro q hq
      rw [lit_flip, if_neg]
      rintro rfl
      exact hp hq
    rw [flipAll_cons, Bool.or_eq_true, ih hps, List.exists_mem_cons_iff]
    refine or_congr_right ⟨?_, ?_⟩
    · rintro ⟨q, hq, hl⟩
      exact ⟨q, hq, (hsame q hq).symm.trans hl⟩
    · rintro ⟨q, hq, hl⟩
      exact ⟨q, hq, (hsame q hq).trans hl⟩

/-! ## The pixels of a sprite -/

/-- **The pixels of a sprite**: those under the bits of its first `n` rows. -/
def Covers (x y n : Nat) (row : Nat → UInt8) (p : Pixel) : Prop :=
  ∃ r < n, ∃ b < 8, (row r).toNat.testBit (7 - b) = true ∧ p = Pixel.wrap (x + b) (y + r)

instance (x y n : Nat) (row : Nat → UInt8) (p : Pixel) : Decidable (Covers x y n row p) :=
  inferInstanceAs (Decidable (∃ r < n, ∃ b < 8, _ ∧ _))

/-- The pixels of a sprite in the order in which they are flipped. -/
def spritePixels (x y : Nat) : List UInt8 → List Pixel
  | [] => []
  | row :: rows => rowPixels x y row ++ spritePixels x (y + 1) rows

theorem drawSprite_eq_flipAll (x y : Nat) (rows : List UInt8) :
    d.drawSprite x y rows = d.flipAll (spritePixels x y rows) := by
  induction rows generalizing d y with
  | nil => rfl
  | cons row rows ih =>
    rw [spritePixels, flipAll_append, ← ih]
    rfl

variable {x y : Nat} {row : UInt8} {rows : List UInt8} {p : Pixel}

theorem mem_rowPixels :
    p ∈ rowPixels x y row ↔
      ∃ b < 8, row.toNat.testBit (7 - b) = true ∧ p = Pixel.wrap (x + b) y := by
  simp only [rowPixels, rowOffsets, List.mem_map, List.mem_filter, List.mem_range, and_assoc, eq_comm]

theorem mem_spritePixels :
    p ∈ spritePixels x y rows ↔ ∃ r, ∃ h : r < rows.length, p ∈ rowPixels x (y + r) rows[r] := by
  induction rows generalizing y with
  | nil => simp [spritePixels]
  | cons row rows ih =>
    rw [spritePixels, List.mem_append, ih]
    constructor
    · rintro (h | ⟨r, hr, h⟩)
      · exact ⟨0, Nat.succ_pos _, h⟩
      · refine ⟨r + 1, Nat.succ_lt_succ hr, ?_⟩
        rwa [List.getElem_cons_succ, show y + (r + 1) = y + 1 + r by omega]
    · rintro ⟨_ | r, hr, h⟩
      · exact .inl h
      · refine .inr ⟨r, Nat.lt_of_succ_lt_succ hr, ?_⟩
        rwa [List.getElem_cons_succ, show y + (r + 1) = y + 1 + r by omega] at h

theorem mem_spritePixels_iff_covers (n : Nat) (row : Nat → UInt8) :
    p ∈ spritePixels x y ((List.range n).map row) ↔ Covers x y n row p := by
  rw [mem_spritePixels]
  simp only [List.length_map, List.length_range, List.getElem_map, List.getElem_range,
    mem_rowPixels, Covers, exists_prop]

theorem y_of_mem_rowPixels (h : p ∈ rowPixels x y row) : p.y.val = y % 32 := by
  obtain ⟨b, -, -, rfl⟩ := mem_rowPixels.mp h
  rfl

/-- Eight columns next to each other are distinct, also across the edge. -/
theorem nodup_rowPixels (x y : Nat) (row : UInt8) : (rowPixels x y row).Nodup := by
  apply List.Nodup.map_on
  · intro b hb b' hb' h
    simp only [rowOffsets, List.mem_filter, List.mem_range] at hb hb'
    have hx : (x + b) % 64 = (x + b') % 64 := congrArg (fun p => p.x.val) h
    omega
  · exact List.nodup_range.filter _

/-- Up to 32 rows below each other are distinct, also across the edge. -/
theorem nodup_spritePixels (hn : rows.length ≤ 32) : (spritePixels x y rows).Nodup := by
  induction rows generalizing y with
  | nil => exact List.nodup_nil
  | cons row rows ih =>
    rw [List.length_cons] at hn
    refine List.nodup_append.mpr ⟨nodup_rowPixels x y row, ih (by omega), ?_⟩
    rintro p hp q hq rfl
    obtain ⟨r, hr, hq⟩ := mem_spritePixels.mp hq
    have h := y_of_mem_rowPixels hp
    rw [y_of_mem_rowPixels hq] at h
    omega

section Draw

variable {n : Nat} (hn : n ≤ 32) (row : Nat → UInt8)

include hn

/-- **A draw is an exclusive or with the pixels of the sprite.** -/
theorem lit_drawSprite (p : Pixel) :
    (d.drawSprite x y ((List.range n).map row)).2.lit p =
      (d.lit p ^^ decide (Covers x y n row p)) := by
  have hps : (spritePixels x y ((List.range n).map row)).Nodup := nodup_spritePixels (by simpa)
  rw [drawSprite_eq_flipAll, lit_flipAll_of_nodup hps]
  simp only [mem_spritePixels_iff_covers]

/-- **A draw collides iff a pixel of the sprite was on before it.** -/
theorem drawSprite_fst :
    (d.drawSprite x y ((List.range n).map row)).1 = true ↔
      ∃ p, Covers x y n row p ∧ d.lit p = true := by
  have hps : (spritePixels x y ((List.range n).map row)).Nodup := nodup_spritePixels (by simpa)
  rw [drawSprite_eq_flipAll, flipAll_fst_of_nodup hps]
  simp only [mem_spritePixels_iff_covers]

end Draw

end Display

end Chip8
