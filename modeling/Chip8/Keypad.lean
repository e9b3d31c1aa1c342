import Chip8.Fault
import Chip8.Table

/-!
# The keypad

Sixteen keys that are up or down. There is no queue of key strokes: an instruction sees the keys that
are down while it executes.

* **`Keypad`**, its view `Keypad.isDown`;
* `isPressed`, `setPressed`: keys given by a byte, which may name no key;
* `firstPressed`: the lowest key that is down (`firstPressed_eq_some`).
-/

namespace Chip8

/-- The number of keys. -/
abbrev keyCount : Nat := 16

/-- **The keypad.** -/
@[ext]
structure Keypad where
  keys : Vector Bool keyCount
  deriving DecidableEq

namespace Keypad

/-- A keypad whose keys are all up. -/
def released : Keypad := ⟨Vector.replicate keyCount false⟩

/-- A key is down. -/
def isDown (k : Keypad) (key : Fin keyCount) : Bool := k.keys.get key

/-- Presses or releases a key. -/
def set (k : Keypad) (key : Fin keyCount) (down : Bool) : Keypad :=
  ⟨k.keys.put key down⟩

/-- The key named by a byte is down. A byte that names no key is never pressed. -/
def isPressed (k : Keypad) (key : UInt8) : Bool :=
  if h : key.toNat < keyCount then k.isDown ⟨key.toNat, h⟩ else false

/-- Presses or releases the key named by a byte. -/
def setPressed (k : Keypad) (key : UInt8) (down : Bool) : Except Fault Keypad :=
  if h : key.toNat < keyCount then .ok (k.set ⟨key.toNat, h⟩ down) else .error (.keyOutOfRange key)

/-- The lowest key that is down. -/
def firstPressed (k : Keypad) : Option (Fin keyCount) := (List.finRange keyCount).find? k.isDown

@[simp]
theorem isDown_released (key : Fin keyCount) : released.isDown key = false := by
  simp [released, isDown]

theorem isDown_set (k : Keypad) (key q : Fin keyCount) (down : Bool) :
    (k.set key down).isDown q = if key = q then down else k.isDown q := by
  exact Vector.get_put ..

theorem isPressed_of_lt (k : Keypad) {key : UInt8} (h : key.toNat < keyCount) :
    k.isPressed key = k.isDown ⟨key.toNat, h⟩ := dif_pos h

/-- The byte that names a key is accepted. -/
theorem setPressed_ofNat (k : Keypad) (key : Fin keyCount) (down : Bool) :
    k.setPressed (UInt8.ofNat key.val) down = .ok (k.set key down) := by
  have h : (UInt8.ofNat key.val).toNat = key.val := by
    have hkey : key.val < 16 := key.isLt
    rw [UInt8.toNat_ofNat']
    omega
  simp only [setPressed, h, key.isLt, dite_true]

theorem firstPressed_eq_none {k : Keypad} :
    k.firstPressed = none ↔ ∀ key, k.isDown key = false := by
  simp [firstPressed, List.find?_eq_none]

theorem firstPressed_eq_some {k : Keypad} {key : Fin keyCount} :
    k.firstPressed = some key ↔ k.isDown key = true ∧ ∀ q < key, k.isDown q = false := by
  rw [firstPressed, List.find?_eq_some_iff_getElem]
  refine and_congr_right fun _ => ⟨?_, fun h => ?_⟩
  · rintro ⟨n, hn, rfl, hlt⟩ q hq
    have hqn : q.val < n := by simpa [Fin.lt_def] using hq
    simpa using hlt q.val hqn
  · refine ⟨key.val, by simp, by simp, fun n hn => ?_⟩
    simpa using h ⟨n, by omega⟩ hn

end Keypad

end Chip8
