/-!
# Tables

Vectors that are read and written at an index that lies in range by its type.

* `Vector.get` reads, **`Vector.put`** writes;
* `get_put`, `get_constant`, `ext_get`: what is read after a write, and in a constant table; tables
  that read the same are equal.
-/

namespace Vector

variable {α : Type} {n : Nat}

/-- **The table with another entry at an index.** -/
def put (v : Vector α n) (i : Fin n) (a : α) : Vector α n := v.set i.val a i.isLt

theorem get_eq (v : Vector α n) (i : Fin n) : v.get i = v[i.val] := by
  simp [Vector.get]

theorem get_put (v : Vector α n) (i j : Fin n) (a : α) :
    (v.put i a).get j = if i = j then a else v.get j := by
  rw [get_eq, get_eq, put, Vector.getElem_set]
  simp only [Fin.ext_iff]

@[simp]
theorem get_put_self (v : Vector α n) (i : Fin n) (a : α) : (v.put i a).get i = a := by
  rw [get_put, if_pos rfl]

theorem get_put_of_ne (v : Vector α n) {i j : Fin n} (h : i ≠ j) (a : α) :
    (v.put i a).get j = v.get j := by
  rw [get_put, if_neg h]

@[simp]
theorem get_constant (a : α) (i : Fin n) : (Vector.replicate n a).get i = a := by
  simp [get_eq]

theorem ext_get {v w : Vector α n} (h : ∀ i : Fin n, v.get i = w.get i) : v = w := by
  apply Vector.ext
  intro i hi
  simpa [get_eq] using h ⟨i, hi⟩

end Vector
