import Chip8.Instruction.Decode
import Mathlib.Tactic.SplitIfs

/-!
# What words denote

The patterns of the instruction table, and the words that fit them. A pattern fixes some digits of a
word and leaves the others to operands; where `8xy6` and `8xyE` leave a digit that no operand takes,
several words denote one instruction.

* the three layouts of a word: `wordNNN`, `wordXNN`, `wordXYN`, and the fields of each;
* **`Denotes`**: a word fits the pattern of an instruction;
* **`decode_eq_some_iff`**, `decode_eq_none_iff`: decoding finds the instruction that a word denotes,
  and only that one.
-/

namespace Chip8

/-! ## Layouts -/

/-- The word `knnn`: a digit and an address. -/
def wordNNN (k : Nat) (nnn : Address) : UInt16 := UInt16.ofNat (k * 0x1000 + nnn.val)

/-- The word `kxnn`: a digit, a register and a byte. -/
def wordXNN (k : Nat) (x : Register) (nn : UInt8) : UInt16 :=
  UInt16.ofNat (k * 0x1000 + x.val * 0x100 + nn.toNat)

/-- The word `kxyn`: a digit, two registers and a digit. -/
def wordXYN (k : Nat) (x y : Register) (n : Nat) : UInt16 :=
  UInt16.ofNat (k * 0x1000 + x.val * 0x100 + y.val * 0x10 + n)

section Fields

variable {k : Nat} (hk : k < 16) (x y : Register) (nn : UInt8) (nnn : Address)

include hk

theorem toNat_wordNNN : (wordNNN k nnn).toNat = k * 0x1000 + nnn.val := by
  have := nnn.isLt
  rw [wordNNN, UInt16.toNat_ofNat']
  omega

theorem toNat_wordXNN : (wordXNN k x nn).toNat = k * 0x1000 + x.val * 0x100 + nn.toNat := by
  have hx := x.val_lt
  have hn := nn.toNat_lt
  rw [wordXNN, UInt16.toNat_ofNat']
  omega

theorem toNat_wordXYN {n : Nat} (hn : n < 16) :
    (wordXYN k x y n).toNat = k * 0x1000 + x.val * 0x100 + y.val * 0x10 + n := by
  have hx := x.val_lt
  have hy := y.val_lt
  rw [wordXYN, UInt16.toNat_ofNat']
  omega

theorem opcodeClass_wordNNN : opcodeClass (wordNNN k nnn) = k := by
  have := nnn.isLt
  rw [opcodeClass, toNat_wordNNN hk]
  omega

theorem fieldNNN_wordNNN : fieldNNN (wordNNN k nnn) = nnn := by
  have := nnn.isLt
  apply Fin.ext
  simp only [fieldNNN, toNat_wordNNN hk]
  omega

theorem opcodeClass_wordXNN : opcodeClass (wordXNN k x nn) = k := by
  have hx := x.val_lt
  have hn := nn.toNat_lt
  rw [opcodeClass, toNat_wordXNN hk]
  omega

theorem fieldX_wordXNN : fieldX (wordXNN k x nn) = x := by
  have hx := x.val_lt
  have hn := nn.toNat_lt
  apply Fin.ext
  simp only [fieldX, toNat_wordXNN hk]
  omega

theorem fieldNN_wordXNN : fieldNN (wordXNN k x nn) = nn := by
  have hx := x.val_lt
  have hn := nn.toNat_lt
  apply UInt8.toNat_inj.mp
  rw [fieldNN, toNat_wordXNN hk, UInt8.toNat_ofNat']
  omega

theorem opcodeClass_wordXYN {n : Nat} (hn : n < 16) : opcodeClass (wordXYN k x y n) = k := by
  have hx := x.val_lt
  have hy := y.val_lt
  rw [opcodeClass, toNat_wordXYN hk x y hn]
  omega

theorem fieldX_wordXYN {n : Nat} (hn : n < 16) : fieldX (wordXYN k x y n) = x := by
  have hx := x.val_lt
  have hy := y.val_lt
  apply Fin.ext
  simp only [fieldX, toNat_wordXYN hk x y hn]
  omega

theorem fieldY_wordXYN {n : Nat} (hn : n < 16) : fieldY (wordXYN k x y n) = y := by
  have hx := x.val_lt
  have hy := y.val_lt
  apply Fin.ext
  simp only [fieldY, toNat_wordXYN hk x y hn]
  omega

theorem fieldN_wordXYN {n : Nat} (hn : n < 16) : (fieldN (wordXYN k x y n)).val = n := by
  have hx := x.val_lt
  have hy := y.val_lt
  simp only [fieldN, toNat_wordXYN hk x y hn]
  omega

end Fields

theorem wordNNN_fields (w : UInt16) : wordNNN (opcodeClass w) (fieldNNN w) = w := by
  apply UInt16.toNat_inj.mp
  rw [toNat_wordNNN (opcodeClass_lt w)]
  simp only [opcodeClass, fieldNNN]
  omega

theorem wordXNN_fields (w : UInt16) : wordXNN (opcodeClass w) (fieldX w) (fieldNN w) = w := by
  apply UInt16.toNat_inj.mp
  rw [toNat_wordXNN (opcodeClass_lt w)]
  simp only [opcodeClass, fieldX, fieldNN, UInt8.toNat_ofNat']
  omega

theorem wordXYN_fields (w : UInt16) :
    wordXYN (opcodeClass w) (fieldX w) (fieldY w) (fieldN w).val = w := by
  apply UInt16.toNat_inj.mp
  rw [toNat_wordXYN (opcodeClass_lt w) _ _ (fieldN w).isLt]
  simp only [opcodeClass, fieldX, fieldY, fieldN]
  omega

/-! ## The patterns -/

namespace Instruction

/-- **A word fits the pattern of an instruction.** -/
inductive Denotes : UInt16 → Instruction → Prop
  | clearScreen : Denotes 0x00E0 .clearScreen
  | ret : Denotes 0x00EE .ret
  | jump (nnn : Address) : Denotes (wordNNN 1 nnn) (.jump nnn)
  | call (nnn : Address) : Denotes (wordNNN 2 nnn) (.call nnn)
  | skipIfEqual (x : Register) (nn : UInt8) : Denotes (wordXNN 3 x nn) (.skipIfEqual x nn)
  | skipIfNotEqual (x : Register) (nn : UInt8) : Denotes (wordXNN 4 x nn) (.skipIfNotEqual x nn)
  | skipIfRegistersEqual (x y : Register) :
    Denotes (wordXYN 5 x y 0) (.skipIfRegistersEqual x y)
  | load (x : Register) (nn : UInt8) : Denotes (wordXNN 6 x nn) (.load x nn)
  | add (x : Register) (nn : UInt8) : Denotes (wordXNN 7 x nn) (.add x nn)
  | copy (x y : Register) : Denotes (wordXYN 8 x y 0) (.copy x y)
  | or (x y : Register) : Denotes (wordXYN 8 x y 1) (.or x y)
  | and (x y : Register) : Denotes (wordXYN 8 x y 2) (.and x y)
  | xor (x y : Register) : Denotes (wordXYN 8 x y 3) (.xor x y)
  | addRegisters (x y : Register) : Denotes (wordXYN 8 x y 4) (.addRegisters x y)
  | sub (x y : Register) : Denotes (wordXYN 8 x y 5) (.sub x y)
  | shiftRight (x y : Register) : Denotes (wordXYN 8 x y 6) (.shiftRight x)
  | subReversed (x y : Register) : Denotes (wordXYN 8 x y 7) (.subReversed x y)
  | shiftLeft (x y : Register) : Denotes (wordXYN 8 x y 0xE) (.shiftLeft x)
  | skipIfRegistersNotEqual (x y : Register) :
    Denotes (wordXYN 9 x y 0) (.skipIfRegistersNotEqual x y)
  | loadIndex (nnn : Address) : Denotes (wordNNN 0xA nnn) (.loadIndex nnn)
  | jumpOffset (nnn : Address) : Denotes (wordNNN 0xB nnn) (.jumpOffset nnn)
  | random (x : Register) (nn : UInt8) : Denotes (wordXNN 0xC x nn) (.random x nn)
  | draw (x y : Register) (n : Fin 16) : Denotes (wordXYN 0xD x y n.val) (.draw x y n)
  | skipIfKeyPressed (x : Register) : Denotes (wordXNN 0xE x 0x9E) (.skipIfKeyPressed x)
  | skipIfKeyNotPressed (x : Register) : Denotes (wordXNN 0xE x 0xA1) (.skipIfKeyNotPressed x)
  | readDelay (x : Register) : Denotes (wordXNN 0xF x 0x07) (.readDelay x)
  | waitForKey (x : Register) : Denotes (wordXNN 0xF x 0x0A) (.waitForKey x)
  | setDelay (x : Register) : Denotes (wordXNN 0xF x 0x15) (.setDelay x)
  | setSound (x : Register) : Denotes (wordXNN 0xF x 0x18) (.setSound x)
  | addIndex (x : Register) : Denotes (wordXNN 0xF x 0x1E) (.addIndex x)
  | fontSprite (x : Register) : Denotes (wordXNN 0xF x 0x29) (.fontSprite x)
  | largeFontSprite (x : Register) : Denotes (wordXNN 0xF x 0x30) (.largeFontSprite x)
  | storeBcd (x : Register) : Denotes (wordXNN 0xF x 0x33) (.storeBcd x)
  | storeRegisters (x : Register) : Denotes (wordXNN 0xF x 0x55) (.storeRegisters x)
  | loadRegisters (x : Register) : Denotes (wordXNN 0xF x 0x65) (.loadRegisters x)

theorem decode_of_denotes {w : UInt16} {i : Instruction} (h : Denotes w i) : decode w = some i := by
  cases h with
  | clearScreen | ret => rfl
  | jump | call | loadIndex | jumpOffset =>
    simp only [decode, opcodeClass_wordNNN, fieldNNN_wordNNN, Nat.reduceLT]
  | skipIfEqual | skipIfNotEqual | load | add | random | skipIfKeyPressed | skipIfKeyNotPressed =>
    simp [decode, opcodeClass_wordXNN, fieldX_wordXNN, fieldNN_wordXNN]
  | skipIfRegistersEqual | skipIfRegistersNotEqual =>
    simp [decode, opcodeClass_wordXYN, fieldX_wordXYN, fieldY_wordXYN, fieldN_wordXYN]
  | copy | or | and | xor | addRegisters | sub | shiftRight | subReversed | shiftLeft =>
    simp [decode, decodeArithmetic, opcodeClass_wordXYN, fieldX_wordXYN, fieldY_wordXYN,
      fieldN_wordXYN]
  | draw x y n =>
    have hn : fieldN (wordXYN 0xD x y n.val) = n := Fin.ext (fieldN_wordXYN (by decide) x y n.isLt)
    simp [decode, opcodeClass_wordXYN, fieldX_wordXYN, fieldY_wordXYN, hn]
  | readDelay | waitForKey | setDelay | setSound | addIndex | fontSprite | largeFontSprite
  | storeBcd | storeRegisters | loadRegisters =>
    simp [decode, decodeMisc, opcodeClass_wordXNN, fieldX_wordXNN, fieldNN_wordXNN]

variable {w : UInt16} {i : Instruction} {k : Nat}

theorem eq_wordNNN (hk : opcodeClass w = k) : w = wordNNN k (fieldNNN w) := by
  rw [← hk, wordNNN_fields]

theorem eq_wordXNN (hk : opcodeClass w = k) : w = wordXNN k (fieldX w) (fieldNN w) := by
  rw [← hk, wordXNN_fields]

theorem eq_wordXYN (hk : opcodeClass w = k) :
    w = wordXYN k (fieldX w) (fieldY w) (fieldN w).val := by
  rw [← hk, wordXYN_fields]

theorem denotes_of_decodeArithmetic (hk : opcodeClass w = 8)
    (h : decodeArithmetic (fieldX w) (fieldY w) (fieldN w) = some i) : Denotes w i := by
  rw [eq_wordXYN hk]
  generalize (fieldN w).val = n at h ⊢
  unfold decodeArithmetic at h
  split at h <;> cases h
  · exact .copy _ _
  · exact .or _ _
  · exact .and _ _
  · exact .xor _ _
  · exact .addRegisters _ _
  · exact .sub _ _
  · exact .shiftRight _ _
  · exact .subReversed _ _
  · exact .shiftLeft _ _

theorem denotes_of_decodeMisc (hk : opcodeClass w = 0xF)
    (h : decodeMisc (fieldX w) (fieldNN w).toNat = some i) : Denotes w i := by
  rw [eq_wordXNN hk, ← UInt8.ofNat_toNat (x := fieldNN w)]
  generalize (fieldNN w).toNat = n at h ⊢
  unfold decodeMisc at h
  split at h <;> cases h
  · exact .readDelay _
  · exact .waitForKey _
  · exact .setDelay _
  · exact .setSound _
  · exact .addIndex _
  · exact .fontSprite _
  · exact .largeFontSprite _
  · exact .storeBcd _
  · exact .storeRegisters _
  · exact .loadRegisters _

/-- The first digit selects a group of patterns, and where it is 0, 5, 8, 9, E or F the digits after
it select one of the group. -/
theorem denotes_of_decode (h : decode w = some i) : Denotes w i := by
  have hlt := opcodeClass_lt w
  simp only [decode] at h
  split at h
  next hk =>
    rw [eq_wordNNN hk, wordNNN]
    split_ifs at h with h0 h1 <;> cases h
    · rw [h0]
      exact .clearScreen
    · rw [h1]
      exact .ret
  next hk => rw [eq_wordNNN hk]; cases h; exact .jump _
  next hk => rw [eq_wordNNN hk]; cases h; exact .call _
  next hk => rw [eq_wordXNN hk]; cases h; exact .skipIfEqual _ _
  next hk => rw [eq_wordXNN hk]; cases h; exact .skipIfNotEqual _ _
  next hk =>
    rw [eq_wordXYN hk]
    split_ifs at h with hn
    cases h
    rw [hn]
    exact .skipIfRegistersEqual _ _
  next hk => rw [eq_wordXNN hk]; cases h; exact .load _ _
  next hk => rw [eq_wordXNN hk]; cases h; exact .add _ _
  next hk => exact denotes_of_decodeArithmetic hk h
  next hk =>
    rw [eq_wordXYN hk]
    split_ifs at h with hn
    cases h
    rw [hn]
    exact .skipIfRegistersNotEqual _ _
  next hk => rw [eq_wordNNN hk]; cases h; exact .loadIndex _
  next hk => rw [eq_wordNNN hk]; cases h; exact .jumpOffset _
  next hk => rw [eq_wordXNN hk]; cases h; exact .random _ _
  next hk => rw [eq_wordXYN hk]; cases h; exact .draw _ _ _
  next hk =>
    rw [eq_wordXNN hk]
    split_ifs at h with h0 h1 <;> cases h
    · rw [h0]
      exact .skipIfKeyPressed _
    · rw [h1]
      exact .skipIfKeyNotPressed _
  next =>
    have hk : opcodeClass w = 0xF := by grind
    exact denotes_of_decodeMisc hk h

/-- **Decoding finds the instruction that a word denotes.** -/
theorem decode_eq_some_iff : decode w = some i ↔ Denotes w i :=
  ⟨denotes_of_decode, decode_of_denotes⟩

theorem decode_eq_none_iff : decode w = none ↔ ∀ i, ¬ Denotes w i := by
  rw [Option.eq_none_iff_forall_ne_some]
  simp only [ne_eq, decode_eq_some_iff]

/-- A word denotes at most one instruction. -/
theorem Denotes.unique {j : Instruction} (hi : Denotes w i) (hj : Denotes w j) : i = j := by
  have h := decode_of_denotes hi
  rw [decode_of_denotes hj] at h
  exact (Option.some.inj h).symm

end Instruction

end Chip8
