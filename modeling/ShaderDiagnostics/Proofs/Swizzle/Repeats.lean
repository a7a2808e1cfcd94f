import Mathlib
import ShaderDiagnostics.Proofs.Swizzle.Packing
/-!
# Repeated selectors

The scan of a write mask keeps the selectors that it has seen as the bits of a word. It finds no
repeat exactly if the selectors of the slots are pairwise different (`isWriteMask_iff`), however many
slots it is told to scan. A swizzle that was packed from selectors loses none of them to the mask
that the scan narrows to, so it may be assigned through exactly if no selector occurs twice
(`isAssignable_pack`).
-/

namespace ShaderDiagnostics.Swizzle

/-! ## Seen selectors -/

/-- A selector has a bit of its own in a word of 16 bits. -/
theorem Kind.selectorAt_lt (kind : Kind) (mask : UInt32) (slot : ℕ) :
    (kind.selectorAt mask slot).toNat < 16 := by
  have hmask : kind.selectorMask.toNat < 16 := by cases kind <;> decide
  rw [selectorAt, UInt32.toNat_and]
  exact Nat.and_le_right.trans_lt hmask

/-- A selector is among those seen. -/
def Seen (seen : UInt16) (selector : UInt32) : Prop :=
  seen.toNat.testBit selector.toNat = true

variable {kind : Kind} {mask : UInt32} {slot : ℕ}

/-- The flag of a slot has the bit of its selector alone. -/
theorem Kind.flagAt_toNat (kind : Kind) (mask : UInt32) (slot : ℕ) :
    (kind.flagAt mask slot).toNat = 2 ^ (kind.selectorAt mask slot).toNat := by
  have hlt := kind.selectorAt_lt mask slot
  have hpow : 2 ^ (kind.selectorAt mask slot).toNat < 2 ^ 16 := Nat.pow_lt_pow_right (by norm_num) hlt
  rw [flagAt, UInt16.toNat_shiftLeft, UInt32.toNat_toUInt16,
    Nat.mod_eq_of_lt (hlt.trans (by norm_num)), Nat.mod_eq_of_lt hlt, Nat.shiftLeft_eq,
    UInt16.toNat_one, one_mul, Nat.mod_eq_of_lt hpow]

/-- The selector of a slot has been seen exactly if its bit is set. -/
theorem and_flagAt_ne_zero_iff (seen : UInt16) :
    seen &&& kind.flagAt mask slot ≠ 0 ↔ Seen seen (kind.selectorAt mask slot) := by
  rw [ne_eq, ← UInt16.toNat_inj, UInt16.toNat_and, kind.flagAt_toNat, Nat.and_two_pow, Seen]
  cases seen.toNat.testBit (kind.selectorAt mask slot).toNat with
  | false => simp
  | true => simp

/-- Setting the bit of a selector adds it to those seen. -/
theorem seen_or_flagAt_iff (seen : UInt16) {other : UInt32} :
    Seen (seen ||| kind.flagAt mask slot) other ↔
      Seen seen other ∨ kind.selectorAt mask slot = other := by
  rw [Seen, UInt16.toNat_or, kind.flagAt_toNat, Nat.testBit_or, Nat.testBit_two_pow,
    Bool.or_eq_true, decide_eq_true_eq, UInt32.toNat_inj, Seen]

/-- At the start, no selector has been seen. -/
theorem not_seen_zero (selector : UInt32) : ¬ Seen 0 selector := by
  simp [Seen]

/-! ## The scan -/

/-- The scan finds nothing exactly if the selectors of the slots are new and pairwise different. -/
theorem firstRepeat_eq_none_iff (kind : Kind) (mask : UInt32) (seen : UInt16) (slot count : ℕ) :
    (scanFrom kind mask seen slot count).firstRepeat = none ↔
      ((List.range' slot count).map (kind.selectorAt mask)).Nodup ∧
        ∀ selector ∈ (List.range' slot count).map (kind.selectorAt mask), ¬ Seen seen selector := by
  -- each slot passed leaves its selector among those seen, so `seen` varies
  induction count generalizing seen slot with
  | zero => simp [scanFrom]
  | succ count ih =>
      rw [List.range'_succ, List.map_cons, List.nodup_cons, List.forall_mem_cons]
      by_cases hseen : Seen seen (kind.selectorAt mask slot)
      · rw [scanFrom_of_seen ((and_flagAt_ne_zero_iff seen).mpr hseen)]
        simp [hseen]
      · rw [scanFrom_of_new (mt (and_flagAt_ne_zero_iff seen).mp hseen)]
        show (scanFrom _ _ _ _ _).firstRepeat = none ↔ _
        rw [ih]
        simp only [seen_or_flagAt_iff, not_or]
        constructor
        · rintro ⟨hnodup, hnew⟩
          refine ⟨⟨?_, hnodup⟩, hseen, fun selector h => (hnew selector h).1⟩
          intro hmem
          exact (hnew _ hmem).2 rfl
        · rintro ⟨⟨hmem, hnodup⟩, -, hnew⟩
          refine ⟨hnodup, fun selector h => ⟨hnew selector h, ?_⟩⟩
          rintro rfl
          exact hmem h

/-- A mask passes exactly if the selectors of its slots are pairwise different. -/
theorem isWriteMask_iff (kind : Kind) (mask : UInt32) (count : ℕ) :
    isWriteMask kind mask count = true ↔
      ((List.range count).map (kind.selectorAt (mask &&& kind.packedMask))).Nodup := by
  rw [isWriteMask, Option.isNone_iff_eq_none, firstRepeat?, scan, firstRepeat_eq_none_iff,
    List.range_eq_range']
  exact and_iff_left fun selector _ => not_seen_zero selector

/-! ## Packed swizzles -/

variable {selectors : List UInt8}

/-- The packed mask has all bits of the four slots. -/
theorem Kind.packedMask_toNat (kind : Kind) :
    kind.packedMask.toNat = 2 ^ (kind.width * maxSlots) - 1 := by
  cases kind <;> rfl

/-- Narrowing takes nothing from a mask that is packed from at most four selectors. -/
theorem pack_and_packedMask (hlength : selectors.length ≤ maxSlots)
    (hrange : ∀ s ∈ selectors, s.toNat < 2 ^ kind.width) :
    pack kind 0 selectors &&& kind.packedMask = pack kind 0 selectors := by
  have hlt : (pack kind 0 selectors).toNat < 2 ^ (kind.width * maxSlots) := by
    calc (pack kind 0 selectors).toNat
      _ < 2 ^ (kind.width * selectors.length) := pack_lt hlength hrange
      _ ≤ 2 ^ (kind.width * maxSlots) :=
          Nat.pow_le_pow_right (by positivity) (Nat.mul_le_mul_left _ hlength)
  rw [← UInt32.toNat_inj, UInt32.toNat_and, kind.packedMask_toNat,
    Nat.and_two_pow_sub_one_of_lt_two_pow hlt]

/-- A packed swizzle may be assigned through exactly if it was packed from different selectors. -/
theorem isAssignable_pack (hlength : selectors.length ≤ maxSlots)
    (hrange : ∀ s ∈ selectors, s.toNat < 2 ^ kind.width) :
    (Swizzle.mk (pack kind 0 selectors) selectors.length kind).isAssignable = true ↔
      selectors.Nodup := by
  have hbyte : Function.Injective UInt8.toNat := fun _ _ => UInt8.toNat_inj.mp
  rw [isAssignable, isWriteMask_iff, pack_and_packedMask hlength hrange,
    ← List.nodup_map_iff hbyte, ← selectors_pack hlength hrange, List.nodup_map_iff Word.toNat_injective]
  rfl

end ShaderDiagnostics.Swizzle
