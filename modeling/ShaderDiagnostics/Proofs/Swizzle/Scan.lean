import Mathlib
import ShaderDiagnostics.Proofs.Swizzle.Repeats
/-!
# The scan of a write mask

A write mask passes exactly if the fields of its slots are pairwise different, where every slot past
the fourth has the field 0 (`isWriteMask_iff_field_ne`). The scan ends early: two slots past the
fourth already repeat each other, so it never looks at a seventh slot, whatever count it is given. It
also never shifts a word by its own width or more (`comparesFields_isWriteMask`).
-/

namespace ShaderDiagnostics.Swizzle

/-! ## Fields -/

namespace Kind

/-- The field of a slot in the four slots of a mask. There are no fields past them: those slots read
as 0, whatever stands there in the mask. -/
def field (kind : Kind) (mask : UInt32) (slot : ℕ) : ℕ :=
  if slot < maxSlots then mask.toNat / 2 ^ (kind.width * slot) % 2 ^ kind.width else 0

/-- Past the four slots, every field is 0. -/
theorem field_of_le (kind : Kind) (mask : UInt32) {slot : ℕ} (h : maxSlots ≤ slot) :
    kind.field mask slot = 0 :=
  if_neg (Nat.not_lt.mpr h)

theorem field_lt (kind : Kind) (mask : UInt32) (slot : ℕ) :
    kind.field mask slot < 2 ^ kind.width := by
  unfold field
  split_ifs
  · exact Nat.mod_lt _ (by positivity)
  · positivity

/-- What the scan reads from the narrowed mask is the field of the slot. -/
theorem selectorAt_and_packedMask (kind : Kind) (mask : UInt32) (slot : ℕ) :
    (kind.selectorAt (mask &&& kind.packedMask) slot).toNat = kind.field mask slot := by
  rw [selectorAt_toNat, UInt32.toNat_and, packedMask_toNat, Nat.and_two_pow_sub_one_eq_mod,
    ← pow_mul]
  rcases Nat.lt_or_ge slot maxSlots with h | h
  · have hsplit : kind.width * maxSlots = kind.width * slot + kind.width * (maxSlots - slot) := by
      rw [← mul_add, Nat.add_sub_cancel' h.le]
    have hdvd : 2 ^ kind.width ∣ 2 ^ (kind.width * (maxSlots - slot)) :=
      pow_dvd_pow 2 (Nat.le_mul_of_pos_right _ (by omega))
    rw [field, if_pos h, hsplit, pow_add, Nat.mod_mul_right_div_self, Nat.mod_mod_of_dvd _ hdvd]
  -- nothing is left of the narrowed mask where the slot starts
  · have hsmall : mask.toNat % 2 ^ (kind.width * maxSlots) < 2 ^ (kind.width * slot) :=
      (Nat.mod_lt _ (by positivity)).trans_le
        (Nat.pow_le_pow_right (by norm_num) (Nat.mul_le_mul_left _ h))
    rw [field_of_le kind mask h, Nat.div_eq_of_lt hsmall, Nat.zero_mod]

end Kind

variable {kind : Kind} {mask : UInt32} {count : ℕ}

/-- A mask passes exactly if the fields of its slots are pairwise different. -/
theorem isWriteMask_iff_field_ne (kind : Kind) (mask : UInt32) (count : ℕ) :
    isWriteMask kind mask count = true ↔
      ∀ i j, i < j → j < count → kind.field mask i ≠ kind.field mask j := by
  have hfields : ((List.range count).map (kind.selectorAt (mask &&& kind.packedMask))).map
      UInt32.toNat = (List.range count).map (kind.field mask) := by
    rw [List.map_map]
    exact List.map_congr_left fun slot _ => kind.selectorAt_and_packedMask mask slot
  rw [isWriteMask_iff, ← List.nodup_map_iff Word.toNat_injective, hfields,
    List.nodup_map_iff_inj_on List.nodup_range]
  constructor
  · intro hinj i j hij hj heq
    have := hinj i (List.mem_range.mpr (hij.trans hj)) j (List.mem_range.mpr hj) heq
    omega
  · intro hne i hi j hj heq
    rw [List.mem_range] at hi hj
    rcases Nat.lt_trichotomy i j with hij | hij | hij
    · exact absurd heq (hne i j hij hj)
    · exact hij
    · exact absurd heq.symm (hne j i hij hi)

/-! ## Counts that no mask passes -/

/-- Two slots past the fourth read alike. -/
theorem isWriteMask_of_six_le (kind : Kind) (mask : UInt32) (h : 6 ≤ count) :
    isWriteMask kind mask count = false := by
  refine Bool.eq_false_iff.mpr fun hpass => ?_
  refine (isWriteMask_iff_field_ne kind mask count).mp hpass 4 5 (by decide) (by omega) ?_
  rw [kind.field_of_le mask (by decide), kind.field_of_le mask (by decide)]

/-- There are only four components of a vector. -/
theorem isWriteMask_vector_of_five_le (mask : UInt32) (h : 5 ≤ count) :
    isWriteMask .vector mask count = false := by
  refine Bool.eq_false_iff.mpr fun hpass => ?_
  have hne := (isWriteMask_iff_field_ne .vector mask count).mp hpass
  have hmaps : ∀ slot ∈ Finset.range 5, Kind.vector.field mask slot ∈ Finset.range 4 :=
    fun slot _ => Finset.mem_range.mpr (Kind.vector.field_lt mask slot)
  obtain ⟨i, hi, j, hj, hij, heq⟩ :=
    Finset.exists_ne_map_eq_of_card_lt_of_maps_to (by decide) hmaps
  rw [Finset.mem_range] at hi hj
  rcases Nat.lt_or_gt_of_ne hij with hlt | hlt
  · exact hne i j hlt (by omega) heq
  · exact hne j i hlt (by omega) heq.symm

/-! ## The scan on its way -/

/-- The scan looks at one slot after another, and goes on only as long as there is no repeat. -/
theorem slots_scanFrom (kind : Kind) (mask : UInt32) (seen : UInt16) (slot count : ℕ) :
    ∃ n ≤ count, (scanFrom kind mask seen slot count).slots = List.range' slot n ∧
      ∀ k < n, (scanFrom kind mask seen slot k).firstRepeat = none := by
  induction count generalizing seen slot with
  | zero => exact ⟨0, le_rfl, rfl, fun k hk => absurd hk (Nat.not_lt_zero k)⟩
  | succ count ih =>
      by_cases hseen : seen &&& kind.flagAt mask slot ≠ 0
      · rw [scanFrom_of_seen hseen]
        refine ⟨1, by omega, rfl, fun k hk => ?_⟩
        obtain rfl : k = 0 := by omega
        rfl
      · obtain ⟨n, hn, hslots, hnone⟩ := ih (seen ||| kind.flagAt mask slot) (slot + 1)
        rw [scanFrom_of_new hseen]
        refine ⟨n + 1, by omega, ?_, fun k hk => ?_⟩
        · rw [List.range'_succ]
          exact congrArg (slot :: ·) hslots
        · cases k with
          | zero => rfl
          | succ k =>
              rw [scanFrom_of_new hseen]
              exact hnone k (by omega)

/-- A slot is read by a shift within the mask, if by any. -/
theorem Kind.distance_lt_of_mem_readingShifts {slot : ℕ} {shift : Shift}
    (h : shift ∈ kind.readingShifts slot) : shift.distance < shift.width := by
  unfold readingShifts at h
  split_ifs at h with hword
  · rw [List.mem_singleton.mp h]
    exact UInt32.lt_iff_toNat_lt.mp hword
  · exact absurd h List.not_mem_nil

/-- The selectors seen have a bit each, so the shift that looks one up stays within them too. -/
theorem Kind.distance_lt_of_mem_shiftsAt {slot : ℕ} {shift : Shift}
    (h : shift ∈ kind.shiftsAt mask slot) : shift.distance < shift.width := by
  rcases List.mem_append.mp h with hread | hlook
  · exact distance_lt_of_mem_readingShifts hread
  · rw [List.mem_singleton.mp hlook]
    exact kind.selectorAt_lt mask slot

/-- No shift on the way reaches the width of its word. -/
theorem distance_lt_of_mem_shifts {seen : UInt16} {slot : ℕ} {shift : Shift}
    (h : shift ∈ (scanFrom kind mask seen slot count).shifts) : shift.distance < shift.width := by
  induction count generalizing seen slot with
  | zero => exact absurd h List.not_mem_nil
  | succ count ih =>
      by_cases hseen : seen &&& kind.flagAt mask slot ≠ 0
      · rw [scanFrom_of_seen hseen] at h
        exact Kind.distance_lt_of_mem_shiftsAt h
      · rw [scanFrom_of_new hseen] at h
        rcases List.mem_append.mp h with hhere | hrest
        · exact Kind.distance_lt_of_mem_shiftsAt hhere
        · exact ih hrest

/-- Six slots are enough to find a repeat, so the scan looks at no more. -/
theorem exists_slots_scan (kind : Kind) (mask : UInt32) (count : ℕ) :
    ∃ n, n ≤ 6 ∧ n ≤ count ∧ (scan kind mask count).slots = List.range n := by
  obtain ⟨n, hn, hslots, hnone⟩ := slots_scanFrom kind (mask &&& kind.packedMask) 0 0 count
  refine ⟨n, ?_, hn, ?_⟩
  · by_contra hlt
    have hpass : isWriteMask kind mask 6 = true :=
      Option.isNone_iff_eq_none.mpr (hnone 6 (by omega))
    rw [isWriteMask_of_six_le kind mask le_rfl] at hpass
    exact Bool.false_ne_true hpass
  · rw [List.range_eq_range']
    exact hslots

/-! ## What a write check does -/

/-- What the check of `count` slots of a mask answers, and what it does for that. -/
structure ComparesFields (kind : Kind) (mask : UInt32) (count : ℕ) : Prop where
  /-- The mask passes exactly if the fields of the slots are pairwise different. -/
  passes_iff : isWriteMask kind mask count = true ↔
    ∀ i j, i < j → j < count → kind.field mask i ≠ kind.field mask j
  /-- The check is what the scan finds. -/
  firstRepeat : (scan kind mask count).firstRepeat = firstRepeat? kind mask count
  /-- The scan looks at the first slots, one after another, and at six of them at most. -/
  slots : ∃ n, n ≤ 6 ∧ n ≤ count ∧ (scan kind mask count).slots = List.range n
  /-- Six slots never pass, and five slots of a vector neither. -/
  six : 6 ≤ count → isWriteMask kind mask count = false
  five : kind = .vector → 5 ≤ count → isWriteMask kind mask count = false
  /-- No word is shifted by its width or more. -/
  shifts : ∀ shift ∈ (scan kind mask count).shifts, shift.distance < shift.width

/-- A write mask is checked by comparing its fields, with six slots looked at at most, whatever the
mask and the count. -/
theorem comparesFields_isWriteMask (kind : Kind) (mask : UInt32) (count : ℕ) :
    ComparesFields kind mask count where
  passes_iff := isWriteMask_iff_field_ne kind mask count
  firstRepeat := rfl
  slots := exists_slots_scan kind mask count
  six := isWriteMask_of_six_le kind mask
  five := by
    rintro rfl
    exact isWriteMask_vector_of_five_le mask
  shifts := fun _ h => distance_lt_of_mem_shifts h

/-- Four different cells of a matrix and a fifth slot, which reads as 0: the sixth is the repeat. -/
example : isWriteMask .matrix 0x4321 5 = true ∧
    (scan .matrix 0x4321 100).slots = [0, 1, 2, 3, 4, 5] := by
  decide

end ShaderDiagnostics.Swizzle
