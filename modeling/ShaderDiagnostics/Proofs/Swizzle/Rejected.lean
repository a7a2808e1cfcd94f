import Mathlib
import ShaderDiagnostics.Proofs.Swizzle.RoundTrip
import ShaderDiagnostics.Proofs.Twine.Leaves
import ShaderDiagnostics.Swizzle.Check
/-!
# Rejected swizzles

A swizzle is rejected if its text is none of its kind, or selects a component twice
(`Check.Rejected`). There is something to complain about exactly then
(`Check.isSome_complaint?_iff`). The complaint gives the reason (`Check.Explains`), and a swizzle that
selects a component twice is quoted in it so that it can be read back
(`Check.explains_of_complaint?`).
-/

namespace ShaderDiagnostics.Swizzle

/-! ## What a text selects -/

/-- A text is a swizzle of a kind and selects these components, in order. -/
inductive Selects : Kind → String → List ℕ → Prop where
  | letters {set : LetterSet} {text : String} (h : set.Spells text) :
      Selects .vector text (text.toList.map fun c => set.letters.idxOf c)
  | cells {base : CellBase} {cells : List Cell} {text : String} (h : Spells base cells text) :
      Selects .matrix text (cells.map Cell.selector)

variable {kind : Kind} {text : String} {components : List ℕ} {s : Swizzle}

/-- A text that selects components is read as the swizzle that is packed from them. -/
theorem Selects.exists_isPacked (h : Selects kind text components) :
    ∃ s selectors, ofText kind text = .ok s ∧ IsPacked s selectors ∧
      selectors.map UInt8.toNat = components := by
  cases h with
  | letters h =>
      refine ⟨_, _, ofVectorText_of_spells h, h.isPacked, ?_⟩
      rw [List.map_map]
      exact List.map_congr_left fun c hc => LetterSet.byte_toNat (h.mem c hc)
  | cells h =>
      refine ⟨_, _, ofMatrixText_of_spells h, h.isPacked, ?_⟩
      rw [List.map_map]
      exact List.map_congr_left fun cell _ => cell.byte_toNat

/-- Only a text that selects components is read as a swizzle. -/
theorem exists_selects_of_ok (h : ofText kind text = .ok s) :
    ∃ components, Selects kind text components := by
  cases kind with
  | vector =>
      obtain ⟨set, hspells, -⟩ := ofVectorText_eq_ok_iff.mp h
      exact ⟨_, .letters hspells⟩
  | matrix =>
      obtain ⟨base, cells, hspells⟩ := exists_spells_of_ok h
      exact ⟨_, .cells hspells⟩

/-- A swizzle that was read may be assigned through exactly if its text selects no component
twice. -/
theorem Selects.isAssignable_iff (h : Selects kind text components)
    (hread : ofText kind text = .ok s) : s.isAssignable = true ↔ components.Nodup := by
  have hbyte : Function.Injective UInt8.toNat := fun _ _ => UInt8.toNat_inj.mp
  obtain ⟨s', selectors, hread', hpacked, rfl⟩ := h.exists_isPacked
  obtain rfl := Except.ok.inj (hread.symm.trans hread')
  rw [hpacked.isAssignable_iff, List.nodup_map_iff hbyte]

namespace Check

variable {check : Check} {message : Twine}

/-! ## Rejection -/

/-- The text of a check is no swizzle of its kind, or it selects a component twice. -/
def Rejected (check : Check) : Prop :=
  (¬ ∃ components, Selects check.kind check.text components) ∨
    ∃ components, Selects check.kind check.text components ∧ ¬ components.Nodup

/-- There is a complaint about exactly the rejected swizzles. -/
theorem isSome_complaint?_iff (check : Check) :
    (complaint? check.read).isSome = true ↔ check.Rejected := by
  cases hread : check.read with
  | error e =>
      have hnone : ¬ ∃ components, Selects check.kind check.text components := by
        rintro ⟨components, h⟩
        obtain ⟨s, -, hok, -⟩ := h.exists_isPacked
        cases hread.symm.trans hok
      exact iff_of_true rfl (.inl hnone)
  | ok s =>
      obtain ⟨components, h⟩ := exists_selects_of_ok hread
      have hverdict := h.isAssignable_iff hread
      rw [complaint?]
      split_ifs with hassignable
      · refine iff_of_false Bool.false_ne_true ?_
        rintro (hnone | ⟨components', h', hrepeat⟩)
        · exact hnone ⟨components, h⟩
        · exact hrepeat ((h'.isAssignable_iff hread).mp hassignable)
      · exact iff_of_true rfl (.inr ⟨components, h, mt hverdict.mpr hassignable⟩)

instance (check : Check) : Decidable check.Rejected :=
  decidable_of_iff _ check.isSome_complaint?_iff

/-! ## Reasons -/

/-- A message says why the swizzle of a check is rejected. -/
inductive Explains (check : Check) : String → Prop where
  /-- The text is no swizzle, for this reason. -/
  | unread {e : Error} (hread : check.read = .error e) : Explains check e.message
  /-- The text selects a component twice. The swizzle is quoted, and is read back from the quote. -/
  | repeated {s : Swizzle} {components : List ℕ} (hread : check.read = .ok s)
      (hselects : Selects check.kind check.text components) (hrepeat : ¬ components.Nodup)
      (hback : ofText check.kind s.text = .ok s) :
      Explains check ("invalid write mask '." ++ s.text ++ "'")

/-- A complaint says why. -/
theorem explains_of_complaint? (h : complaint? check.read = some message) :
    check.Explains message.text := by
  cases hread : check.read with
  | error e =>
      rw [hread, complaint?, Option.some_inj] at h
      subst h
      have htext : (Twine.owned e.message).text = e.message := by
        simp [Twine.text_eq_join, Twine.pieces]
      rw [htext]
      exact .unread hread
  | ok s =>
      rw [hread, complaint?] at h
      split_ifs at h with hassignable
      obtain rfl := Option.some.inj h
      obtain ⟨components, hselects⟩ := exists_selects_of_ok hread
      obtain ⟨hkind, selectors, hpacked⟩ := exists_isPacked_of_ok hread
      have hback : ofText check.kind s.text = .ok s := hkind ▸ ofText_text hpacked
      have htext : (Twine.join [.borrowed "invalid write mask '.", .owned s.text,
          .borrowed "'"]).text = "invalid write mask '." ++ s.text ++ "'" := by
        simp [Twine.text_eq_join, Twine.pieces_join, Twine.pieces, String.append_assoc]
      rw [htext]
      exact .repeated hread hselects (mt (hselects.isAssignable_iff hread).mpr hassignable) hback

end Check

end ShaderDiagnostics.Swizzle
