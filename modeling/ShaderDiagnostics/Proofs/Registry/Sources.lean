import Mathlib
import ShaderDiagnostics.Proofs.Registry.Runs
import ShaderDiagnostics.Proofs.Word.Limits
/-!
# The sources of a registry

The sources after a run are the primary name and the names that the run registers, each where it was
first seen (`SourceTable.names_foldl`). So a table only grows at its end, and the id of a name, which
is its place, is the same ever after. As long as the places are words, an id names its source again,
different names have different ids, and an id that was never answered stands for the primary name
(`Registry.keepsSources_run`).
-/

namespace ShaderDiagnostics

/-! ## Registered names -/

/-- The names that a row of operations registers, in order. -/
def Operation.registered (ops : List Operation) : List String :=
  ops.filterMap Operation.registered?

/-- What is taken out does not depend on repetitions. -/
theorem removeAll_eraseDups (names gone : List String) :
    names.removeAll gone.eraseDups = names.removeAll gone := by
  unfold List.removeAll
  congr 1
  funext name
  rw [List.elem_eq_contains, List.elem_eq_contains]
  simp

/-- The names that a run registers are those of its registrations. -/
theorem Operation.mem_registered {ops : List Operation} {name : String} :
    name ∈ registered ops ↔ ∃ i : ℕ, ops[i]? = some (.register name) := by
  rw [registered, List.mem_filterMap]
  constructor
  · rintro ⟨op, hop, hname⟩
    cases op with
    | register other =>
        obtain rfl : other = name := Option.some.inj hname
        exact List.mem_iff_getElem?.mp hop
    | _ => cases hname
  · rintro ⟨i, hi⟩
    exact ⟨_, List.mem_of_getElem? hi, rfl⟩

/-! ## Tables -/

namespace SourceTable

variable {t : SourceTable} {name : String}

theorem learn_of_mem (h : name ∈ t.names) : t.learn name = t :=
  if_pos h

theorem learn_of_not_mem (h : name ∉ t.names) : t.learn name = t.push name :=
  if_neg h

/-- A name is appended unless it is there. -/
theorem names_learn (t : SourceTable) (name : String) :
    (t.learn name).names = t.names ++ ([name].removeAll t.names).eraseDups := by
  by_cases h : name ∈ t.names
  · rw [learn_of_mem h]
    simp [List.cons_removeAll, h]
  · rw [learn_of_not_mem h, names_push]
    simp [List.cons_removeAll, h, List.eraseDups_cons]

/-- A name that is learned is known afterwards. -/
theorem mem_learn (t : SourceTable) (name : String) : name ∈ (t.learn name).names := by
  by_cases h : name ∈ t.names
  · rwa [learn_of_mem h]
  · rw [learn_of_not_mem h, names_push]
    exact List.mem_concat_self

/-- Learning a name repeats none. -/
theorem nodup_learn (h : t.names.Nodup) (name : String) : (t.learn name).names.Nodup := by
  by_cases hmem : name ∈ t.names
  · rwa [learn_of_mem hmem]
  · rw [learn_of_not_mem hmem, names_push, ← List.concat_eq_append]
    exact h.concat hmem

/-- No row of operations makes two entries equal. -/
theorem nodup_foldl (h : t.names.Nodup) (ops : List Operation) :
    (ops.foldl Operation.sourcesAfter t).names.Nodup := by
  induction ops generalizing t with
  | nil => exact h
  | cons op ops ih =>
      rw [List.foldl_cons, Operation.sourcesAfter]
      cases op.registered? with
      | none => exact ih h
      | some name => exact ih (nodup_learn h name)

/-- The names after a row of operations are the primary name and the registered ones, each where it
was first seen. -/
theorem names_foldl (primary : String) (ops : List Operation) :
    (ops.foldl Operation.sourcesAfter ⟨primary, []⟩).names =
      (primary :: Operation.registered ops).eraseDups := by
  -- by the last operation: its name is new or not against all the names before it
  induction ops using List.reverseRecOn with
  | nil => rfl
  | append_singleton ops op ih =>
      rw [List.foldl_append, List.foldl_cons, List.foldl_nil, Operation.sourcesAfter,
        Operation.registered, List.filterMap_append, ← Operation.registered]
      cases hname : op.registered? with
      | none =>
          rw [List.filterMap_cons_none hname, List.filterMap_nil, List.append_nil]
          exact ih
      | some name =>
          rw [List.filterMap_cons_some hname, List.filterMap_nil, ← List.cons_append,
            List.eraseDups_append, ← removeAll_eraseDups, ← ih]
          exact names_learn _ name

end SourceTable

/-! ## Ids -/

namespace SourceTable

variable {t : SourceTable} {name : String}

/-- The id of a name in a table: its place, as far as words go. -/
def idOf (t : SourceTable) (name : String) : UInt32 :=
  Word.clamp (t.names.idxOf name)

/-- As long as ids are left, the id of a known name is its place. -/
theorem idOf_toNat (hsize : t.size ≤ UInt32.size) (h : name ∈ t.names) :
    (t.idOf name).toNat = t.names.idxOf name := by
  have hlt : t.names.idxOf name < t.names.length := List.idxOf_lt_length_iff.mpr h
  exact Word.clamp_toNat (hlt.trans_le hsize)

/-- The entry at the id of a name is the name. -/
theorem getElem?_idOf (hsize : t.size ≤ UInt32.size) (h : name ∈ t.names) :
    t.names[(t.idOf name).toNat]? = some name := by
  have hlt : t.names.idxOf name < t.names.length := List.idxOf_lt_length_iff.mpr h
  rw [idOf_toNat hsize h, List.getElem?_eq_getElem hlt, List.getElem_idxOf]

/-- As long as ids are left, the id of a known name leads back to it. -/
theorem nameOf_idOf (hsize : t.size ≤ UInt32.size) (h : name ∈ t.names) :
    t.nameOf (t.idOf name) = name := by
  rw [nameOf, getElem?_idOf hsize h]
  rfl

/-- As long as ids are left, different known names have different ids. -/
theorem idOf_inj {a b : String} (hsize : t.size ≤ UInt32.size) (ha : a ∈ t.names)
    (hb : b ∈ t.names) : t.idOf a = t.idOf b ↔ a = b := by
  constructor
  · intro h
    rw [← nameOf_idOf hsize ha, h, nameOf_idOf hsize hb]
  · rintro rfl
    rfl

/-- An id that no name of a table has stands for the primary name. -/
theorem nameOf_eq_primary_or (hsize : t.size ≤ UInt32.size) (hnodup : t.names.Nodup) (id : UInt32) :
    t.nameOf id = t.primary ∨ ∃ name ∈ t.names, t.idOf name = id := by
  by_cases hid : id.toNat < t.names.length
  · right
    refine ⟨t.names[id.toNat], List.getElem_mem hid, UInt32.toNat_inj.mp ?_⟩
    rw [idOf_toNat hsize (List.getElem_mem hid), hnodup.idxOf_getElem]
  · left
    rw [nameOf, List.getElem?_eq_none (Nat.not_lt.mp hid)]
    rfl

end SourceTable

namespace Registry

variable {σ : Type} (S : Sink σ)

/-! ## Runs -/

/-- From its primary name on, a registry knows the names that are registered, each once. -/
theorem names_after (sink : Option σ) (primary : String) (ops : List Operation) :
    ((Registry.new sink primary).after S ops).sources.names =
      (primary :: Operation.registered ops).eraseDups := by
  rw [sources_after]
  exact SourceTable.names_foldl primary ops

/-- No run repeats a name in the table. -/
theorem nodup_names_after (sink : Option σ) (primary : String) (ops : List Operation) :
    ((Registry.new sink primary).after S ops).sources.names.Nodup := by
  rw [sources_after]
  exact SourceTable.nodup_foldl (t := ⟨primary, []⟩) (List.nodup_singleton primary) ops

/-- The names of a moment stand in front of those that come to be known later. -/
theorem names_after_append (sink : Option σ) (primary : String) (before later : List Operation) :
    ((Registry.new sink primary).after S (before ++ later)).sources.names =
      ((Registry.new sink primary).after S before).sources.names ++
        ((Operation.registered later).removeAll
          ((Registry.new sink primary).after S before).sources.names).eraseDups := by
  rw [names_after, names_after, removeAll_eraseDups, ← List.eraseDups_append, Operation.registered,
    List.filterMap_append]
  rfl

/-- No run changes the primary name. -/
theorem primary_after (sink : Option σ) (primary : String) (ops : List Operation) :
    ((Registry.new sink primary).after S ops).sources.primary = primary := by
  have hhead := congrArg List.head? (names_after S sink primary ops)
  rw [List.eraseDups_cons] at hhead
  exact Option.some.inj hhead

/-- The table knows the primary name and the names that were registered. -/
theorem mem_names_after {sink : Option σ} {primary name : String} {ops : List Operation} :
    name ∈ ((Registry.new sink primary).after S ops).sources.names ↔
      name = primary ∨ ∃ i : ℕ, ops[i]? = some (.register name) := by
  rw [names_after, List.mem_eraseDups, List.mem_cons, Operation.mem_registered]

/-- Registering a name gives its id in the table that holds it. -/
theorem register_id (name : String) (r : Registry σ) :
    (r.register name).1 = (r.sources.learn name).idOf name := by
  unfold register SourceTable.id? SourceTable.idOf
  cases hplace : r.sources.names.idxOf? name with
  | none =>
      have hmem : name ∉ r.sources.names := List.idxOf?_eq_none_iff.mp hplace
      rw [SourceTable.learn_of_not_mem hmem, SourceTable.names_push,
        List.idxOf_append_of_notMem hmem, List.idxOf_cons_self]
      rfl
  | some i =>
      have hmem : name ∈ r.sources.names := by
        rw [← List.isSome_idxOf?, hplace]
        rfl
      rw [SourceTable.learn_of_mem hmem, List.idxOf_eq_getD_idxOf?, hplace]
      rfl

/-- Registering a known name finds its id and does nothing else. -/
theorem register_of_mem {name : String} {r : Registry σ} (h : name ∈ r.sources.names) :
    r.register name = (r.sources.idOf name, r, []) := by
  have hid := register_id name r
  rw [SourceTable.learn_of_mem h] at hid
  rw [← hid]
  unfold register
  cases hfound : r.sources.id? name with
  | none => exact absurd h ((r.sources.id?_eq_none_iff name).mp hfound)
  | some id => rfl

/-- The id that a name was given in a run is its id at the end of the run. -/
theorem answer_register {sink : Option σ} {primary name : String} {ops : List Operation} {i : ℕ}
    (h : ops[i]? = some (.register name)) :
    ((Registry.new sink primary).run S ops).1[i]? =
      some (.id (((Registry.new sink primary).after S ops).sources.idOf name)) := by
  have hnow : ((Registry.new sink primary).after S (ops.take (i + 1))).sources =
      ((Registry.new sink primary).after S (ops.take i)).sources.learn name := by
    rw [List.take_add_one, h, after_append, Option.toList_some, after_cons, after_nil, sources_step]
    rfl
  -- the table grows at its end only, so the place of the name is still the same
  have hlater := names_after_append S sink primary (ops.take (i + 1)) (ops.drop (i + 1))
  rw [List.take_append_drop, hnow] at hlater
  rw [getElem?_answers, h, Option.map_some, SourceTable.idOf, hlater,
    List.idxOf_append_of_mem (SourceTable.mem_learn _ name)]
  exact congrArg (fun id => some (Answer.id id)) (register_id name _)

/-! ## What a run keeps -/

/-- The sources of a registry from its primary name on, after the operations `ops`. -/
structure KeepsSources (S : Sink σ) (sink : Option σ) (primary : String) (ops : List Operation)
    (answers : List Answer) (r : Registry σ) : Prop where
  /-- Entry 0 is the primary name, so there always is an entry. -/
  head : r.sources.names[0]? = some primary
  /-- No two entries are equal. -/
  nodup : r.sources.names.Nodup
  /-- The table of any moment stands in front of the table that it grows into; what is appended are
  the names registered since that were not there, as they are first seen. -/
  grows : ∀ n, r.sources.names =
    ((Registry.new sink primary).after S (ops.take n)).sources.names ++
      ((Operation.registered (ops.drop n)).removeAll
        ((Registry.new sink primary).after S (ops.take n)).sources.names).eraseDups
  /-- Only to register a name can change the table. -/
  unchanged : ∀ op : Operation, (∀ name, op ≠ .register name) →
    (r.step S op).2.1.sources = r.sources
  /-- The id answered for a name is its place. From then on it is the id of the name, and to register
  the name again finds it and changes nothing. -/
  id : r.sources.size ≤ UInt32.size → ∀ (i : ℕ) name, ops[i]? = some (.register name) →
    ∃ id, answers[i]? = some (.id id) ∧ r.sources.names[id.toNat]? = some name ∧
      r.nameOf id = name ∧ r.register name = (id, r, [])
  /-- Two names are answered by one id exactly if they are equal. -/
  id_inj : r.sources.size ≤ UInt32.size → ∀ (i j : ℕ) a b, ops[i]? = some (.register a) →
    ops[j]? = some (.register b) → (answers[i]? = answers[j]? ↔ a = b)
  /-- An id that was never answered stands for the primary name. -/
  unknown : r.sources.size ≤ UInt32.size → ∀ id, .id id ∉ answers → r.nameOf id = primary

/-- Every run of registry operations keeps the sources. -/
theorem keepsSources_run (S : Sink σ) (sink : Option σ) (primary : String) (ops : List Operation) :
    KeepsSources S sink primary ops ((Registry.new sink primary).run S ops).1
      ((Registry.new sink primary).run S ops).2.1 := by
  have hmem : ∀ {i : ℕ} {name : String}, ops[i]? = some (.register name) →
      name ∈ ((Registry.new sink primary).after S ops).sources.names :=
    fun {i name} h => (mem_names_after S).mpr (.inr ⟨i, h⟩)
  refine ⟨?head, ?nodup, ?grows, ?unchanged, ?id, ?id_inj, ?unknown⟩
  case head =>
    exact congrArg some (primary_after S sink primary ops)
  case nodup =>
    exact nodup_names_after S sink primary ops
  case grows =>
    intro n
    rw [← names_after_append, List.take_append_drop]
    rfl
  case unchanged =>
    intro op hop
    rw [sources_step]
    cases op with
    | register name => exact absurd rfl (hop name)
    | _ => rfl
  case id =>
    intro hsize i name h
    exact ⟨_, answer_register S h, SourceTable.getElem?_idOf hsize (hmem h),
      SourceTable.nameOf_idOf hsize (hmem h), register_of_mem (hmem h)⟩
  case id_inj =>
    intro hsize i j a b ha hb
    rw [answer_register S ha, answer_register S hb, Option.some_inj, Answer.id.injEq]
    exact SourceTable.idOf_inj hsize (hmem ha) (hmem hb)
  case unknown =>
    intro hsize id hid
    rcases SourceTable.nameOf_eq_primary_or hsize (nodup_names_after S sink primary ops) id with
      h | ⟨name, hname, rfl⟩
    · exact h.trans (primary_after S sink primary ops)
    · rcases (mem_names_after S).mp hname with rfl | ⟨i, hi⟩
      · exact SourceTable.nameOf_idOf hsize hname
      · exact absurd (List.mem_of_getElem? (answer_register S hi)) hid

/-- A name keeps the id that it was given first, and an unknown id names the primary source. -/
example :
    ((Registry.new (some Buffer.empty) "main").run Buffer.sink
      [.register "lib", .register "main", .register "mesh", .nameOf 7, .register "lib"]).1 =
      [.id 1, .id 0, .id 2, .name "main", .id 1] := by
  decide

end Registry

end ShaderDiagnostics
