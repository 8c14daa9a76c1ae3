import Mathlib.Data.List.Nodup
import Mathlib.Data.List.Perm.Subperm
import Telemetry.Json.Basic
/-!
# Telemetry.Proofs.Json.Members

**The members of an object in the order of their keys.** Members that are put in one after the
other end up in ascending order of their keys (`KeysAscend`), whatever order they came in. If their
keys differ none of them is lost, so that the same members in another order make the same object
(`insertAll_eq_of_perm`).
-/

namespace Telemetry.Json

variable {α : Type} {key : String} {value : α} {members : List (String × α)}

/-! ### Keys that differ -/

def KeysDiffer (members : List (String × α)) : Prop := (members.map Prod.fst).Nodup

theorem KeysDiffer.of_perm {other : List (String × α)} (h : KeysDiffer members)
    (hperm : other.Perm members) : KeysDiffer other :=
  (hperm.map Prod.fst).nodup_iff.mpr h

/-- A key leads to the one member that has it. -/
theorem lookup_eq_some_iff_mem (h : KeysDiffer members) :
    members.lookup key = some value ↔ (key, value) ∈ members := by
  induction members with
  | nil => simp
  | cons m rest ih =>
    obtain ⟨k, v⟩ := m
    obtain ⟨hnew, hrest⟩ := List.nodup_cons.mp h
    rw [List.lookup_cons, List.mem_cons, Prod.mk.injEq]
    by_cases hk : key = k
    · subst hk
      have hno : (key, value) ∉ rest := fun hmem => hnew (List.mem_map.mpr ⟨_, hmem, rfl⟩)
      simp [hno, eq_comm]
    · rw [beq_false_of_ne hk]
      simp [hk, ih hrest]

theorem lookup_eq_none_iff_not_mem :
    members.lookup key = none ↔ key ∉ members.map Prod.fst := by
  rw [List.lookup_eq_none_iff, List.mem_map]
  constructor
  · rintro h ⟨m, hm, rfl⟩
    simpa using h m hm
  · intro h m hm
    exact bne_iff_ne.mpr fun heq => h ⟨m, hm, heq.symm⟩

/-- What a key leads to does not depend on the order of the members. -/
theorem lookup_eq_of_perm {other : List (String × α)} (h : KeysDiffer members)
    (hperm : other.Perm members) : other.lookup key = members.lookup key := by
  apply Option.ext
  intro value
  rw [lookup_eq_some_iff_mem h, lookup_eq_some_iff_mem (h.of_perm hperm), hperm.mem_iff]

/-- Lists of the same keys that lead to the same values have the same members. -/
theorem KeysDiffer.perm_of_lookup {other : List (String × α)} (h : KeysDiffer members)
    (hkeys : (members.map Prod.fst).Perm (other.map Prod.fst))
    (hlookup : ∀ m ∈ other, members.lookup m.1 = some m.2) : members.Perm other := by
  have hsubset : other ⊆ members := fun m hm => (lookup_eq_some_iff_mem h).mp (hlookup m hm)
  have hnodup : other.Nodup := List.Nodup.of_map Prod.fst (hkeys.nodup_iff.mp h)
  have hlength : members.length = other.length := by simpa using hkeys.length_eq
  exact ((List.subperm_of_subset hnodup hsubset).perm_of_length_le (Nat.le_of_eq hlength)).symm

/-! ### Keys in ascending order -/

/-- The keys stand in ascending order; none stands twice. -/
def KeysAscend (members : List (String × α)) : Prop := members.Pairwise fun m n => m.1 < n.1

theorem KeysAscend.keysDiffer (h : KeysAscend members) : KeysDiffer members := by
  refine List.pairwise_map.mpr (h.imp fun {m n} hlt heq => ?_)
  rw [heq] at hlt
  exact String.lt_irrefl _ hlt

/-- There is one ascending order. -/
theorem KeysAscend.eq_of_perm {other : List (String × α)} (h : KeysAscend members)
    (hother : KeysAscend other) (hperm : other.Perm members) : other = members :=
  hperm.eq_of_pairwise (fun _ _ _ _ hlt hgt => absurd hgt (String.lt_asymm hlt)) hother h

theorem lt_of_not_lt_of_ne {key k : String} (h : ¬ key < k) (hne : key ≠ k) : k < key := by
  rcases Std.Trichotomous.rel_or_eq_or_rel_swap (r := fun a b : String => a < b) (a := key) (b := k)
    with hlt | heq | hgt
  · exact absurd hlt h
  · exact absurd heq hne
  · exact hgt

/-! ### Putting members in -/

theorem mem_insertMember {m : String × α} (h : m ∈ insertMember key value members) :
    m = (key, value) ∨ m ∈ members := by
  induction members with
  | nil => exact Or.inl (List.mem_singleton.mp h)
  | cons n rest ih =>
    obtain ⟨k, v⟩ := n
    unfold insertMember at h
    split at h
    · exact List.mem_cons.mp h
    · split at h
      · exact (List.mem_cons.mp h).imp_right (List.mem_cons_of_mem _)
      · rcases List.mem_cons.mp h with rfl | hrest
        · exact Or.inr List.mem_cons_self
        · exact (ih hrest).imp_right (List.mem_cons_of_mem _)

theorem KeysAscend.insertMember (h : KeysAscend members) (key : String) (value : α) :
    KeysAscend (insertMember key value members) := by
  induction members with
  | nil => exact List.pairwise_singleton _ _
  | cons n rest ih =>
    obtain ⟨k, v⟩ := n
    obtain ⟨hhead, htail⟩ := List.pairwise_cons.mp h
    unfold Json.insertMember
    split
    · rename_i hlt
      refine List.pairwise_cons.mpr ⟨fun m hm => ?_, h⟩
      rcases List.mem_cons.mp hm with rfl | hm
      · exact hlt
      · exact String.lt_trans hlt (hhead m hm)
    · rename_i hnot
      split
      · rename_i heq
        subst heq
        exact List.pairwise_cons.mpr ⟨hhead, htail⟩
      · rename_i hne
        refine List.pairwise_cons.mpr ⟨fun m hm => ?_, ih htail⟩
        rcases mem_insertMember hm with rfl | hm
        · exact lt_of_not_lt_of_ne hnot hne
        · exact hhead m hm

/-- A new key adds its member and nothing else. -/
theorem insertMember_perm (h : key ∉ members.map Prod.fst) (value : α) :
    (Json.insertMember key value members).Perm ((key, value) :: members) := by
  induction members with
  | nil => exact List.Perm.refl _
  | cons n rest ih =>
    obtain ⟨k, v⟩ := n
    rw [List.map_cons, List.mem_cons, not_or] at h
    unfold Json.insertMember
    rw [if_neg h.1]
    split
    · exact List.Perm.refl _
    · exact ((ih h.2).cons (k, v)).trans (List.Perm.swap (key, value) (k, v) rest)

/-- The members put in behind those of `done`, one after the other. -/
def insertAll (done members : List (String × α)) : List (String × α) :=
  members.foldl (fun done m => Json.insertMember m.1 m.2 done) done

theorem insertAll_cons (done members : List (String × α)) (m : String × α) :
    insertAll done (m :: members) = insertAll (Json.insertMember m.1 m.2 done) members := rfl

theorem KeysAscend.insertAll {done : List (String × α)} (h : KeysAscend done)
    (members : List (String × α)) : KeysAscend (Json.insertAll done members) := by
  induction members generalizing done with
  | nil => exact h
  | cons m rest ih => exact ih (h.insertMember m.1 m.2)

theorem insertAll_perm {done : List (String × α)} (h : KeysDiffer (done ++ members)) :
    (insertAll done members).Perm (done ++ members) := by
  induction members generalizing done with
  | nil => rw [List.append_nil]; exact List.Perm.refl _
  | cons m rest ih =>
    obtain ⟨k, v⟩ := m
    have hmiddle : (done ++ (k, v) :: rest).Perm ((k, v) :: done ++ rest) := List.perm_middle
    have hdiffer : KeysDiffer ((k, v) :: done ++ rest) := h.of_perm hmiddle.symm
    have hnew : k ∉ done.map Prod.fst := fun hmem =>
      (List.nodup_cons.mp hdiffer).1 (by simp [List.mem_map.mp hmem])
    have hinsert := (insertMember_perm hnew v).append_right rest
    rw [insertAll_cons]
    exact (ih (hdiffer.of_perm hinsert)).trans (hinsert.trans hmiddle.symm)

theorem insertAll_nil_perm (h : KeysDiffer members) : (insertAll [] members).Perm members :=
  insertAll_perm h

theorem keysAscend_insertAll_nil (members : List (String × α)) : KeysAscend (insertAll [] members) :=
  KeysAscend.insertAll .nil members

/-- Members in ascending order are what any order of them is sorted to. -/
theorem insertAll_eq_of_perm {other : List (String × α)} (h : KeysAscend members)
    (hperm : other.Perm members) : insertAll [] other = members := by
  have hother := h.keysDiffer.of_perm hperm
  exact h.eq_of_perm (keysAscend_insertAll_nil other) ((insertAll_nil_perm hother).trans hperm)

end Telemetry.Json
