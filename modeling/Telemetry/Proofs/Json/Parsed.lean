import Telemetry.Proofs.Json.Members
import Telemetry.Proofs.Json.RoundTrip
/-!
# Telemetry.Proofs.Json.Parsed

**What is parsed can be written.** A value that was read has no more open arrays and objects than
the reader allows, no number that JSON cannot write, and the members of each object stand in
ascending order of their keys, so that no key stands twice (`Parsed`). Such a value is read again
from its own text without any change.

The three scanners call one another, so what they answer is stated together, by induction on the
fuel. The main statements are `parse_text_of_parse` and, for objects that are written in another
order, `parse_text_of_perm`.
-/

namespace Telemetry.Json

/-! ### Values -/

/-- The values that a reader can answer: those that can be written, with the keys of their objects
in ascending order. -/
inductive Parsed : Nat → Json → Prop
  | null {depth : Nat} : Parsed depth .null
  | bool {depth : Nat} (b : Bool) : Parsed depth (.bool b)
  | number {depth : Nat} {n : JsonNumber} (h : WritableNumber n) : Parsed depth (.number n)
  | string {depth : Nat} (s : String) : Parsed depth (.string s)
  | array {depth : Nat} {items : List Json} (h : ∀ item ∈ items, Parsed depth item) :
      Parsed (depth + 1) (.array items)
  | object {depth : Nat} {members : List (String × Json)} (hkeys : KeysAscend members)
      (h : ∀ member ∈ members, Parsed depth member.2) : Parsed (depth + 1) (.object members)

theorem Parsed.writable {depth : Nat} {j : Json} (h : Parsed depth j) : Writable depth j := by
  induction h with
  | null => exact .null
  | bool b => exact .bool b
  | number h => exact .number h
  | string s => exact .string s
  | array _ ih => exact .array ih
  | object _ _ ih => exact .object ih

theorem Parsed.object_inv {depth : Nat} {members : List (String × Json)}
    (h : Parsed depth (.object members)) : ∃ depth', depth = depth' + 1 ∧ KeysAscend members ∧
      ∀ member ∈ members, Parsed depth' member.2 := by
  cases h with
  | object hkeys h => exact ⟨_, rfl, hkeys, h⟩

theorem sortedMembers_eq_insertAll {done members : List (String × Json)}
    (h : ∀ member ∈ members, sorted member.2 = member.2) :
    sortedMembers done members = insertAll done members := by
  induction members generalizing done with
  | nil => rfl
  | cons member rest ih =>
    obtain ⟨key, value⟩ := member
    have hvalue : sorted value = value := h (key, value) List.mem_cons_self
    rw [sortedMembers, hvalue, insertAll_cons]
    exact ih fun m hm => h m (List.mem_cons_of_mem _ hm)

/-- Nothing is left to sort. -/
theorem Parsed.sorted_eq {depth : Nat} {j : Json} (h : Parsed depth j) : sorted j = j := by
  induction h with
  | null | bool | number | string => rfl
  | @array depth items h ih =>
    rw [sorted, sortedItems_eq_map, List.map_congr_left ih, List.map_id']
  | object hkeys _ ih =>
    rw [sorted, sortedMembers_eq_insertAll ih, insertAll_eq_of_perm hkeys (List.Perm.refl _)]

/-! ### What the scanners answer -/

/-- A whole number is a 64-bit number, or else a finite real one. -/
theorem writableNumber_of_wholeNumber {negative : Bool} {n : Nat} {number : JsonNumber}
    (h : wholeNumber negative n = some number) : WritableNumber number := by
  unfold wholeNumber at h
  split at h
  · cases h
    exact .unsigned _
  · split at h
    · rename_i hsmall
      cases h
      simp only [Bool.and_eq_true, decide_eq_true_eq, UInt64.size] at hsmall
      have hback : (Int64.ofInt (-(n : Int))).toInt = -(n : Int) :=
        Int64.toInt_ofInt_of_le (by omega) (by omega)
      refine .signed (Int64.lt_iff_toInt_lt.mpr ?_)
      rw [hback, Int64.toInt_zero]
      omega
    · dsimp only at h
      split at h
      · rename_i hfinite
        cases h
        exact .real hfinite
      · cases h

theorem writableNumber_of_realNumber {negative : Bool} {whole fraction : List Char}
    {exponent : Int} {number : JsonNumber}
    (h : realNumber negative whole fraction exponent = some number) : WritableNumber number := by
  unfold realNumber at h
  dsimp only at h
  split at h
  · rename_i hfinite
    cases h
    exact .real hfinite
  · cases h

/-- A number is whole, or it has a fraction or an exponent. -/
theorem unsignedNumber_inv {negative : Bool} {cs rest : List Char} {number : JsonNumber}
    (h : unsignedNumber negative cs = some (number, rest)) :
    (∃ n, wholeNumber negative n = some number) ∨
      ∃ whole fraction exponent, realNumber negative whole fraction exponent = some number := by
  unfold unsignedNumber at h
  dsimp only at h
  rw [ite_eq_iff] at h
  rcases h with ⟨-, hnone⟩ | ⟨-, h⟩
  · cases hnone
  · simp only [Option.bind_eq_bind, Option.bind_eq_some_iff] at h
    obtain ⟨⟨fraction, cs'⟩, -, ⟨exponent, cs''⟩, -, h⟩ := h
    rw [ite_eq_iff] at h
    rcases h with ⟨-, h⟩ | ⟨-, h⟩
    · obtain ⟨n, hn, heq⟩ := Option.bind_eq_some_iff.mp h
      obtain ⟨rfl, -⟩ := Prod.mk.inj (Option.some.inj heq)
      exact Or.inl ⟨_, hn⟩
    · obtain ⟨n, hn, heq⟩ := Option.bind_eq_some_iff.mp h
      obtain ⟨rfl, -⟩ := Prod.mk.inj (Option.some.inj heq)
      exact Or.inr ⟨_, _, _, hn⟩

theorem writableNumber_of_scanNumber {cs rest : List Char} {number : JsonNumber}
    (h : scanNumber cs = some (number, rest)) : WritableNumber number := by
  have hunsigned : ∃ negative cs, unsignedNumber negative cs = some (number, rest) := by
    unfold scanNumber at h
    split at h <;> exact ⟨_, _, h⟩
  obtain ⟨negative, cs', h⟩ := hunsigned
  rcases unsignedNumber_inv h with ⟨n, hwhole⟩ | ⟨whole, fraction, exponent, hreal⟩
  · exact writableNumber_of_wholeNumber hwhole
  · exact writableNumber_of_realNumber hreal

/-- What the three scanners answer with some fuel. -/
structure ScanParsed (fuel : Nat) : Prop where
  value : ∀ {depth cs j rest}, scanValue fuel depth cs = some (j, rest) → Parsed depth j
  items : ∀ {depth cs items rest}, scanItems fuel depth cs = some (items, rest) →
    ∀ item ∈ items, Parsed depth item
  members : ∀ {depth done cs members rest},
    scanMembers fuel depth done cs = some (members, rest) → KeysAscend done →
    (∀ member ∈ done, Parsed depth member.2) →
    KeysAscend members ∧ ∀ member ∈ members, Parsed depth member.2

namespace ScanParsed

variable {fuel depth : Nat} {cs rest : List Char}

theorem scanValue_succ (ih : ScanParsed fuel) {j : Json}
    (h : scanValue (fuel + 1) depth cs = some (j, rest)) : Parsed depth j := by
  unfold scanValue at h
  split at h
  · obtain ⟨cs', -, heq⟩ := Option.map_eq_some_iff.mp h
    obtain ⟨rfl, -⟩ := Prod.mk.inj heq
    exact .null
  · obtain ⟨cs', -, heq⟩ := Option.map_eq_some_iff.mp h
    obtain ⟨rfl, -⟩ := Prod.mk.inj heq
    exact .bool _
  · obtain ⟨cs', -, heq⟩ := Option.map_eq_some_iff.mp h
    obtain ⟨rfl, -⟩ := Prod.mk.inj heq
    exact .bool _
  · obtain ⟨⟨s, cs'⟩, -, heq⟩ := Option.map_eq_some_iff.mp h
    obtain ⟨rfl, -⟩ := Prod.mk.inj heq
    exact .string _
  · split at h
    · cases h
    · split at h
      · cases h
        exact .array (by simp)
      · obtain ⟨⟨items, cs'⟩, hitems, heq⟩ := Option.map_eq_some_iff.mp h
        obtain ⟨rfl, -⟩ := Prod.mk.inj heq
        exact .array (ih.items hitems)
  · split at h
    · cases h
    · split at h
      · cases h
        exact .object .nil (by simp)
      · obtain ⟨⟨members, cs'⟩, hmembers, heq⟩ := Option.map_eq_some_iff.mp h
        obtain ⟨rfl, -⟩ := Prod.mk.inj heq
        obtain ⟨hkeys, hvalues⟩ := ih.members hmembers .nil (by simp)
        exact .object hkeys hvalues
  · obtain ⟨⟨n, cs'⟩, hnumber, heq⟩ := Option.map_eq_some_iff.mp h
    obtain ⟨rfl, -⟩ := Prod.mk.inj heq
    exact .number (writableNumber_of_scanNumber hnumber)

theorem scanItems_succ (ih : ScanParsed fuel) {items : List Json}
    (h : scanItems (fuel + 1) depth cs = some (items, rest)) :
    ∀ item ∈ items, Parsed depth item := by
  unfold scanItems at h
  split at h
  · cases h
  · rename_i item cs' hitem
    have hfirst := ih.value hitem
    split at h
    · obtain ⟨⟨more, cs''⟩, hmore, heq⟩ := Option.map_eq_some_iff.mp h
      obtain ⟨rfl, -⟩ := Prod.mk.inj heq
      exact List.forall_mem_cons.mpr ⟨hfirst, ih.items hmore⟩
    · cases h
      exact List.forall_mem_singleton.mpr hfirst
    · cases h

theorem scanMembers_succ (ih : ScanParsed fuel) {done members : List (String × Json)}
    (h : scanMembers (fuel + 1) depth done cs = some (members, rest)) (hkeys : KeysAscend done)
    (hdone : ∀ member ∈ done, Parsed depth member.2) :
    KeysAscend members ∧ ∀ member ∈ members, Parsed depth member.2 := by
  unfold scanMembers at h
  split at h
  · split at h
    · cases h
    · rename_i key cs' _
      split at h
      · split at h
        · cases h
        · rename_i value cs'' hvalue
          have hkeys' := hkeys.insertMember (String.ofList key) value
          have hdone' : ∀ member ∈ insertMember (String.ofList key) value done,
              Parsed depth member.2 := by
            intro member hmember
            rcases mem_insertMember hmember with rfl | hmember
            · exact ih.value hvalue
            · exact hdone member hmember
          dsimp only at h
          split at h
          · exact ih.members h hkeys' hdone'
          · cases h
            exact ⟨hkeys', hdone'⟩
          · cases h
      · cases h
  · cases h

end ScanParsed

theorem scanParsed (fuel : Nat) : ScanParsed fuel := by
  induction fuel with
  | zero =>
    exact {
      value := fun h => by simp [scanValue] at h
      items := fun h => by simp [scanItems] at h
      members := fun h => by simp [scanMembers] at h }
  | succ fuel ih => exact ⟨ih.scanValue_succ, ih.scanItems_succ, ih.scanMembers_succ⟩

theorem parsed_of_parse {text : String} {j : Json} (h : parse text = some j) :
    Parsed maxDepth j := by
  unfold parse at h
  dsimp only at h
  split at h
  · rename_i value rest hscan
    split at h
    · cases h
      exact (scanParsed _).value hscan
    · cases h
  · cases h

/-- **A value that was read is read again from its own text.** -/
theorem parse_text_of_parse {text : String} {j : Json} (h : parse text = some j) :
    parse j.text = some j := by
  have hparsed := parsed_of_parse h
  rw [parse_text hparsed.writable, hparsed.sorted_eq]

/-- The members of an object may be written in any order. -/
theorem parse_text_of_perm {text : String} {members other : List (String × Json)}
    (h : parse text = some (.object members)) (hperm : other.Perm members) :
    parse (Json.object other).text = some (.object members) := by
  obtain ⟨depth, hdepth, hkeys, hmembers⟩ := (parsed_of_parse h).object_inv
  have hother : ∀ m ∈ other, Parsed depth m.2 := fun m hm => hmembers m (hperm.mem_iff.mp hm)
  have hwritable : Writable maxDepth (.object other) := by
    rw [hdepth]
    exact .object fun m hm => (hother m hm).writable
  rw [parse_text hwritable, sorted, sortedMembers_eq_insertAll fun m hm => (hother m hm).sorted_eq,
    insertAll_eq_of_perm hkeys hperm]

end Telemetry.Json
