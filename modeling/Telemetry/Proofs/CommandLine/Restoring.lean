import Telemetry.Proofs.CommandLine.Encoding
import Telemetry.Proofs.Frame.Serialization
import Telemetry.Proofs.Node.Snapshot
import Telemetry.Proofs.Store.Setting
/-!
# Telemetry.Proofs.CommandLine.Restoring

**A snapshot can be fed back.** It shows each field once and under its own tier, so its entries can
be taken out of the objects of the tiers into one list of values (`Json.flattened`), in which no
name stands twice. The values are read back as what the fields held, up to the form of a whole
number: one that is not negative comes back as an unsigned one, whichever it was. Both forms are
encoded alike, so a fresh store takes each value and sends the same bytes.

What a linked field shows is what its source yields at that moment. `Store.settle` puts these values
into the store, which changes neither the snapshot nor the values.

The main statement is `restore_snapshot`.
-/

namespace Telemetry

open Json (KeysDiffer)

/-! ### Numbers -/

namespace Reading

/-- A finite reading is read back from its JSON form in a form that is encoded alike. -/
theorem exists_ofJson?_toJson {r : Reading} (h : r.toBinary64.isFinite = true) :
    ∃ back, ofJson? r.toJson = some back ∧ ∀ f, back.encode f = r.encode f := by
  cases r with
  | unsigned n => exact ⟨.unsigned n, rfl, fun f => rfl⟩
  | signed n =>
    by_cases hn : n < 0
    · refine ⟨.signed n, ?_, fun f => rfl⟩
      rw [toJson, Json.ofInt64, if_pos hn]
      rfl
    · -- the sign is lost, and with it only the form
      refine ⟨.unsigned n.toUInt64, ?_, fun f => encode_congr_toInt ?_ f⟩
      · rw [toJson, Json.ofInt64, if_neg hn]
        rfl
      · have hle : 0 ≤ n := Int64.not_lt.mp hn
        have hnonneg : 0 ≤ n.toInt := Int64.le_iff_toInt_le.mp hle
        rw [Int64.toNat_toUInt64_of_le hle, ← Int64.toNat_toInt, Int.toNat_of_nonneg hnonneg]
  | float x =>
    refine ⟨.float x, ?_, fun f => rfl⟩
    have hx : x.isFinite = true := h
    rw [toJson, Json.ofBinary64, if_pos hx]
    rfl

end Reading

/-! ### One list of values -/

/-- The members of the objects in an object. -/
def Json.flattened : Json → List (String × Json)
  | object objects => objects.flatMap fun (_, value) =>
    match value with
    | object entries => entries
    | _ => []
  | _ => []

namespace Schema

variable {s : Schema} {shown : Field → Json → Prop} {snapshot : Json}

/-- The values of a snapshot are the entries of its tiers. -/
theorem Shows.exists_entries (h : s.Shows shown snapshot) :
    ∃ entries : Tier → List (String × Json),
      (∀ t, snapshot.member? t.name = some (.object (entries t)) ∧
        ((entries t).map Prod.fst).Perm ((s.fieldsIn t).map Field.name)) ∧
      snapshot.flattened.Perm (Tier.all.flatMap entries) := by
  choose entries hentries using h.names
  refine ⟨entries, hentries, ?_⟩
  obtain ⟨objects, rfl, hkeys⟩ := h.tiers
  have hdiffer : KeysDiffer objects := hkeys.nodup_iff.mpr (by decide)
  have hperm : objects.Perm (Tier.all.map fun t => (t.name, Json.object (entries t))) := by
    apply hdiffer.perm_of_lookup
    · rw [List.map_map]
      exact hkeys
    · intro m hm
      obtain ⟨t, -, rfl⟩ := List.mem_map.mp hm
      exact (hentries t).1
  have hflat := hperm.flatMap_right fun (_, value) =>
    match value with
    | Json.object entries => entries
    | _ => []
  rwa [List.flatMap_map] at hflat

/-- **Each field has one value** in the list, and there is no other. -/
theorem Shows.flattened_names (hs : s.fields = Tier.all.flatMap s.fieldsIn)
    (h : s.Shows shown snapshot) :
    (snapshot.flattened.map Prod.fst).Perm (s.fields.map Field.name) := by
  obtain ⟨entries, hentries, hperm⟩ := h.exists_entries
  have hentries : ((Tier.all.flatMap entries).map Prod.fst).Perm (s.fields.map Field.name) := by
    rw [hs, List.map_flatMap, List.map_flatMap]
    exact List.Perm.flatMap_left _ fun t _ => (hentries t).2
  exact (hperm.map Prod.fst).trans hentries

/-- Each value of the list is what is shown of the field of its name. -/
theorem Shows.exists_shown (hs : s.Canonical) (h : s.Shows shown snapshot) {m : String × Json}
    (hm : m ∈ snapshot.flattened) : ∃ f ∈ s.fields, f.name = m.1 ∧ shown f m.2 := by
  obtain ⟨entries, hentries, hperm⟩ := h.exists_entries
  obtain ⟨t, -, hmem⟩ := List.mem_flatMap.mp (hperm.mem_iff.mp hm)
  obtain ⟨hobject, hnames⟩ := hentries t
  obtain ⟨f, hf, hname⟩ := List.mem_map.mp (hnames.mem_iff.mp (List.mem_map_of_mem hmem))
  obtain ⟨hfield, htier⟩ := List.mem_filter.mp hf
  obtain rfl : f.tier = t := of_decide_eq_true htier
  have hdiffer : KeysDiffer (entries f.tier) :=
    hnames.nodup_iff.mpr (hs.names_differ.sublist (List.filter_sublist.map Field.name))
  obtain ⟨value, hvalue, hshown⟩ := h.values f hfield
  rw [hobject] at hvalue
  have hlookup : (entries f.tier).lookup f.name = some m.2 := by
    rw [hname]
    exact (Json.lookup_eq_some_iff_mem hdiffer).mpr hmem
  have hsame : some value = some m.2 := hvalue.symm.trans hlookup
  exact ⟨f, hfield, hname, Option.some.inj hsame ▸ hshown⟩

end Schema

namespace Store

variable {schema : Schema} {s : Store schema} {sources : Sources}

/-! ### Settling linked fields -/

/-- The store with what each live source yields in the place of the link. -/
def settle (s : Store schema) (sources : Sources) : Store schema :=
  ⟨s.slots.map fun slot =>
    match readSlot sources slot with
    | .ok r => .owned r
    | .error _ => slot⟩

theorem getElem?_slots_settle {i : Nat} {r : Reading} (h : s.get sources i = .ok r) :
    (s.settle sources).slots[i]? = some (.owned r) := by
  unfold get at h
  cases hslot : s.slots[i]? with
  | none => simp [hslot] at h
  | some slot =>
    simp only [hslot] at h
    simp [settle, hslot, h]

theorem get_settle {i : Nat} {r : Reading} (h : s.get sources i = .ok r) (sources' : Sources) :
    (s.settle sources).get sources' i = .ok r := by
  rw [get, getElem?_slots_settle h]
  rfl

/-- Every field has a value now. -/
def Readable (s : Store schema) (sources : Sources) : Prop :=
  ∀ (i : Nat) (f : Field), schema.fields[i]? = some f → ∃ r, s.get sources i = .ok r

theorem Readable.unlinked_settle (h : s.Readable sources) : (s.settle sources).Unlinked := by
  intro i source hlinked
  have hlt : i < schema.fields.length := (Vector.getElem?_eq_some_iff.mp hlinked).1
  obtain ⟨r, hr⟩ := h i _ (List.getElem?_eq_getElem hlt)
  rw [getElem?_slots_settle hr] at hlinked
  cases hlinked

/-! ### What a snapshot depends on -/

/-- A snapshot depends on the values of the fields alone. -/
theorem members_congr {s' : Store schema} {sources' : Sources}
    (h : ∀ (i : Nat) (f : Field), schema.fields[i]? = some f →
      s'.get sources' i = s.get sources i) (l : List Nat) :
    s'.members sources' l = s.members sources l := by
  induction l with
  | nil => rfl
  | cons i rest ih =>
    unfold members
    cases hf : schema.fields[i]? with
    | none => rw [ih]
    | some f => rw [ih, h i f hf]

theorem snapshot_congr {s' : Store schema} {sources' : Sources}
    (h : ∀ (i : Nat) (f : Field), schema.fields[i]? = some f →
      s'.get sources' i = s.get sources i) : s'.snapshot sources' = s.snapshot sources := by
  have hobjects : ∀ ts, s'.tierObjects sources' ts = s.tierObjects sources ts := by
    intro ts
    induction ts with
    | nil => rfl
    | cons t rest ih =>
      unfold tierObjects
      rw [members_congr h, ih]
  rw [snapshot, snapshot, hobjects]

/-- **A store in which every field has a value has a snapshot**, which shows the values. -/
theorem Readable.exists_snapshot (hs : schema.Canonical) (h : s.Readable sources) :
    ∃ snapshot, s.snapshot sources = .ok snapshot ∧
      schema.Shows (s.settle sources).HoldsValue snapshot := by
  obtain ⟨snapshot, hsnapshot, hshows⟩ := Store.exists_snapshot hs h.unlinked_settle sources
  refine ⟨snapshot, ?_, hshows⟩
  rw [← hsnapshot]
  apply snapshot_congr
  intro i f hf
  obtain ⟨r, hr⟩ := h i f hf
  rw [hr, get_settle hr]

end Store

namespace CommandLine

variable {schema : Schema} {s : Store schema} {sources : Sources} {snapshot : Json}

/-! ### Feeding a snapshot back -/

/-- The value stands for what the field of its name holds, up to a form that is encoded alike. -/
def StandsFor (s : Store schema) (sources : Sources) (m : String × Json) (i : Nat)
    (back : Reading) : Prop :=
  Reading.ofJson? m.2 = some back ∧ ∃ f r, schema.fields[i]? = some f ∧ f.name = m.1 ∧
    s.get sources i = .ok r ∧ back.encode f = r.encode f

theorem exists_standsFor (hs : schema.Canonical)
    (hfinite : ∀ i f, schema.fields[i]? = some f →
      ∃ r, s.get sources i = .ok r ∧ r.toBinary64.isFinite = true)
    (hshows : schema.Shows (s.settle sources).HoldsValue snapshot) {m : String × Json}
    (hm : m ∈ snapshot.flattened) : ∃ i back, StandsFor s sources m i back := by
  obtain ⟨f, -, hname, i, r, hf, hslot, hvalue⟩ := hshows.exists_shown hs hm
  obtain ⟨r', hr', hnumber⟩ := hfinite i f hf
  rw [Store.getElem?_slots_settle hr'] at hslot
  obtain rfl : r' = r := by simpa using hslot
  obtain ⟨back, hback, hencode⟩ := Reading.exists_ofJson?_toJson hnumber
  rw [← hvalue] at hback
  exact ⟨i, back, hback, f, r', hf, hname, hr', hencode f⟩

theorem StandsFor.takes {m : String × Json} {i : Nat} {back : Reading}
    (h : StandsFor s sources m i back)
    (hencodes : ∀ f r, schema.fields[i]? = some f → s.get sources i = .ok r → r.Encodes f) :
    Takes schema m i back := by
  obtain ⟨hback, f, r, hf, hname, hr, hencode⟩ := h
  obtain ⟨bytes, hbytes⟩ := hencodes f r hf hr
  exact ⟨hback, f, hf, hname, bytes, hencode.trans hbytes⟩

/-- A field whose value was fed back sends the bytes that it sent before. -/
theorem encodeField_of_storeValues (hs : schema.Canonical) {values : List (String × Json)}
    (hkeys : KeysDiffer values)
    (hstands : ∀ m ∈ values, ∃ i back, StandsFor s sources m i back)
    {store restored : Store schema} (h : storeValues store values = .ok restored) {i : Nat}
    {f : Field} (hf : schema.fields[i]? = some f) (hgiven : f.name ∈ values.map Prod.fst)
    (sources' : Sources) :
    restored.encodeField sources' i = s.encodeField sources i := by
  obtain ⟨m, hm, hname⟩ := List.mem_map.mp hgiven
  obtain ⟨j, back, hback, g, r, hg, hgname, hr, hencode⟩ := hstands m hm
  have hindex : j = i := by
    have hi := hs.indexOf?_name hf
    rw [← hname, ← hgname, hs.indexOf?_name hg] at hi
    exact Option.some.inj hi
  subst hindex
  obtain rfl : f = g := Option.some.inj (hf.symm.trans hg)
  have hlookup : values.lookup f.name = some m.2 := by
    rw [← hname]
    exact (Json.lookup_eq_some_iff_mem hkeys).mpr hm
  have hslot : restored.slots[j]? = some (.owned back) := by
    rw [getElem?_slots_storeValues hs hkeys h hf, hlookup]
    dsimp only
    rw [hback]
    rfl
  have hget : restored.get sources' j = .ok back := by
    rw [Store.get, hslot]
    rfl
  simp only [Store.encodeField, hf, hget, hr, hencode]

/-- **Values that stand for all fields restore a store**, as far as its frames tell. -/
theorem storeValues_of_standsFor (hs : schema.Canonical) {values : List (String × Json)}
    (hkeys : KeysDiffer values) (hgiven : ∀ f ∈ schema.fields, f.name ∈ values.map Prod.fst)
    (hstands : ∀ m ∈ values, ∃ i back, StandsFor s sources m i back)
    (hencodes : ∀ i f r, schema.fields[i]? = some f → s.get sources i = .ok r → r.Encodes f) :
    ∃ restored, storeValues (Store.initial schema) values = .ok restored ∧
      ∀ sources' code buffer,
        restored.serialize sources' code buffer = s.serialize sources code buffer := by
  have htakes : ∀ m ∈ values, ∃ i back, Takes schema m i back := by
    intro m hm
    obtain ⟨i, back, hback⟩ := hstands m hm
    exact ⟨i, back, hback.takes (hencodes i)⟩
  obtain ⟨restored, hrestored⟩ := exists_storeValues hs (Store.initial schema) htakes
  refine ⟨restored, hrestored, fun sources' code buffer => ?_⟩
  apply Store.serialize_congr_of_encodeField
  intro i hi
  obtain ⟨f, hf⟩ := hs.getElem?_of_mem_carried hi
  have hname := hgiven f (List.mem_of_getElem? hf)
  exact encodeField_of_storeValues hs hkeys hstands hrestored hf hname sources'

/-- **A snapshot can be fed back without loss.** If every field has a finite value that it can
encode, the store has a snapshot. It shows each value once, by name and under the tier of its field.
Taken out of the tiers the values have different names, one for each field. In whatever order they
are stored, a fresh store takes them all, and then it serializes under every code as the store
that was shown. -/
theorem restore_snapshot {limits : SchemaLimits} {name : String} {declared : List Field}
    (hbuild : Schema.build limits name declared = .ok schema) (s : Store schema)
    (sources : Sources)
    (hvalues : ∀ i f, schema.fields[i]? = some f → ∃ r, s.get sources i = .ok r ∧
      r.toBinary64.isFinite = true ∧ r.Encodes f) :
    ∃ snapshot, s.snapshot sources = .ok snapshot ∧
      schema.Shows (fun f value => ∃ r, s.getByName sources f.name = .ok r ∧ value = r.toJson)
        snapshot ∧
      KeysDiffer snapshot.flattened ∧
      (snapshot.flattened.map Prod.fst).Perm (schema.fields.map Field.name) ∧
      ∀ values, values.Perm snapshot.flattened →
        ∃ restored, storeValues (Store.initial schema) values = .ok restored ∧
          ∀ sources' code buffer,
            restored.serialize sources' code buffer = s.serialize sources code buffer := by
  have hs := Schema.build_eq_ok hbuild
  have hreadable : s.Readable sources := by
    intro i f hf
    obtain ⟨r, hr, -⟩ := hvalues i f hf
    exact ⟨r, hr⟩
  obtain ⟨snapshot, hsnapshot, hshows⟩ := hreadable.exists_snapshot hs
  have hnames := hshows.flattened_names (Schema.layout_of_build hbuild).by_tier
  have hdiffer : KeysDiffer snapshot.flattened := hnames.nodup_iff.mpr hs.names_differ
  refine ⟨snapshot, hsnapshot, hshows.imp ?_, hdiffer, hnames, ?_⟩
  · intro f hf value hvalue
    obtain ⟨i, r, hi, hslot, rfl⟩ := hvalue
    obtain ⟨r', hr'⟩ := hreadable i f hi
    rw [Store.getElem?_slots_settle hr'] at hslot
    obtain rfl : r' = r := by simpa using hslot
    exact ⟨r', (Store.getByName_eq_get hs hi).trans hr', rfl⟩
  · intro values hperm
    have hstands : ∀ m ∈ values, ∃ i back, StandsFor s sources m i back := by
      intro m hm
      apply exists_standsFor hs _ hshows (hperm.mem_iff.mp hm)
      intro i f hf
      obtain ⟨r, hr, hfinite, -⟩ := hvalues i f hf
      exact ⟨r, hr, hfinite⟩
    have hencodes : ∀ i f r, schema.fields[i]? = some f → s.get sources i = .ok r →
        r.Encodes f := by
      intro i f r hf hr
      obtain ⟨r', hr', -, hencode⟩ := hvalues i f hf
      obtain rfl : r' = r := Except.ok.inj (hr'.symm.trans hr)
      exact hencode
    have hgiven : ∀ f ∈ schema.fields, f.name ∈ values.map Prod.fst := by
      intro f hf
      rw [((hperm.map Prod.fst).trans hnames).mem_iff]
      exact List.mem_map_of_mem hf
    exact storeValues_of_standsFor hs (hdiffer.of_perm hperm) hgiven hstands hencodes

/-- A whole number with a sign, a temperature that was given as a whole number and a level that is
read from a gauge. The count comes back without its sign, and every frame is the same. -/
theorem restore_snapshot_mixed :
    let declared := [Schema.periodicField .fast "count" (.unsigned .w16),
      Schema.periodicField .medium "warm" Schema.temperature,
      Schema.periodicField .slow "level" .double]
    let schema : Schema := ⟨"mixed", declared⟩
    let sources : Sources := fun _ => .yields (.float ⟨0x3ff8000000000000⟩)
    let s : Store schema := ⟨#v[.owned (.signed 5), .owned (.unsigned 20), .linked "gauge"]⟩
    Schema.build {} "mixed" declared = .ok schema ∧
      ∃ snapshot, s.snapshot sources = .ok snapshot ∧
        ∃ restored, storeValues (Store.initial schema) snapshot.flattened.reverse = .ok restored ∧
          ∀ sources' code buffer,
            restored.serialize sources' code buffer = s.serialize sources code buffer := by
  intro declared schema sources s
  have hbuild : Schema.build {} "mixed" declared = .ok schema :=
    Schema.build_of_pairwise (by decide) (by decide) (by decide +kernel) (by decide) (by decide)
  have hvalues : ∀ i f, schema.fields[i]? = some f → ∃ r, s.get sources i = .ok r ∧
      r.toBinary64.isFinite = true ∧ r.Encodes f := by
    intro i f hf
    rcases i with _ | _ | _ | i
    · obtain rfl := Option.some.inj hf
      exact ⟨.signed 5, rfl, by decide +kernel, [5, 0], by decide +kernel⟩
    · obtain rfl := Option.some.inj hf
      exact ⟨.unsigned 20, rfl, by decide +kernel, [88, 2], by decide +kernel⟩
    · obtain rfl := Option.some.inj hf
      exact ⟨.float ⟨0x3ff8000000000000⟩, rfl, by decide, [0, 0, 0, 0, 0, 0, 0xf8, 0x3f],
        by decide +kernel⟩
    · cases hf
  obtain ⟨snapshot, hsnapshot, -, -, -, hback⟩ := restore_snapshot hbuild s sources hvalues
  exact ⟨hbuild, snapshot, hsnapshot, hback _ (List.reverse_perm _)⟩

end CommandLine

end Telemetry
