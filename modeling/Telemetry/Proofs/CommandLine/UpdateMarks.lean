import Telemetry.Proofs.CommandLine.RoundTrip
import Telemetry.Proofs.Frame.Overlay
import Telemetry.Proofs.Schema.Building
/-!
# Telemetry.Proofs.CommandLine.UpdateMarks

**What the marks in the table of a frame tell.** The table has one row for each field
(`rows_snapshotTable_perm`), and a row should be marked if the frame has a value for its field, which
is to say that the code selects the field.

A row is marked if the code has anything of the tier of its field (`isMarked_iff`). For a periodic
field that is the same. A conditional field, though, is selected by its own event, and its row is
marked for any event. So the mark is right of each field but the conditional ones whose event is
missing from a code that has other events (`markTells_iff`).

The main statements are `markTells_outcome` for one frame and `marksTell_iff` for all frames of a
schema.
-/

namespace Telemetry

/-- The frame has a value for the field. -/
def DecodedFrame.Updates (schema : Schema) (decoded : DecodedFrame) (f : Field) : Prop :=
  ∃ i, schema.fields[i]? = some f ∧ decoded.Carries i

/-- An accepted frame has values for the fields that its code selects. -/
theorem Schema.Canonical.updates_iff {s : Schema} (hs : s.Canonical) {config : FrameConfig}
    {src : Bytes} {decoded : DecodedFrame} (h : s.decodeFrame config src = .ok decoded) {f : Field}
    (hf : f ∈ s.fields) : decoded.Updates s f ↔ decoded.code.selects f = true := by
  have hreads := hs.reads_of_decodeFrame h
  constructor
  · rintro ⟨i, hi, hcarries⟩
    obtain ⟨g, hg, hselects⟩ := (hreads.selected i).mp hcarries
    obtain rfl : f = g := Option.some.inj (hi.symm.trans hg)
    exact hselects
  · intro hselects
    obtain ⟨i, hi⟩ := List.mem_iff_getElem?.mp hf
    exact ⟨i, hi, (hreads.selected i).mpr ⟨f, hi, hselects⟩⟩

theorem Tier.name_inj {t u : Tier} : t.name = u.name ↔ t = u := by
  cases t <;> cases u <;> decide

namespace CommandLine

/-! ### Rows -/

/-- The row is the one of the field: its first two cells are the tier and the name. -/
def IsRowOf (f : Field) (row : List String) : Prop := row.take 2 = [f.tier.name, f.name]

/-- The last cell of the row holds the mark. -/
def IsMarked (row : List String) : Prop := row.getLast? = some "*"

variable {schema : Schema} {shown : Field → Json → Prop} {snapshot : Json} {code : MessageCode}

theorem membersOf_some (entries : List (String × Json)) :
    membersOf (some (.object entries)) = entries :=
  rfl

/-- **The table has one row for each field**, and no other. -/
theorem rows_snapshotTable_perm (hfields : schema.fields = Tier.all.flatMap schema.fieldsIn)
    (h : schema.Shows shown snapshot) (code : MessageCode) :
    ((snapshotTable code snapshot).rows.map (List.take 2)).Perm
      (schema.fields.map fun f => [f.tier.name, f.name]) := by
  choose entries hentries using h.names
  have hfirst : ∀ t, (((membersOf (snapshot.member? t.name)).map fun m =>
      [t.name, m.1, m.2.text, updatedMark code t]).map (List.take 2)) =
      ((entries t).map Prod.fst).map fun name => [t.name, name] := by
    intro t
    rw [(hentries t).1, membersOf_some, List.map_map, List.map_map]
    rfl
  have hsecond : ∀ t, (schema.fieldsIn t).map (fun f => [f.tier.name, f.name]) =
      ((schema.fieldsIn t).map Field.name).map fun name => [t.name, name] := by
    intro t
    rw [List.map_map]
    refine List.map_congr_left fun f hf => ?_
    obtain rfl : f.tier = t := of_decide_eq_true (List.mem_filter.mp hf).2
    rfl
  rw [hfields, List.map_flatMap, snapshotTable, List.map_flatMap]
  refine List.Perm.flatMap_left _ fun t _ => ?_
  rw [hfirst t, hsecond t]
  exact (hentries t).2.map _

/-- A row is marked if the code has anything of its tier. -/
theorem isMarked_iff {f : Field} {row : List String}
    (hrow : row ∈ (snapshotTable code snapshot).rows) (hof : IsRowOf f row) :
    IsMarked row ↔ code.hasTier f.tier = true := by
  obtain ⟨t, -, hmem⟩ := List.mem_flatMap.mp hrow
  obtain ⟨m, -, rfl⟩ := List.mem_map.mp hmem
  obtain rfl : t = f.tier := Tier.name_inj.mp (List.cons.inj hof).1
  show some (updatedMark code f.tier) = some "*" ↔ _
  rw [Option.some.injEq, updatedMark, ite_eq_left_iff, Bool.not_eq_true]
  cases code.hasTier f.tier <;> decide

/-! ### Marks -/

/-- The field has a row, whose mark tells whether the frame has a value for the field. -/
def MarkTells (schema : Schema) (decoded : DecodedFrame) (table : Text.Table) (f : Field) : Prop :=
  ∃ row ∈ table.rows, IsRowOf f row ∧ (IsMarked row ↔ decoded.Updates schema f)

/-- The mark is wrong of a conditional field whose event is missing from a code with events. -/
theorem markTells_iff (hfields : schema.fields = Tier.all.flatMap schema.fieldsIn)
    (hs : schema.Canonical) {config : FrameConfig} {src : Bytes} {decoded : DecodedFrame}
    (hdecode : schema.decodeFrame config src = .ok decoded) (hshows : schema.Shows shown snapshot)
    {f : Field} (hf : f ∈ schema.fields) :
    MarkTells schema decoded (snapshotTable decoded.code snapshot) f ↔
      (f.tier = .conditional → (∃ event, decoded.code.hasEvent event = true) →
        decoded.code.selects f = true) := by
  have hmark : ∀ row ∈ (snapshotTable decoded.code snapshot).rows, IsRowOf f row →
      ((IsMarked row ↔ decoded.Updates schema f) ↔
        (decoded.code.hasTier f.tier = true → decoded.code.selects f = true)) := by
    intro row hrow hof
    rw [isMarked_iff hrow hof, hs.updates_iff hdecode hf]
    exact ⟨Iff.mp, fun h => ⟨h, MessageCode.hasTier_of_selects⟩⟩
  have htier : (decoded.code.hasTier f.tier = true → decoded.code.selects f = true) ↔
      (f.tier = .conditional → (∃ event, decoded.code.hasEvent event = true) →
        decoded.code.selects f = true) := by
    by_cases ht : f.tier = .conditional
    · simp only [ht, MessageCode.hasTier_conditional_iff, true_imp_iff]
    · simp [ht, MessageCode.selects_periodic ht]
  rw [← htier]
  constructor
  · rintro ⟨row, hrow, hof, hiff⟩
    exact (hmark row hrow hof).mp hiff
  · intro h
    have hmem := List.mem_map_of_mem (f := fun f : Field => [f.tier.name, f.name]) hf
    rw [← (rows_snapshotTable_perm hfields hshows decoded.code).mem_iff] at hmem
    obtain ⟨row, hrow, hof⟩ := List.mem_map.mp hmem
    exact ⟨row, hrow, hof, (hmark row hrow hof).mpr h⟩

/-- **The mark of a field tells whether the frame has a value for it**, exactly unless the field is
conditional and the code has events, but not the one of the field. The table has one row for each
field; the fields with a value are those whose tier, or whose event, is in the code; and the table
is what the command prints for the digits of the frame. -/
theorem markTells_outcome {limits : SchemaLimits} {name : String} {declared : List Field}
    (hbuild : Schema.build limits name declared = .ok schema) {config : FrameConfig} {src : Bytes}
    {decoded : DecodedFrame} (hdecode : schema.decodeFrame config src = .ok decoded) :
    ∃ snapshot, decodeFrame schema config src = .ok (decoded.code, snapshot) ∧
      ((snapshotTable decoded.code snapshot).rows.map (List.take 2)).Perm
        (schema.fields.map fun f => [f.tier.name, f.name]) ∧
      (∀ f ∈ schema.fields, decoded.Updates schema f ↔ decoded.code.selects f = true) ∧
      (∀ f ∈ schema.fields, MarkTells schema decoded (snapshotTable decoded.code snapshot) f ↔
        (f.tier = .conditional → (∃ event, decoded.code.hasEvent event = true) →
          decoded.code.selects f = true)) ∧
      ∀ host source text allowTrailing, config = { rejectTrailingBytes := !allowTrailing } →
        loadSchema host source = .ok schema → Text.Hex.decode? text = some src →
        runDecode host .table source text allowTrailing =
          .ok (textBytes (line s!"code {decoded.code.text} ({src.length} bytes)" ++
            line (snapshotTable decoded.code snapshot).render)) := by
  have hs := Schema.build_eq_ok hbuild
  have hfields := (Schema.layout_of_build hbuild).by_tier
  obtain ⟨snapshot, hsnapshot, hshows⟩ := exists_snapshot_of_decodeFrame hs hdecode
  refine ⟨snapshot, hsnapshot, rows_snapshotTable_perm hfields hshows decoded.code,
    fun f hf => hs.updates_iff hdecode hf, fun f hf => markTells_iff hfields hs hdecode hshows hf,
    ?_⟩
  rintro host source text allowTrailing rfl hload htext
  exact runDecode_of_decodeFrame hload htext hsnapshot .table

/-- A frame of the scenario layout with the fast tier and the one event that a field is bound to. -/
theorem markTells_outcome_scenario :
    let schema : Schema := ⟨"scenario", Schema.scenarioFields⟩
    let src : Bytes := [17, 0, 100, 0, 200, 0, 7]
    Schema.build {} "scenario" Schema.scenarioFields = .ok schema ∧
      ∃ decoded snapshot, schema.decodeFrame {} src = .ok decoded ∧
        decodeFrame schema {} src = .ok (decoded.code, snapshot) ∧
        ∀ f ∈ schema.fields, MarkTells schema decoded (snapshotTable decoded.code snapshot) f := by
  intro schema src
  have hbuild : Schema.build {} "scenario" Schema.scenarioFields = .ok schema :=
    Schema.build_scenario
  have hdecode : schema.decodeFrame {} src = .ok (schema.frameOf src) := by decide +kernel
  obtain ⟨snapshot, hsnapshot, -, -, htells, -⟩ := markTells_outcome hbuild hdecode
  have hselects : ∀ f ∈ schema.fields, f.tier = .conditional →
      (schema.frameOf src).code.selects f = true := by decide +kernel
  exact ⟨hbuild, _, snapshot, hdecode, hsnapshot, fun f hf =>
    (htells f hf).mpr fun ht _ => hselects f hf ht⟩

/-- Two conditional fields. -/
def pairFields : List Field :=
  [Schema.conditionalField "c" 1 (.unsigned .w8), Schema.conditionalField "d" 2 (.unsigned .w8)]

/-- A frame with the event of the one field marks the other field as well. -/
theorem not_markTells_pair :
    ¬ ∀ (limits : SchemaLimits) (name : String) (declared : List Field) (schema : Schema),
      Schema.build limits name declared = .ok schema →
      ∀ (config : FrameConfig) (src : Bytes) (decoded : DecodedFrame) (snapshot : Json),
        schema.decodeFrame config src = .ok decoded →
        decodeFrame schema config src = .ok (decoded.code, snapshot) →
        ∀ f ∈ schema.fields,
          MarkTells schema decoded (snapshotTable decoded.code snapshot) f := by
  intro hall
  let schema : Schema := ⟨"pair", pairFields⟩
  let src : Bytes := [16, 0, 7]
  have hbuild : Schema.build {} "pair" pairFields = .ok schema :=
    Schema.build_of_pairwise (by decide) (by decide) (by decide) (by decide) (by decide)
  have hs := Schema.build_eq_ok hbuild
  have hdecode : schema.decodeFrame {} src = .ok (schema.frameOf src) := by decide +kernel
  obtain ⟨snapshot, hsnapshot, hshows⟩ := exists_snapshot_of_decodeFrame hs hdecode
  have hmem : Schema.conditionalField "d" 2 (.unsigned .w8) ∈ schema.fields :=
    List.mem_cons_of_mem _ List.mem_cons_self
  have htells := hall {} "pair" pairFields schema hbuild {} src _ snapshot hdecode hsnapshot _ hmem
  rw [markTells_iff (Schema.layout_of_build hbuild).by_tier hs hdecode hshows hmem] at htells
  exact absurd (htells rfl ⟨1, by decide +kernel⟩) (by decide +kernel)

/-! ### Schemas -/

/-- A frame with a code of its own, whose fields are zeros. -/
theorem exists_decodeFrame_code (hs : schema.Canonical) (code : MessageCode) :
    ∃ config src decoded, schema.decodeFrame config src = .ok decoded ∧ decoded.code = code := by
  let src : Bytes := code.toBytes ++ List.replicate (schema.payloadSize (schema.carried code)) 0
  have hheader : Schema.headerOf src = code := code.ofBytes_toBytes
  have hlength : schema.impliedLen (Schema.headerOf src) = src.length := by
    rw [hheader, hs.impliedLen_eq, List.length_append, List.length_replicate]
    rfl
  refine ⟨⟨src.length, true⟩, src, schema.frameOf src, ?_, hheader⟩
  have hwhole : ¬ schema.impliedLen (Schema.headerOf src) < src.length :=
    Nat.not_lt.mpr (Nat.le_of_eq hlength.symm)
  exact Schema.decodeFrame_eq_ok le_rfl (Nat.le_of_eq hlength) fun hlt => absurd hlt hwhole

/-- For each event there is a code with another event alone. -/
theorem exists_other_event {event : Nat} (hevent : event ≤ maxEvent) :
    ∃ code : MessageCode, (∃ other, code.hasEvent other = true) ∧ code.hasEvent event = false := by
  have hall : ∀ e : Fin 13, ∃ other : Fin 13,
      (MessageCode.empty.withEvent other).hasEvent other = true ∧
        (MessageCode.empty.withEvent other).hasEvent e = false := by decide +kernel
  obtain ⟨other, hother, hnot⟩ := hall ⟨event, Nat.lt_succ_of_le hevent⟩
  exact ⟨_, ⟨other, hother⟩, hnot⟩

/-- **All marks of a schema tell the truth exactly if it has no conditional field.** -/
theorem marksTell_iff {limits : SchemaLimits} {name : String} {declared : List Field}
    (hbuild : Schema.build limits name declared = .ok schema) :
    (∀ config src decoded snapshot, schema.decodeFrame config src = .ok decoded →
      decodeFrame schema config src = .ok (decoded.code, snapshot) →
      ∀ f ∈ schema.fields, MarkTells schema decoded (snapshotTable decoded.code snapshot) f) ↔
    ∀ f ∈ schema.fields, f.tier ≠ .conditional := by
  have hs := Schema.build_eq_ok hbuild
  have hfields := (Schema.layout_of_build hbuild).by_tier
  constructor
  · intro hall f hf ht
    obtain ⟨event, he⟩ := (hs.valid f hf).exists_event ht
    obtain ⟨code, hother, hmissing⟩ := exists_other_event ((hs.valid f hf).event_le he)
    obtain ⟨config, src, decoded, hdecode, rfl⟩ := exists_decodeFrame_code hs code
    obtain ⟨snapshot, hsnapshot, hshows⟩ := exists_snapshot_of_decodeFrame hs hdecode
    have htells := hall config src decoded snapshot hdecode hsnapshot f hf
    rw [markTells_iff hfields hs hdecode hshows hf] at htells
    obtain ⟨event', he', hset⟩ := (MessageCode.selects_conditional ht).mp (htells ht hother)
    obtain rfl : event = event' := Option.some.inj (he.symm.trans he')
    rw [hmissing] at hset
    cases hset
  · intro hperiodic config src decoded snapshot hdecode hsnapshot f hf
    obtain ⟨snapshot', hsnapshot', hshows⟩ := exists_snapshot_of_decodeFrame hs hdecode
    obtain rfl : snapshot' = snapshot := by
      rw [hsnapshot'] at hsnapshot
      exact (Prod.mk.inj (Except.ok.inj hsnapshot)).2
    exact (markTells_iff hfields hs hdecode hshows hf).mpr fun ht => absurd ht (hperiodic f hf)

end CommandLine

end Telemetry
