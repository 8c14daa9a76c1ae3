import Telemetry.Proofs.CommandLine.Encoding
import Telemetry.Proofs.Node.Receiving
/-!
# Telemetry.Proofs.CommandLine.RoundTrip

**Decoding undoes encoding**, as far as the wire allows. A fresh receiver that is given the frame of
some values shows the wire image of what each carried field was given, and the zero of each field
that was not carried (`ShownAfter`), so a value that was given to a field of another tier does not
show.

`Recovers` says so of a code, a frame and a snapshot. The main statement is `runDecode_runEncode`:
what the one command prints, the other one recovers.
-/

namespace Telemetry.CommandLine

open Json (KeysDiffer)

variable {schema : Schema} {values : List (String × Json)} {tiers : List String}
  {events : List Nat} {code : MessageCode} {frame : Bytes}

/-! ### Fields -/

/-- What a field is given: the value of its name, or else its zero. -/
def given? (values : List (String × Json)) (f : Field) : Option Reading :=
  match values.lookup f.name with
  | some value => Reading.ofJson? value
  | none => some (Reading.initial f.kind)

/-- What a fresh receiver shows of a field after the frame of some values. -/
inductive ShownAfter (values : List (String × Json)) (code : MessageCode) (f : Field) :
    Json → Prop
  | carried {r image : Reading} (hcode : code.selects f = true) (hgiven : given? values f = some r)
      (himage : Reading.WireImage f.kind r image) : ShownAfter values code f image.toJson
  | left (hcode : code.selects f = false) :
      ShownAfter values code f (Reading.initial f.kind).toJson

/-- A sender that starts from zeros holds what each field is given. -/
theorem getElem?_slots_of_storeValues (hs : schema.Canonical) (hkeys : KeysDiffer values)
    {store : Store schema} (h : storeValues (Store.initial schema) values = .ok store) {i : Nat}
    {f : Field} (hf : schema.fields[i]? = some f) :
    store.slots[i]? = (given? values f).map Slot.owned := by
  rw [getElem?_slots_storeValues hs hkeys h hf, given?, Store.getElem?_slots_initial, hf]
  cases values.lookup f.name <;> rfl

/-- The receiver holds what is shown of each field. -/
theorem exists_slot_of_packs (hs : schema.Canonical) (hkeys : KeysDiffer values)
    {store : Store schema} (hstore : storeValues (Store.initial schema) values = .ok store)
    {sources : Sources} (hpacks : store.Packs sources code frame) {i : Nat} {f : Field}
    (hf : schema.fields[i]? = some f) :
    ∃ r, ((schema.frameOf frame).apply (Store.initial schema)).slots[i]? = some (.owned r) ∧
      ShownAfter values code f r.toJson := by
  obtain ⟨hcarried, hkept⟩ := hpacks.getElem?_slots_apply hs (Store.initial schema) hf
  cases hcode : code.selects f with
  | true =>
    obtain ⟨image, ⟨g, r, bytes, hg, hget, hencode, rfl⟩, hslot⟩ := hcarried hcode
    obtain rfl : f = g := Option.some.inj (hf.symm.trans hg)
    have hgiven : given? values f = some r := by
      have hslot := getElem?_slots_of_storeValues hs hkeys hstore hf
      rw [Store.get, hslot] at hget
      cases hr : given? values f with
      | none => simp [hr] at hget
      | some r' =>
        simp only [hr, Option.map_some, Store.readSlot] at hget
        rw [Except.ok.inj hget]
    exact ⟨_, hslot, .carried hcode hgiven (Reading.decode_encode hencode).2⟩
  | false =>
    refine ⟨Reading.initial f.kind, ?_, .left hcode⟩
    rw [hkept hcode, Store.getElem?_slots_initial, hf]
    rfl

/-! ### Snapshots -/

/-- A fresh receiver takes what is accepted, and its snapshot shows what the fields hold then. -/
theorem exists_snapshot_of_decodeFrame (hs : schema.Canonical) {config : FrameConfig}
    {decoded : DecodedFrame} (h : schema.decodeFrame config frame = .ok decoded) :
    ∃ snapshot, decodeFrame schema config frame = .ok (decoded.code, snapshot) ∧
      schema.Shows (decoded.apply (Store.initial schema)).HoldsValue snapshot := by
  have happly : (Receiver.initial schema config).apply frame =
      (.ok decoded.code, ⟨decoded.apply (Store.initial schema), config, 1, 0, false⟩) := by
    have hdecode : schema.decodeFrame (Receiver.initial schema config).config frame =
        .ok decoded := h
    rw [Receiver.apply, hdecode, Receiver.accept_ok rfl]
    rfl
  have hsound : ((Receiver.initial schema config).apply frame).2.Sound :=
    (Receiver.sound_initial schema config).accept _
  rw [happly] at hsound
  obtain ⟨snapshot, hsnapshot, hshows⟩ := hsound.exists_snapshot hs
  refine ⟨snapshot, ?_, hshows⟩
  rw [decodeFrame, happly]
  dsimp only
  rw [hsnapshot]

/-- A fresh receiver takes the frame of some values, and its snapshot shows them. -/
theorem exists_decodeFrame (hs : schema.Canonical) (hkeys : KeysDiffer values)
    {store : Store schema} (hstore : storeValues (Store.initial schema) values = .ok store)
    {sources : Sources} (hpacks : store.Packs sources code frame) {config : FrameConfig}
    (hmax : frame.length ≤ config.maxFrameSize) :
    ∃ snapshot, decodeFrame schema config frame = .ok (code, snapshot) ∧
      schema.Shows (ShownAfter values code) snapshot := by
  obtain ⟨snapshot, hsnapshot, hshows⟩ :=
    exists_snapshot_of_decodeFrame hs (hpacks.decodeFrame_eq hs hmax)
  have hcode : (schema.frameOf frame).code = code := hpacks.headerOf_eq
  refine ⟨snapshot, hcode ▸ hsnapshot, hshows.imp fun f _ value hvalue => ?_⟩
  obtain ⟨i, r, hf, hr, rfl⟩ := hvalue
  obtain ⟨r', hr', hshown⟩ := exists_slot_of_packs hs hkeys hstore hpacks hf
  obtain rfl : r = r' := by simpa [hr] using hr'
  exact hshown

/-- The frame has the length of its code, its digits are read back whatever blanks follow them, and
a fresh receiver shows the values that went into it. -/
structure Recovers (schema : Schema) (values : List (String × Json)) (code : MessageCode)
    (frame : Bytes) (snapshot : Json) : Prop where
  length : frame.length = schema.frameLen code
  digits : ∀ blanks : String, (∀ c ∈ blanks.toList, Text.isBlank c = true) →
    Text.Hex.decode? (Text.Hex.encode frame ++ blanks) = some frame
  decoded : decodeFrame schema {} frame = .ok (code, snapshot)
  shows : schema.Shows (ShownAfter values code) snapshot

theorem exists_recovers (hs : schema.Canonical) (hmax : schema.maxFrameLen ≤ 251)
    (hkeys : KeysDiffer values) (hsome : tiers ≠ [] ∨ events ≠ [])
    (h : encodeFrame schema values tiers events = .ok (code, frame)) :
    Chosen tiers events code ∧ ∃ snapshot, Recovers schema values code frame snapshot := by
  obtain ⟨store, hstore, hchosen, hcode, hpacks⟩ := exists_of_encodeFrame hs hsome h
  have hlength := hpacks.length_eq_frameLen hs hcode
  have hfits : frame.length ≤ ({} : FrameConfig).maxFrameSize := by
    rw [hlength]
    exact (hs.frameLen_le_maxFrameLen code).trans hmax
  obtain ⟨snapshot, hdecoded, hshows⟩ := exists_decodeFrame hs hkeys hstore hpacks hfits
  exact ⟨hchosen, snapshot, hlength, fun _ hblanks => Text.Hex.decode?_encode frame hblanks,
    hdecoded, hshows⟩

/-! ### Commands -/

theorem runEncode_eq {host : Host} {source : SchemaSource} {given : ValuesSource}
    (hload : loadSchema host source = .ok schema) (hvalues : readValues host given = .ok values)
    (h : encodeFrame schema values tiers events = .ok (code, frame)) (format : OutputFormat) :
    runEncode host format source given tiers events = .ok (encodedReport code frame format) := by
  simp only [runEncode, hload, hvalues, h, bind, Except.bind]
  rfl

/-- What a fresh receiver takes, the command prints. -/
theorem runDecode_of_decodeFrame {host : Host} {source : SchemaSource} {text : String}
    {snapshot : Json} {allowTrailing : Bool} (hload : loadSchema host source = .ok schema)
    (htext : Text.Hex.decode? text = some frame)
    (h : decodeFrame schema { rejectTrailingBytes := !allowTrailing } frame = .ok (code, snapshot))
    (format : OutputFormat) : runDecode host format source text allowTrailing =
      .ok (textBytes (snapshotReport code frame snapshot host.unixSeconds format)) := by
  simp only [runDecode, hload, htext, h, bind, Except.bind]
  rfl

theorem runDecode_eq {host : Host} {source : SchemaSource} {text : String} {snapshot : Json}
    (hload : loadSchema host source = .ok schema) (htext : Text.Hex.decode? text = some frame)
    (h : decodeFrame schema {} frame = .ok (code, snapshot)) (format : OutputFormat) :
    runDecode host format source text false =
      .ok (textBytes (snapshotReport code frame snapshot host.unixSeconds format)) := by
  apply runDecode_of_decodeFrame hload htext
  exact h

theorem readValues_text (host : Host) {text : String} {members : List (String × Json)}
    (h : Json.parse text = some (.object members)) :
    readValues host (.text text) = .ok members := by
  simp [readValues, valuesText, h, bind, Except.bind, pure, Except.pure]

/-- Values that were read may be written in any order. -/
theorem readValues_text_of_perm {host : Host} {given : ValuesSource}
    (h : readValues host given = .ok values) {other : List (String × Json)}
    (hperm : other.Perm values) :
    readValues host (.text (Json.object other).text) = .ok values := by
  unfold readValues at h
  cases htext : valuesText host given with
  | error e => simp [htext, bind, Except.bind] at h
  | ok text? =>
    cases text? with
    | none =>
      -- no values were given
      simp only [htext, bind, Except.bind] at h
      obtain rfl := Except.ok.inj h
      obtain rfl := hperm.eq_nil
      exact readValues_text host (Json.parse_text (.object fun m hm => absurd hm List.not_mem_nil))
    | some text =>
      simp only [htext, bind, Except.bind] at h
      cases hparse : Json.parse text with
      | none => simp [hparse] at h
      | some j =>
        cases j with
        | object members =>
          simp only [hparse] at h
          obtain rfl := Except.ok.inj h
          exact readValues_text host (Json.parse_text_of_perm hparse hperm)
        | null | bool | number | string | array => simp [hparse] at h

/-- **What encoding prints, decoding recovers.** If some values, whose names differ, have a frame
under some tiers and events, at least one of them, the frame is that of the chosen code whatever the
order of the values, and a fresh receiver recovers the values from it. So does the one command from
the digits that the other one prints. -/
theorem runDecode_runEncode {limits : SchemaLimits} {name : String} {declared : List Field}
    (hbuild : Schema.build limits name declared = .ok schema) (hmax : schema.maxFrameLen ≤ 251)
    (hkeys : KeysDiffer values) (hsome : tiers ≠ [] ∨ events ≠ [])
    (h : encodeFrame schema values tiers events = .ok (code, frame)) :
    Chosen tiers events code ∧ ∃ snapshot, Recovers schema values code frame snapshot ∧
      (∀ other, other.Perm values →
        encodeFrame schema other tiers events = .ok (code, frame)) ∧
      ∀ host source, loadSchema host source = .ok schema →
        (∀ given, readValues host given = .ok values → ∀ format,
          runEncode host format source given tiers events =
            .ok (encodedReport code frame format) ∧
          ∀ other, other.Perm values →
            runEncode host format source (.text (Json.object other).text) tiers events =
              .ok (encodedReport code frame format)) ∧
        ∀ blanks : String, (∀ c ∈ blanks.toList, Text.isBlank c = true) → ∀ format,
          runDecode host format source (Text.Hex.encode frame ++ blanks) false =
            .ok (textBytes (snapshotReport code frame snapshot host.unixSeconds format)) := by
  have hs := Schema.build_eq_ok hbuild
  obtain ⟨hchosen, snapshot, hrecovers⟩ := exists_recovers hs hmax hkeys hsome h
  refine ⟨hchosen, snapshot, hrecovers, fun other hperm => encodeFrame_of_perm hs hkeys hperm h,
    fun host source hload => ⟨fun given hvalues format => ⟨?_, fun other hperm => ?_⟩,
      fun blanks hblanks format => ?_⟩⟩
  · exact runEncode_eq hload hvalues h format
  · exact runEncode_eq hload (readValues_text_of_perm hvalues hperm) h format
  · exact runDecode_eq hload (hrecovers.digits blanks hblanks) hrecovers.decoded format

/-- A reading of the scenario layout whose slow field is given but not carried. Its values are
written in another order, and the digits are followed by a line feed. -/
theorem runDecode_runEncode_scenario :
    let schema : Schema := ⟨"scenario", Schema.scenarioFields⟩
    let values := [("a", Json.ofNat 300), ("s", Json.ofNat 5)]
    let other := [("s", Json.ofNat 5), ("a", Json.ofNat 300)]
    let code := MessageCode.ofNat 17
    let frame : Bytes := [17, 0, 44, 1, 0, 0, 0]
    encodeFrame schema values ["fast"] [1] = .ok (code, frame) ∧
      ∃ snapshot, Recovers schema values code frame snapshot ∧ ∀ host format,
        runEncode host format (.variant "scenario") (.text (Json.object other).text) ["fast"] [1] =
          .ok (encodedReport code frame format) ∧
        runDecode host format (.variant "scenario") (Text.Hex.encode frame ++ "\n") false =
          .ok (textBytes (snapshotReport code frame snapshot host.unixSeconds format)) := by
  intro schema values other code frame
  have hbuild : Schema.build {} "scenario" Schema.scenarioFields = .ok schema :=
    Schema.build_scenario
  have hframe : encodeFrame schema values ["fast"] [1] = .ok (code, frame) := by
    have hsome : (encodeFrame schema values ["fast"] [1]).toOption = some (code, frame) := by
      decide +kernel
    cases h : encodeFrame schema values ["fast"] [1] with
    | error e => simp [h, Except.toOption] at hsome
    | ok built =>
      rw [h] at hsome
      exact congrArg Except.ok (Option.some.inj hsome)
  have hparse : Json.parse (Json.object values).text = some (.object values) := by
    refine Json.parse_text (.object fun m hm => ?_)
    rcases List.mem_pair.mp hm with rfl | rfl <;> exact .number (.unsigned _)
  have hkeys : KeysDiffer values := by
    rw [KeysDiffer]
    decide
  obtain ⟨-, snapshot, hrecovers, -, hcommands⟩ :=
    runDecode_runEncode hbuild (by decide) hkeys (.inl (by decide)) hframe
  refine ⟨hframe, snapshot, hrecovers, fun host format => ?_⟩
  have hload : loadSchema host (.variant "scenario") = .ok schema :=
    congrArg (Except.mapError _) hbuild
  obtain ⟨hencode, hdecode⟩ := hcommands host (.variant "scenario") hload
  have hgiven := hencode _ (readValues_text host hparse) format
  have hblank : ∀ c ∈ "\n".toList, Text.isBlank c = true := List.forall_mem_singleton.mpr rfl
  exact ⟨hgiven.2 other (.swap ..), hdecode "\n" hblank format⟩

end Telemetry.CommandLine
