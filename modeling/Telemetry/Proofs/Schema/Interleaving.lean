import Telemetry.Node.Receiver
import Telemetry.Proofs.Node.Sending
import Telemetry.Proofs.Schema.Document
/-!
# Telemetry.Proofs.Schema.Interleaving

**The layout depends on the order inside each tier alone.** Declarations may go through the tiers
in any order: the fields of one tier keep their order, and how they are interleaved with those of
the other tiers makes no difference (`SameTiers`).

The checks run over the declarations as they are listed, the look for repeated names and the
longest frame over the tiers one after the other. But what is asked of declarations (`Admissible`)
is something that the tiers tell: how many fields there are, what each is on its own, which names
and sizes they have, and in which order the events stand, which are all in one tier. So a list
passes if another one with the same tiers does, and the two are built alike. The main statement is
`build_interleaving`.
-/

namespace Telemetry

namespace Schema

variable {limits : SchemaLimits} {name : String} {declared other : List Field}

/-! ### The same tiers -/

/-- Each tier has the same fields in the same order. How the tiers are interleaved may differ. -/
def SameTiers (declared other : List Field) : Prop :=
  ∀ t, (declared.filter fun f => f.tier = t) = other.filter fun f => f.tier = t

theorem SameTiers.symm (h : SameTiers declared other) : SameTiers other declared :=
  fun t => (h t).symm

theorem SameTiers.inPriorityOrder_eq (h : SameTiers declared other) :
    inPriorityOrder declared = inPriorityOrder other := by
  rw [Schema.inPriorityOrder_eq, Schema.inPriorityOrder_eq]
  exact congrArg Tier.all.flatMap (funext h)

/-- Putting the tiers one after the other only rearranges, for the one list as for the other. -/
theorem SameTiers.perm (h : SameTiers declared other) : declared.Perm other := by
  have hdeclared := (inPriorityOrder_perm declared).symm
  rw [h.inPriorityOrder_eq] at hdeclared
  exact hdeclared.trans (inPriorityOrder_perm other)

/-- The events stand in one tier, so they come in the same order. -/
theorem SameTiers.filterMap_event_eq (h : SameTiers declared other)
    (hvalid : ∀ f ∈ declared, f.Valid) :
    declared.filterMap Field.event = other.filterMap Field.event := by
  have hother : ∀ f ∈ other, f.Valid := fun f hf => hvalid f (h.perm.mem_iff.mpr hf)
  calc declared.filterMap Field.event
      = (inPriorityOrder declared).filterMap Field.event :=
        (filterMap_event_inPriorityOrder hvalid).symm
    _ = (inPriorityOrder other).filterMap Field.event := by rw [h.inPriorityOrder_eq]
    _ = other.filterMap Field.event := filterMap_event_inPriorityOrder hother

/-- Each check finds the same in both. -/
theorem Admissible.of_sameTiers (hadmissible : Admissible limits declared)
    (h : SameTiers declared other) : Admissible limits other :=
  hadmissible.of_perm h.perm (h.filterMap_event_eq hadmissible.valid)

theorem SameTiers.build_eq_ok (h : SameTiers declared other) {s : Schema}
    (hbuild : build limits name declared = .ok s) : build limits name other = .ok s := by
  have hother := (admissible_of_build hbuild).of_sameTiers h
  obtain ⟨-, -, -, -, rfl⟩ := build_inv hbuild
  rw [hother.build_eq, h.inPriorityOrder_eq]

/-! ### Nodes -/

/-- **The layout depends on the order inside each tier alone.** If two lists of declarations have
the same tiers, either both are refused, or both are built, and into the same schema. Nodes of the
two then send the same frames after the same operations, read every frame alike, and hold the same
values after it. Refusals may name different faults, since the first one that is met is answered. -/
theorem build_interleaving (h : SameTiers declared other) (limits : SchemaLimits)
    (name : String) :
    ((∃ s, build limits name declared = .ok s) ↔ ∃ s, build limits name other = .ok s) ∧
      ∀ s s', build limits name declared = .ok s → build limits name other = .ok s' → s = s' ∧
        (∀ (ops : List Transmitter.Operation) (sources : Sources) (writer : FrameWriter)
          (link : Loopback),
          let sent := ((Transmitter.initial s).run ops).send sources writer link
          let sent' := ((Transmitter.initial s').run ops).send sources writer link
          sent.1 = sent'.1 ∧ sent.2.2 = sent'.2.2) ∧
        ∀ (config : FrameConfig) (frame : Bytes),
          s.decodeFrame config frame = s'.decodeFrame config frame ∧
            ∀ field, (((Receiver.initial s config).apply frame).2.get field).1 =
              (((Receiver.initial s' config).apply frame).2.get field).1 := by
  refine ⟨⟨?_, ?_⟩, ?_⟩
  · rintro ⟨s, hs⟩
    exact ⟨s, h.build_eq_ok hs⟩
  · rintro ⟨s, hs⟩
    exact ⟨s, h.symm.build_eq_ok hs⟩
  · intro s s' hs hs'
    obtain rfl : s = s' := Except.ok.inj ((h.build_eq_ok hs).symm.trans hs')
    exact ⟨rfl, fun _ _ _ _ => ⟨rfl, rfl⟩, fun _ _ => ⟨rfl, fun _ => rfl⟩⟩

/-- Two conditional fields around the periodic ones and between them. -/
theorem build_interleaving_mixed :
    let c := conditionalField "c" 3 (.unsigned .w8)
    let d := conditionalField "d" 5 (.signed .w16)
    let slow := periodicField .slow "s" .single
    let medium := periodicField .medium "m" (.unsigned .w8)
    let fast := periodicField .fast "f" .double
    let fast' := periodicField .fast "g" wheelSpeed
    let declared := [c, slow, fast, d, medium, fast']
    let other := [fast, fast', medium, slow, c, d]
    SameTiers declared other ∧ ∃ s, build {} "mixed" declared = .ok s ∧
      build {} "mixed" other = .ok s := by
  intro c d slow medium fast fast' declared other
  have hsame : SameTiers declared other := by
    intro t
    cases t <;> rfl
  have hadmissible : Admissible {} declared :=
    .of_checkFields (by decide +kernel) (by decide) (by decide +kernel) (by decide +kernel)
  have hdeclared : build {} "mixed" declared = .ok ⟨"mixed", other⟩ := by
    rw [hadmissible.build_eq, inPriorityOrder_eq]
    decide +kernel
  obtain ⟨hbuilt, hequal⟩ := build_interleaving hsame {} "mixed"
  obtain ⟨s, hother⟩ := hbuilt.mp ⟨_, hdeclared⟩
  have hs := (hequal _ s hdeclared hother).1
  exact ⟨hsame, s, hs ▸ hdeclared, hother⟩

/-- Which fault is answered may depend on how the tiers are interleaved. -/
example :
    let unnamed := periodicField .fast "" .double
    let late := conditionalField "c" 13 .double
    build {} "mixed" [unnamed, late] = .error .emptyFieldName ∧
      build {} "mixed" [late, unnamed] = .error (.invalidEvent "c" (some 13)) := by
  decide +kernel

end Schema

end Telemetry
