import Telemetry.Schema.Basic
import Telemetry.Schema.Error
/-!
# Telemetry.Schema.Builder

**From declared fields to a schema.** `build` checks the declarations in their order,
puts the tiers one after the other with the declared order inside each, and then checks
what concerns the layout as a whole: names and the longest frame.

Events must ascend along the declarations, so the conditional fields of a schema stand
in the order of their events.
-/

namespace Telemetry.Schema

/-- A field may stand before one of the same or a lower priority. -/
def comesFirst (f g : Field) : Bool := f.tier.index ≤ g.tier.index

theorem comesFirst_trans (f g k : Field) (hfg : comesFirst f g = true)
    (hgk : comesFirst g k = true) : comesFirst f k = true := by
  simp only [comesFirst, decide_eq_true_eq] at *
  omega

theorem comesFirst_total (f g : Field) : (comesFirst f g || comesFirst g f) = true := by
  simp only [comesFirst, Bool.or_eq_true, decide_eq_true_eq]
  omega

/-- The declared fields by falling priority. The sort is stable, so each tier keeps its declared
order. -/
def inPriorityOrder (declared : List Field) : List Field := declared.mergeSort comesFirst

/-- Priority order only rearranges. -/
theorem inPriorityOrder_perm (declared : List Field) :
    (inPriorityOrder declared).Perm declared :=
  List.mergeSort_perm declared _

theorem mem_inPriorityOrder {declared : List Field} {f : Field} :
    f ∈ inPriorityOrder declared ↔ f ∈ declared :=
  (inPriorityOrder_perm declared).mem_iff

theorem pairwise_inPriorityOrder (declared : List Field) :
    (inPriorityOrder declared).Pairwise fun f g => f.tier.index ≤ g.tier.index :=
  (List.pairwise_mergeSort comesFirst_trans comesFirst_total declared).imp of_decide_eq_true

/-- Fields in priority order stay as they are. -/
theorem inPriorityOrder_of_pairwise {fields : List Field}
    (h : fields.Pairwise fun f g => f.tier.index ≤ g.tier.index) :
    inPriorityOrder fields = fields :=
  List.mergeSort_of_pairwise (h.imp decide_eq_true)

/-- The fields of a tier are in order among themselves, so the stable sort leaves them so. -/
theorem filter_inPriorityOrder (declared : List Field) (t : Tier) :
    ((inPriorityOrder declared).filter fun f => f.tier = t) =
      declared.filter fun f => f.tier = t := by
  have hequal : (declared.filter fun f => f.tier = t).Pairwise
      fun f g => comesFirst f g = true := by
    rw [List.pairwise_iff_forall_sublist]
    intro f g hfg
    have hf := hfg.subset List.mem_cons_self
    have hg := hfg.subset (List.mem_cons_of_mem f List.mem_cons_self)
    simp only [List.mem_filter, decide_eq_true_eq] at hf hg
    simp [comesFirst, hf.2, hg.2]
  have hkept : (declared.filter fun f => f.tier = t).Sublist (inPriorityOrder declared) :=
    List.sublist_mergeSort comesFirst_trans comesFirst_total hequal List.filter_sublist
  have hsublist := hkept.filter fun f => f.tier = t
  simp only [List.filter_filter, Bool.and_self] at hsublist
  have hlength := ((inPriorityOrder_perm declared).filter fun f => f.tier = t).length_eq
  exact (hsublist.eq_of_length hlength.symm).symm

/-- A list in priority order is its tiers one after the other. -/
theorem eq_flatMap_filter_of_pairwise {fields : List Field}
    (h : fields.Pairwise fun f g => f.tier.index ≤ g.tier.index) :
    fields = Tier.all.flatMap fun t => fields.filter fun f => f.tier = t := by
  induction fields with
  | nil => rfl
  | cons f rest ih =>
    obtain ⟨hlow, hrest⟩ := List.pairwise_cons.mp h
    -- no field of higher priority than the first comes after it
    have hnone : ∀ t : Tier, t.index < f.tier.index → (rest.filter fun g => g.tier = t) = [] := by
      intro t ht
      rw [List.filter_eq_nil_iff]
      intro g hg
      simp only [decide_eq_true_eq]
      rintro rfl
      exact absurd (hlow g hg) (by omega)
    calc f :: rest
        = f :: Tier.all.flatMap fun t => rest.filter fun g => g.tier = t :=
          congrArg (f :: ·) (ih hrest)
      _ = Tier.all.flatMap fun t => (f :: rest).filter fun g => g.tier = t := by
          cases ht : f.tier <;> rw [ht] at hnone
          case fast => simp [Tier.all, ht]
          case medium => simp [Tier.all, ht, hnone .fast (by decide)]
          case slow =>
            simp [Tier.all, ht, hnone .fast (by decide), hnone .medium (by decide)]
          case conditional =>
            simp [Tier.all, ht, hnone .fast (by decide), hnone .medium (by decide),
              hnone .slow (by decide)]

/-- Priority order puts the tiers one after the other, each as it is declared. -/
theorem inPriorityOrder_eq (declared : List Field) :
    inPriorityOrder declared =
      Tier.all.flatMap fun t => declared.filter fun f => f.tier = t := by
  rw [eq_flatMap_filter_of_pairwise (pairwise_inPriorityOrder declared)]
  simp only [filter_inPriorityOrder]

/-- The event of a field suits its tier and comes after the previous event. The answer
is the event that the next one must come after. -/
def checkEvent (previous : Option Nat) (f : Field) : Except SchemaError (Option Nat) :=
  if f.tier = .conditional then
    match f.event with
    | none => .error (.invalidEvent f.name none)
    | some event =>
      if maxEvent < event then .error (.invalidEvent f.name (some event))
      else
        match previous with
        | none => .ok (some event)
        | some before =>
          if event ≤ before then .error (.eventOrder f.name event before)
          else .ok (some event)
  else
    match f.event with
    | none => .ok previous
    | some event => .error (.invalidEvent f.name (some event))

/-- A quantized kind has a usable scale and bias. -/
def checkKind (f : Field) : Except SchemaError Unit :=
  match f.kind with
  | .quantized _ scale bias =>
    if IsUsableScale scale bias then .ok () else .error (.invalidQuantizer f.name scale bias)
  | _ => .ok ()

/-- One declaration: its name, then its kind, then its event. -/
def checkField (previous : Option Nat) (f : Field) : Except SchemaError (Option Nat) :=
  if f.name = "" then .error .emptyFieldName
  else
    match checkKind f with
    | .error e => .error e
    | .ok () => checkEvent previous f

/-- All declarations in their order. -/
def checkFields (previous : Option Nat) : List Field → Except SchemaError Unit
  | [] => .ok ()
  | f :: rest =>
    match checkField previous f with
    | .error e => .error e
    | .ok next => checkFields next rest

/-- The first name that stands a second time. -/
def repeatedName? (seen : List String) : List Field → Option String
  | [] => none
  | f :: rest => if f.name ∈ seen then some f.name else repeatedName? (f.name :: seen) rest

/-- No name stands twice exactly when the names differ from one another and from those seen
before. -/
theorem repeatedName?_eq_none_iff {seen : List String} {fields : List Field} :
    repeatedName? seen fields = none ↔
      (fields.map Field.name).Nodup ∧ ∀ f ∈ fields, f.name ∉ seen := by
  induction fields generalizing seen with
  | nil => simp [repeatedName?]
  | cons f rest ih =>
    unfold repeatedName?
    split
    · rename_i h
      simp [h]
    · rename_i h
      rw [ih]
      simp only [List.map_cons, List.nodup_cons, List.mem_map, List.mem_cons, not_or, not_exists,
        not_and]
      constructor
      · rintro ⟨hnd, hseen⟩
        refine ⟨⟨fun g hg heq => (hseen g hg).1 heq, hnd⟩, ?_⟩
        rintro g (rfl | hg)
        · exact h
        · exact (hseen g hg).2
      · rintro ⟨⟨hf, hnd⟩, hseen⟩
        exact ⟨hnd, fun g hg => ⟨hf g hg, hseen g (.inr hg)⟩⟩

/-- The schema of the declared fields. -/
def build (limits : SchemaLimits) (name : String) (declared : List Field) :
    Except SchemaError Schema :=
  if limits.maxFields < declared.length then
    .error (.tooManyFields declared.length limits.maxFields)
  else
    match checkFields none declared with
    | .error e => .error e
    | .ok () =>
      -- names are compared in priority order, which decides which repetition is reported
      let schema : Schema := ⟨name, inPriorityOrder declared⟩
      match repeatedName? [] schema.fields with
      | some repeated => .error (.duplicateField repeated)
      | none =>
        if limits.maxFrameSize < schema.maxFrameLen then
          .error (.frameTooLarge schema.maxFrameLen limits.maxFrameSize)
        else .ok schema

/-- Fields that are declared in priority order and pass the checks are the fields of the schema. -/
theorem build_of_pairwise {limits : SchemaLimits} {name : String} {fields : List Field}
    (hsorted : fields.Pairwise fun f g => f.tier.index ≤ g.tier.index)
    (hcount : fields.length ≤ limits.maxFields) (hchecked : checkFields none fields = .ok ())
    (hdiffer : repeatedName? [] fields = none)
    (hshort : maxFrameLen ⟨name, fields⟩ ≤ limits.maxFrameSize) :
    build limits name fields = .ok ⟨name, fields⟩ := by
  rw [build, if_neg (Nat.not_lt.mpr hcount), hchecked, inPriorityOrder_of_pairwise hsorted]
  dsimp only
  rw [hdiffer]
  exact if_neg (Nat.not_lt.mpr hshort)

end Telemetry.Schema
