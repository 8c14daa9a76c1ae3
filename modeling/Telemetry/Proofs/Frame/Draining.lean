import Mathlib.Data.List.Forall2
import Telemetry.DirtyFlags
/-!
# Telemetry.Proofs.Frame.Draining

**Every mark is drained exactly once.** Tiers and events are marked in any order and as often
as one likes; draining answers the code of everything that was marked since the last drain and
nothing else.

The code that the flags stand for is a function of the marks since the last drain alone
(`MessageCode.Spells`). One mark adds itself to it (`spells_take`) and a drain starts it anew
(`act_drain`), so a run of marks and drains answers for each drain the code of the marks before it
(`spells_codes`). The main statement is `run_outcome`.
-/

namespace Telemetry

/-! ### Marks -/

/-- Something to be sent with the next frame. -/
inductive Mark
  | tier (t : Tier)
  | event (event : Nat)
  deriving DecidableEq

namespace Mark

/-- Periodic tiers can be marked, and events up to the last one. -/
def IsTaken : Mark → Prop
  | tier t => t ≠ .conditional
  | event e => e ≤ maxEvent

instance : DecidablePred IsTaken
  | tier t => inferInstanceAs (Decidable (t ≠ .conditional))
  | event e => inferInstanceAs (Decidable (e ≤ maxEvent))

/-- The bit of the message code that stands for the mark, if it is taken. -/
def bit? : Mark → Option Nat
  | tier t => t.bit?
  | event e => if e ≤ maxEvent then some (eventBit e) else none

@[simp]
theorem bit?_event {e bit : Nat} :
    (event e).bit? = some bit ↔ e ≤ maxEvent ∧ eventBit e = bit := by
  rw [bit?, Option.ite_none_right_eq_some, Option.some.injEq]

/-- The tiers have the lowest three bits, in priority order. -/
theorem bit?_tier {t : Tier} {bit : Nat} (h : (tier t).bit? = some bit) :
    bit = t.index ∧ bit < 3 := by
  cases t <;> simp_all [bit?, Tier.bit?, Tier.index] <;> omega

theorem isTaken_iff {m : Mark} : m.IsTaken ↔ ∃ bit, m.bit? = some bit := by
  cases m with
  | tier t => cases t <;> simp [IsTaken, bit?, Tier.bit?]
  | event e => simp [IsTaken]

theorem lt_of_bit? {m : Mark} {bit : Nat} (h : m.bit? = some bit) : bit < 16 := by
  cases m with
  | tier t =>
    have hlt := (bit?_tier h).2
    omega
  | event e =>
    obtain ⟨he, rfl⟩ := bit?_event.mp h
    simp only [maxEvent, eventBit, eventShift] at *
    omega

/-- No two marks share a bit. -/
theorem bit?_inj {m m' : Mark} {bit : Nat} (h : m.bit? = some bit) (h' : m'.bit? = some bit) :
    m = m' := by
  have hevent : ∀ {e : Nat}, (event e).bit? = some bit → bit = 3 + e := by
    intro e he
    rw [← (bit?_event.mp he).2, eventBit, eventShift]
  cases m with
  | tier t =>
    obtain ⟨ht, hlt⟩ := bit?_tier h
    cases m' with
    | tier t' => rw [Tier.index_inj.mp (ht.symm.trans (bit?_tier h').1)]
    | event e' =>
      -- the events have the bits above those of the tiers
      have he' := hevent h'
      omega
  | event e =>
    have he := hevent h
    cases m' with
    | tier t' =>
      have hlt' := (bit?_tier h').2
      omega
    | event e' =>
      have he' := hevent h'
      rw [show e = e' by omega]

end Mark

/-! ### Codes -/

namespace MessageCode

/-- The bits of the code are those of the marks, whatever their order and number. -/
def Spells (code : MessageCode) (marks : List Mark) : Prop :=
  ∀ bit, code.bits.getLsbD bit = true ↔ ∃ m ∈ marks, m.bit? = some bit

theorem spells_empty : empty.Spells [] := by
  intro bit
  simp [empty]

theorem Spells.withBit {code : MessageCode} {marks : List Mark} (h : code.Spells marks) {m : Mark}
    {bit : Nat} (hm : m.bit? = some bit) : (code.withBit bit).Spells (m :: marks) := by
  intro i
  have hlt := Mark.lt_of_bit? hm
  rw [getLsbD_withBit, Bool.or_eq_true, h i]
  simp only [Bool.and_eq_true, decide_eq_true_eq, List.exists_mem_cons_iff, hm, Option.some.injEq]
  constructor
  · rintro (hold | ⟨-, hnew⟩)
    · exact Or.inr hold
    · exact Or.inl hnew
  · rintro (rfl | hold)
    · exact Or.inr ⟨hlt, rfl⟩
    · exact Or.inl hold

/-- A mark that is not taken adds no bit. -/
theorem Spells.ignore {code : MessageCode} {marks : List Mark} (h : code.Spells marks) {m : Mark}
    (hm : m.bit? = none) : code.Spells (m :: marks) := by
  intro i
  rw [h i]
  simp [hm]

/-- Two lists with the same marks in them, those that are not taken left aside. -/
def SameMarks (marks marks' : List Mark) : Prop := ∀ m, m.IsTaken → (m ∈ marks ↔ m ∈ marks')

/-- The same marks give the same code. -/
theorem Spells.eq_of_sameMarks {code code' : MessageCode} {marks marks' : List Mark}
    (h : code.Spells marks) (h' : code'.Spells marks') (hsame : SameMarks marks marks') :
    code = code' := by
  obtain ⟨bits⟩ := code
  obtain ⟨bits'⟩ := code'
  congr 1
  apply BitVec.eq_of_getLsbD_eq
  intro i _
  rw [Bool.eq_iff_iff, h i, h' i]
  apply exists_congr
  intro m
  apply and_congr_left
  intro hm
  exact hsame m (Mark.isTaken_iff.mpr ⟨i, hm⟩)

/-- What is known of the code of some marks. -/
structure Gathers (marks : List Mark) (code : MessageCode) : Prop where
  /-- The code has the periodic tiers that were marked. -/
  hasTier_iff : ∀ t, t ≠ .conditional → (code.hasTier t = true ↔ .tier t ∈ marks)
  /-- It has the events that were raised, as far as they fit. -/
  hasEvent_iff : ∀ e, code.hasEvent e = true ↔ e ≤ maxEvent ∧ .event e ∈ marks
  /-- And it has no other bit. -/
  getLsbD_iff : ∀ bit, code.bits.getLsbD bit = true ↔
    (∃ t, t.bit? = some bit ∧ .tier t ∈ marks) ∨
      ∃ e ≤ maxEvent, eventBit e = bit ∧ .event e ∈ marks
  eq_empty_iff : code = .empty ↔ ∀ m ∈ marks, ¬ m.IsTaken

theorem Spells.mem_iff {code : MessageCode} {marks : List Mark} (h : code.Spells marks) {m : Mark}
    {bit : Nat} (hm : m.bit? = some bit) : code.bits.getLsbD bit = true ↔ m ∈ marks := by
  rw [h bit]
  constructor
  · rintro ⟨m', hmem, hm'⟩
    rw [Mark.bit?_inj hm hm']
    exact hmem
  · exact fun hmem => ⟨m, hmem, hm⟩

theorem Spells.gathers {code : MessageCode} {marks : List Mark} (h : code.Spells marks) :
    Gathers marks code where
  hasTier_iff := by
    intro t ht
    obtain ⟨bit, hbit⟩ := Mark.isTaken_iff.mp (show (Mark.tier t).IsTaken from ht)
    rw [← h.mem_iff hbit, hasTier, show t.bit? = some bit from hbit]
  hasEvent_iff := by
    intro e
    by_cases he : e ≤ maxEvent
    · have hbit : (Mark.event e).bit? = some (eventBit e) := if_pos he
      rw [hasEvent, h.mem_iff hbit]
      simp [he]
    · have hbit : 16 ≤ eventBit e := by
        simp only [eventBit, eventShift, maxEvent] at *
        omega
      simp [hasEvent, he, BitVec.getLsbD_of_ge _ _ hbit]
  getLsbD_iff := by
    intro bit
    rw [h bit]
    constructor
    · rintro ⟨m, hmem, hm⟩
      cases m with
      | tier t => exact Or.inl ⟨t, hm, hmem⟩
      | event e =>
        obtain ⟨he, hbit⟩ := Mark.bit?_event.mp hm
        exact Or.inr ⟨e, he, hbit, hmem⟩
    · rintro (⟨t, ht, hmem⟩ | ⟨e, he, rfl, hmem⟩)
      · exact ⟨.tier t, hmem, ht⟩
      · exact ⟨.event e, hmem, if_pos he⟩
  eq_empty_iff := by
    constructor
    · rintro rfl m hmem htaken
      obtain ⟨bit, hbit⟩ := Mark.isTaken_iff.mp htaken
      have hset := (h.mem_iff hbit).mpr hmem
      simp [empty] at hset
    · intro hnone
      exact h.eq_of_sameMarks spells_empty fun m htaken =>
        ⟨fun hmem => absurd htaken (hnone m hmem), fun hmem => absurd hmem List.not_mem_nil⟩

end MessageCode

/-! ### Runs -/

namespace DirtyFlags

open MessageCode (Spells Gathers SameMarks)

/-- Marks a tier or raises an event. -/
def take (f : DirtyFlags) : Mark → Bool × DirtyFlags
  | .tier t => f.mark t
  | .event e => f.raise e

/-- What is done with the flags. -/
inductive Action
  | mark (m : Mark)
  | drain

/-- What the flags answer: whether a mark was taken, or the code that was drained. -/
inductive Answer
  | marked (taken : Bool)
  | drained (code : MessageCode)

def act (f : DirtyFlags) : Action → Answer × DirtyFlags
  | .mark m => (.marked (f.take m).1, (f.take m).2)
  | .drain => (.drained f.drain.1, f.drain.2)

/-- The answers to some actions that are done one after the other, each with the flags after
it. -/
def run (f : DirtyFlags) : List Action → List (Answer × DirtyFlags)
  | [] => []
  | a :: rest => f.act a :: (f.act a).2.run rest

/-- The codes that were drained. -/
def codes (steps : List (Answer × DirtyFlags)) : List MessageCode :=
  steps.filterMap fun step =>
    match step.1 with
    | .drained code => some code
    | .marked _ => none

/-- For each drain the marks since the last one, `marks` being those that stand open at the
start. -/
def intervals (marks : List Mark) : List Action → List (List Mark)
  | [] => []
  | .mark m :: rest => intervals (m :: marks) rest
  | .drain :: rest => marks :: intervals [] rest

/-- Whether the action can make a difference: a mark that is not taken cannot. -/
def Action.matters : Action → Bool
  | .mark m => decide m.IsTaken
  | .drain => true

/-- A mark is answered with whether it is taken, a drain with a code and clean flags. -/
def Action.Answered : Action → Answer × DirtyFlags → Prop
  | .mark m, (answer, _) => answer = .marked (decide m.IsTaken)
  | .drain, (answer, after) => (∃ code, answer = .drained code) ∧ after.isClean = true

theorem act_drain (f : DirtyFlags) : f.act .drain = (.drained f.pending, clean) := by
  rw [act, drain_eq]

theorem act_answered (f : DirtyFlags) (a : Action) : a.Answered (f.act a) := by
  cases a with
  | drain =>
    rw [act_drain]
    exact ⟨⟨_, rfl⟩, rfl⟩
  | mark m =>
    cases m with
    | tier t => cases t <;> rfl
    | event e => exact congrArg Answer.marked (f.raise_fst e)

/-- Clean flags hold no mark. -/
theorem spells_clean : clean.pending.Spells [] := by
  rw [pending_clean]
  exact MessageCode.spells_empty

/-- A mark joins those that the flags hold already. -/
theorem spells_take {f : DirtyFlags} {marks : List Mark} (h : f.pending.Spells marks) (m : Mark) :
    (f.take m).2.pending.Spells (m :: marks) := by
  cases m with
  | tier t =>
    rw [take, pending_mark, MessageCode.withTier]
    cases ht : t.bit? with
    | some bit => exact h.withBit ht
    | none => exact h.ignore ht
  | event e =>
    rw [take, pending_raise, MessageCode.withEvent]
    split
    · rename_i he
      exact h.withBit (if_pos he)
    · rename_i he
      exact h.ignore (if_neg he)

/-- Each drain of a run answers the code of the marks since the last one. -/
theorem spells_codes {f : DirtyFlags} {marks : List Mark} (h : f.pending.Spells marks)
    (actions : List Action) :
    List.Forall₂ (fun marks code => code.Spells marks) (intervals marks actions)
      (codes (f.run actions)) := by
  induction actions generalizing f marks with
  | nil => exact .nil
  | cons a rest ih =>
    cases a with
    | mark m => exact ih (spells_take h m)
    | drain =>
      rw [run, act_drain]
      exact .cons h (ih spells_clean)

theorem run_answered (f : DirtyFlags) (actions : List Action) :
    List.Forall₂ Action.Answered actions (f.run actions) := by
  induction actions generalizing f with
  | nil => exact .nil
  | cons a rest ih => exact .cons (f.act_answered a) (ih _)

/-- Leaving out the marks that are not taken leaves the same marks between the drains. -/
theorem sameMarks_filter {marks marks' : List Mark} (h : SameMarks marks marks')
    (actions : List Action) :
    List.Forall₂ SameMarks (intervals marks actions)
      (intervals marks' (actions.filter Action.matters)) := by
  induction actions generalizing marks marks' with
  | nil => exact .nil
  | cons a rest ih =>
    cases a with
    | drain => exact .cons h (ih fun _ _ => Iff.rfl)
    | mark m =>
      by_cases hm : m.IsTaken
      · rw [List.filter_cons_of_pos (by simpa [Action.matters] using hm)]
        exact ih fun m' hm' => by simp only [List.mem_cons, h m' hm']
      · rw [List.filter_cons_of_neg (by simpa [Action.matters] using hm)]
        refine ih fun m' hm' => ?_
        have hne : m' ≠ m := by
          rintro rfl
          exact hm hm'
        rw [List.mem_cons, or_iff_right hne, h m' hm']

/-- Where the intervals of two runs have the same marks, the runs drain the same codes. -/
theorem codes_eq_of_sameMarks {actions others : List Action}
    (h : List.Forall₂ SameMarks (intervals [] actions) (intervals [] others)) :
    codes (clean.run actions) = codes (clean.run others) := by
  have hspells := spells_codes spells_clean
  have hactions := hspells actions
  have hothers := hspells others
  generalize intervals [] actions = marks, codes (clean.run actions) = cs at h hactions ⊢
  generalize intervals [] others = marks', codes (clean.run others) = cs' at h hothers ⊢
  induction h generalizing cs cs' with
  | nil =>
    cases hactions
    cases hothers
    rfl
  | cons hsame _ ih =>
    obtain _ | ⟨hcode, hrest⟩ := hactions
    obtain _ | ⟨hcode', hrest'⟩ := hothers
    rw [hcode.eq_of_sameMarks hcode' hsame, ih _ hrest _ hrest']

/-- **Every mark is drained exactly once.** Of any run that starts with clean flags: marks are
answered for what they are, and after each drain the flags are clean. Each drained code gathers
the marks since the last drain. Marks that are not taken make no difference to any code, nor do
the order and the number of those that are. -/
theorem run_outcome (actions : List Action) :
    List.Forall₂ Action.Answered actions (clean.run actions) ∧
      List.Forall₂ Gathers (intervals [] actions) (codes (clean.run actions)) ∧
      codes (clean.run (actions.filter Action.matters)) = codes (clean.run actions) ∧
      ∀ others, List.Forall₂ SameMarks (intervals [] actions) (intervals [] others) →
        codes (clean.run others) = codes (clean.run actions) := by
  refine ⟨clean.run_answered actions, ?_, ?_, fun others h => (codes_eq_of_sameMarks h).symm⟩
  · exact (spells_codes spells_clean actions).imp fun _ _ => Spells.gathers
  · exact (codes_eq_of_sameMarks (sameMarks_filter (fun _ _ => Iff.rfl) actions)).symm

/-- Marks in another order, more than once and some of them not taken, with two drains in a
row. -/
theorem run_outcome_scenario :
    let actions : List Action := [.mark (.event 12), .mark (.tier .medium), .drain, .drain,
      .mark (.event 0), .drain]
    let others : List Action := [.mark (.tier .medium), .mark (.event 13), .mark (.event 12),
      .mark (.tier .conditional), .mark (.tier .medium), .drain, .drain, .mark (.event 0), .drain]
    codes (clean.run actions) = [.ofNat 0x8002, .empty, .ofNat 8] ∧
      codes (clean.run others) = codes (clean.run actions) := by
  intro actions others
  have hsame : List.Forall₂ SameMarks (intervals [] actions) (intervals [] others) := by
    refine .cons ?_ (.cons (fun _ _ => Iff.rfl) (.cons (fun _ _ => Iff.rfl) .nil))
    intro m hm
    have hconditional : m ≠ .tier .conditional := by
      rintro rfl
      exact hm rfl
    have hlate : m ≠ .event 13 := by
      rintro rfl
      exact absurd hm (by decide)
    simp only [List.mem_cons, List.not_mem_nil, hconditional, hlate, or_false, false_or]
    tauto
  exact ⟨by decide +kernel, (run_outcome actions).2.2.2 others hsame⟩

end DirtyFlags

end Telemetry
