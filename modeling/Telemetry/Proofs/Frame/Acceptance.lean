import Telemetry.Proofs.Frame.Selection
import Telemetry.Schema.Variants
/-!
# Telemetry.Proofs.Frame.Acceptance

**Which byte strings are frames.** `Schema.decodeFrame` is decided by three lengths: that
of the bytes, the longest that is accepted, and the one that the header implies. Nothing
is read before all three agree.

`Schema.Tiles` says what is read from an accepted frame: consecutive slices of the bytes,
one for each update, each of its field's size and inside the bytes. The main statement is
`decodeFrame_outcome`.
-/

namespace Telemetry

namespace Schema

/-- Updates that are read off consecutive slices of `src`, from `start` to `stop`. Each
slice has the size of its field, lies inside `src` and starts where the one before it
ended. -/
inductive Tiles (s : Schema) (src : Bytes) : Nat → List (Nat × Reading) → Nat → Prop
  | nil (start : Nat) : Tiles s src start [] start
  | cons {start stop i : Nat} {f : Field} {updates : List (Nat × Reading)}
      (hfield : s.fields[i]? = some f) (hinside : start + f.size ≤ src.length)
      (hrest : Tiles s src (start + f.size) updates stop) :
      Tiles s src start
        ((i, Reading.decode f.kind ((src.drop start).take f.size)) :: updates) stop

variable {s : Schema}

/-- Every index of the list is that of a field. -/
def InRange (s : Schema) (l : List Nat) : Prop := ∀ i ∈ l, ∃ f, s.fields[i]? = some f

theorem InRange.tail {i : Nat} {rest : List Nat} (h : s.InRange (i :: rest)) :
    s.InRange rest :=
  fun j hj => h j (List.mem_cons_of_mem i hj)

theorem Canonical.inRange_carried (h : s.Canonical) (code : MessageCode) :
    s.InRange (s.carried code) :=
  fun _ hi => h.getElem?_of_mem_carried hi

/-! ### Reading a payload -/

theorem unpack_cons {i : Nat} {f : Field} (hf : s.fields[i]? = some f) (rest : List Nat)
    (payload : Bytes) :
    s.unpack (i :: rest) payload =
      (i, Reading.decode f.kind (payload.take f.size)) ::
        s.unpack rest (payload.drop f.size) := by
  rw [unpack, hf]

theorem payloadSize_cons {i : Nat} {f : Field} (hf : s.fields[i]? = some f)
    (rest : List Nat) : s.payloadSize (i :: rest) = f.size + s.payloadSize rest := by
  rw [payloadSize, fieldSize_eq hf]

/-- Reading a payload gives one update for each index, in the same order. -/
theorem map_fst_unpack {l : List Nat} (hl : s.InRange l) (payload : Bytes) :
    (s.unpack l payload).map Prod.fst = l := by
  induction l generalizing payload with
  | nil => rfl
  | cons i rest ih =>
    obtain ⟨f, hf⟩ := hl i List.mem_cons_self
    rw [unpack_cons hf, List.map_cons, ih hl.tail]

/-- The slices of some fields tile as many bytes as the fields take, if that many are
there. -/
theorem tiles_unpack {l : List Nat} (hl : s.InRange l) {src : Bytes} {start : Nat}
    (hlen : start + s.payloadSize l ≤ src.length) :
    s.Tiles src start (s.unpack l (src.drop start)) (start + s.payloadSize l) := by
  induction l generalizing start with
  | nil => exact .nil start
  | cons i rest ih =>
    obtain ⟨f, hf⟩ := hl i List.mem_cons_self
    rw [payloadSize_cons hf] at hlen ⊢
    rw [unpack_cons hf, List.drop_drop, ← Nat.add_assoc]
    exact .cons hf (by omega) (ih hl.tail (by omega))

/-- Bytes past the payload are never read. -/
theorem unpack_take {l : List Nat} (hl : s.InRange l) (payload : Bytes) {n : Nat}
    (hn : s.payloadSize l ≤ n) : s.unpack l (payload.take n) = s.unpack l payload := by
  induction l generalizing payload n with
  | nil => rfl
  | cons i rest ih =>
    obtain ⟨f, hf⟩ := hl i List.mem_cons_self
    rw [payloadSize_cons hf] at hn
    rw [unpack_cons hf, unpack_cons hf, List.take_take, List.drop_take,
      Nat.min_eq_left (by omega), ih hl.tail _ (by omega)]

/-! ### The length that a header implies -/

/-- The shortest byte string that is a frame with this code. The empty code, which is never
sent, still has a header when it is received. -/
def impliedLen (s : Schema) (code : MessageCode) : Nat := max (s.frameLen code) headerSize

/-- The empty code has a header and no payload, like any other code without fields. -/
theorem Canonical.impliedLen_eq (h : s.Canonical) (code : MessageCode) :
    s.impliedLen code = headerSize + s.payloadSize (s.carried code) := by
  unfold impliedLen frameLen
  by_cases he : code.isEmpty = true
  · have hnone : s.carried code = [] := by
      rw [List.eq_nil_iff_forall_not_mem]
      intro i hi
      obtain ⟨f, -, hsel⟩ := h.mem_carried.mp hi
      rw [MessageCode.eq_empty he, MessageCode.selects_empty] at hsel
      exact absurd hsel (by simp)
    rw [if_pos he, hnone]
    rfl
  · rw [if_neg he]
    omega

theorem Canonical.impliedLen_le_maxFrameLen (h : s.Canonical) (code : MessageCode) :
    s.impliedLen code ≤ s.maxFrameLen :=
  Nat.max_le.mpr ⟨h.frameLen_le_maxFrameLen code, Nat.le_add_right _ _⟩

end Schema

/-- The two bytes of a header spell the code, low byte first. -/
theorem MessageCode.toNat_ofBytes (low high : UInt8) :
    (ofBytes low high).toNat = low.toNat + 256 * high.toNat := by
  have hlow := low.toNat_lt
  have hhigh := high.toNat_lt
  rw [ofBytes, ofNat, toNat, BitVec.toNat_ofNat]
  omega

namespace Schema

variable {s : Schema}

/-! ### The outcome -/

/-- What stands in an accepted frame: an update for each field that its code selects, in
schema order, tiling the bytes from the header to the implied length. -/
structure Reads (s : Schema) (src : Bytes) (expected : Nat) (frame : DecodedFrame) : Prop where
  ascending : (frame.updates.map Prod.fst).Pairwise (· < ·)
  selected : ∀ i, i ∈ frame.updates.map Prod.fst ↔
    ∃ f, s.fields[i]? = some f ∧ frame.code.selects f = true
  tiles : s.Tiles src headerSize frame.updates expected
  inside : expected ≤ src.length

/-- Each field has one update at most. -/
theorem Reads.nodup {src : Bytes} {expected : Nat} {frame : DecodedFrame}
    (h : s.Reads src expected frame) : (frame.updates.map Prod.fst).Nodup :=
  h.ascending.imp fun hlt => Nat.ne_of_lt hlt

/-- What is read from bytes that are long enough for their header. -/
def frameOf (s : Schema) (src : Bytes) : DecodedFrame :=
  ⟨headerOf src, s.unpack (s.carried (headerOf src)) (src.drop headerSize)⟩

/-- The lengths alone decide, the first fault in this order being reported. -/
theorem decodeFrame_eq (s : Schema) (config : FrameConfig) (src : Bytes) :
    s.decodeFrame config src =
      if config.maxFrameSize < src.length then
        .error (.frameTooLarge src.length config.maxFrameSize)
      else if src.length < headerSize then .error (.truncatedFrame headerSize src.length)
      else if src.length < s.impliedLen (headerOf src) then
        .error (.truncatedFrame (s.impliedLen (headerOf src)) src.length)
      else if s.impliedLen (headerOf src) < src.length ∧ config.rejectTrailingBytes = true then
        .error (.trailingBytes (s.impliedLen (headerOf src)) src.length)
      else .ok (s.frameOf src) :=
  rfl

/-- Bytes of the length that their header implies are read, and longer ones too unless
trailing bytes are refused. -/
theorem decodeFrame_eq_ok {config : FrameConfig} {src : Bytes}
    (hmax : src.length ≤ config.maxFrameSize)
    (hlen : s.impliedLen (headerOf src) ≤ src.length)
    (htrailing : s.impliedLen (headerOf src) < src.length →
      config.rejectTrailingBytes = false) :
    s.decodeFrame config src = .ok (s.frameOf src) := by
  have hheader : headerSize ≤ src.length := Nat.le_trans (Nat.le_max_right _ _) hlen
  have hpass : ¬ (s.impliedLen (headerOf src) < src.length ∧
      config.rejectTrailingBytes = true) := by
    rintro ⟨hlt, hreject⟩
    rw [htrailing hlt] at hreject
    exact absurd hreject (by simp)
  rw [decodeFrame_eq, if_neg (Nat.not_lt.mpr hmax), if_neg (Nat.not_lt.mpr hheader),
    if_neg (Nat.not_lt.mpr hlen), if_neg hpass]

/-- Nothing else is ever read. -/
theorem eq_frameOf_of_decodeFrame {config : FrameConfig} {src : Bytes} {frame : DecodedFrame}
    (h : s.decodeFrame config src = .ok frame) : frame = s.frameOf src := by
  rw [decodeFrame_eq] at h
  split at h
  · cases h
  · split at h
    · cases h
    · split at h
      · cases h
      · split at h
        · cases h
        · exact (Except.ok.inj h).symm

/-- What is accepted has the length that its header implies, or is longer where trailing bytes
pass. -/
theorem length_of_decodeFrame {config : FrameConfig} {src : Bytes} {frame : DecodedFrame}
    (h : s.decodeFrame config src = .ok frame) :
    s.impliedLen (headerOf src) ≤ src.length ∧
      (config.rejectTrailingBytes = true → src.length = s.impliedLen (headerOf src)) := by
  rw [decodeFrame_eq] at h
  split at h
  · cases h
  · split at h
    · cases h
    · split at h
      · cases h
      · rename_i hlong
        split at h
        · cases h
        · rename_i hpass
          refine ⟨Nat.not_lt.mp hlong, fun hstrict => ?_⟩
          have hle : ¬ s.impliedLen (headerOf src) < src.length := fun hlt => hpass ⟨hlt, hstrict⟩
          omega

/-- Reading a frame asks no source for anything. -/
theorem decodeFrame_ne_crashed (config : FrameConfig) (src : Bytes) :
    s.decodeFrame config src ≠ .error .sourceCrashed := by
  rw [decodeFrame_eq]
  split
  · simp
  · split
    · simp
    · split
      · simp
      · split <;> simp

theorem Canonical.reads_frameOf (h : s.Canonical) {src : Bytes}
    (hlen : s.impliedLen (headerOf src) ≤ src.length) :
    s.Reads src (s.impliedLen (headerOf src)) (s.frameOf src) := by
  have hrange := h.inRange_carried (headerOf src)
  have hfst : (s.frameOf src).updates.map Prod.fst = s.carried (headerOf src) :=
    map_fst_unpack hrange _
  rw [h.impliedLen_eq] at hlen ⊢
  exact {
    ascending := by
      rw [hfst]
      exact h.pairwise_carried _
    selected := fun i => by
      rw [hfst]
      exact h.mem_carried
    tiles := tiles_unpack hrange hlen
    inside := hlen }

theorem Canonical.reads_of_decodeFrame (h : s.Canonical) {config : FrameConfig} {src : Bytes}
    {frame : DecodedFrame} (hdecode : s.decodeFrame config src = .ok frame) :
    s.Reads src (s.impliedLen frame.code) frame := by
  obtain rfl := eq_frameOf_of_decodeFrame hdecode
  exact h.reads_frameOf (length_of_decodeFrame hdecode).1

theorem headerOf_take {src : Bytes} {n : Nat} (hn : headerSize ≤ n) :
    headerOf (src.take n) = headerOf src := by
  obtain ⟨m, rfl⟩ := Nat.exists_eq_add_of_le' hn
  cases src with
  | nil => rfl
  | cons low rest => cases rest <;> rfl

/-- Bytes past the implied length have no influence on what is read. -/
theorem Canonical.frameOf_take (h : s.Canonical) (src : Bytes) :
    s.frameOf (src.take (s.impliedLen (headerOf src))) = s.frameOf src := by
  have hheader : headerOf (src.take (s.impliedLen (headerOf src))) = headerOf src :=
    headerOf_take (Nat.le_max_right _ _)
  have hsize : s.payloadSize (s.carried (headerOf src)) ≤
      s.impliedLen (headerOf src) - headerSize := by
    rw [h.impliedLen_eq]
    omega
  rw [frameOf, frameOf, hheader, List.drop_take, unpack_take (h.inRange_carried _) _ hsize]

/-- What a lenient reader accepts, a strict one reads from the implied length alone. -/
theorem Canonical.decodeFrame_take (h : s.Canonical) {maxFrameSize : Nat} {src : Bytes}
    (hmax : src.length ≤ maxFrameSize) (hlen : s.impliedLen (headerOf src) ≤ src.length) :
    s.decodeFrame ⟨maxFrameSize, true⟩ (src.take (s.impliedLen (headerOf src))) =
      .ok (s.frameOf src) := by
  have hheader : headerOf (src.take (s.impliedLen (headerOf src))) = headerOf src :=
    headerOf_take (Nat.le_max_right _ _)
  have hlength : (src.take (s.impliedLen (headerOf src))).length =
      s.impliedLen (headerOf src) := by
    rw [List.length_take, Nat.min_eq_left hlen]
  rw [← h.frameOf_take]
  apply decodeFrame_eq_ok
  · rw [hlength]
    exact Nat.le_trans hlen hmax
  · rw [hheader, hlength]
  · rw [hheader, hlength]
    exact fun hlt => absurd hlt (Nat.lt_irrefl _)

/-! ### The value of one field -/

/-- The value that a frame has for a field: that of the bytes behind those of the carried fields
before it. -/
def valueIn (s : Schema) (src : Bytes) (i : Nat) (f : Field) : Reading :=
  let before := (s.carried (headerOf src)).filter fun j => j < i
  Reading.decode f.kind ((src.drop (headerSize + s.payloadSize before)).take f.size)

/-- Of a payload that is read in ascending order, each field gets the bytes behind those of the
smaller indices. -/
theorem mem_unpack {l : List Nat} (hl : s.InRange l) (hsorted : l.Pairwise (· < ·)) {i : Nat}
    {f : Field} (hf : s.fields[i]? = some f) (hi : i ∈ l) (payload : Bytes) :
    (i, Reading.decode f.kind ((payload.drop (s.payloadSize (l.filter fun j => j < i))).take
      f.size)) ∈ s.unpack l payload := by
  induction l generalizing payload with
  | nil => exact absurd hi List.not_mem_nil
  | cons j rest ih =>
    obtain ⟨g, hg⟩ := hl j List.mem_cons_self
    obtain ⟨hhead, htail⟩ := List.pairwise_cons.mp hsorted
    rw [unpack_cons hg]
    rcases List.mem_cons.mp hi with rfl | hi
    · -- nothing is read before the first field
      obtain rfl : f = g := Option.some.inj (hf.symm.trans hg)
      have hnone : ((i :: rest).filter fun j => j < i) = [] := by
        rw [List.filter_eq_nil_iff]
        intro j hj
        rcases List.mem_cons.mp hj with rfl | hj
        · simp
        · simp [Nat.le_of_lt (hhead j hj)]
      rw [hnone]
      exact List.mem_cons_self
    · have hfirst : ((j :: rest).filter fun k => k < i) = j :: rest.filter fun k => k < i :=
        List.filter_cons_of_pos (decide_eq_true (hhead i hi))
      rw [hfirst, payloadSize_cons hg, ← List.drop_drop]
      exact List.mem_cons_of_mem _ (ih hl.tail htail hi (payload.drop g.size))

/-- A frame has an update for each field that its header selects, with its value. -/
theorem Canonical.mem_updates_frameOf (h : s.Canonical) {src : Bytes} {i : Nat} {f : Field}
    (hf : s.fields[i]? = some f) (hselects : (headerOf src).selects f = true) :
    (i, s.valueIn src i f) ∈ (s.frameOf src).updates := by
  have hi : i ∈ s.carried (headerOf src) := h.mem_carried.mpr ⟨f, hf, hselects⟩
  have hmem := mem_unpack (h.inRange_carried _) (h.pairwise_carried _) hf hi (src.drop headerSize)
  rw [List.drop_drop] at hmem
  exact hmem

/-! ### Acceptance -/

/-- **A byte string is a frame exactly if its length suits its header.** Too long a string
is refused before its header is read, one that is cut short before one with surplus bytes.
What is accepted is read slice by slice up to the implied length, and nothing after it
matters. -/
theorem decodeFrame_outcome {limits : SchemaLimits} {name : String} {declared : List Field}
    (hbuild : build limits name declared = .ok s) (config : FrameConfig) (src : Bytes) :
    (config.maxFrameSize < src.length →
      s.decodeFrame config src = .error (.frameTooLarge src.length config.maxFrameSize)) ∧
    (src.length ≤ config.maxFrameSize → src.length < 2 →
      s.decodeFrame config src = .error (.truncatedFrame 2 src.length)) ∧
    ∀ low high rest, src = low :: high :: rest → src.length ≤ config.maxFrameSize →
      ∃ code expected, code.toNat = low.toNat + 256 * high.toNat ∧
        expected = max 2 (s.frameLen code) ∧
        (src.length < expected →
          s.decodeFrame config src = .error (.truncatedFrame expected src.length)) ∧
        (expected < src.length → config.rejectTrailingBytes = true →
          s.decodeFrame config src = .error (.trailingBytes expected src.length)) ∧
        (expected = src.length ∨
            expected < src.length ∧ config.rejectTrailingBytes = false →
          ∃ frame, s.decodeFrame config src = .ok frame ∧ frame.code = code ∧
            s.Reads src expected frame ∧
            s.decodeFrame ⟨config.maxFrameSize, true⟩ (src.take expected) = .ok frame) := by
  have hcanonical := build_eq_ok hbuild
  refine ⟨fun hlong => ?_, fun hmax hshort => ?_, ?_⟩
  · rw [decodeFrame_eq, if_pos hlong]
  · rw [decodeFrame_eq, if_neg (Nat.not_lt.mpr hmax)]
    exact if_pos hshort
  · intro low high rest hsrc hmax
    have hheader : headerOf src = MessageCode.ofBytes low high := by rw [hsrc]; rfl
    have htwo : ¬ src.length < headerSize := by simp [hsrc, headerSize]
    refine ⟨headerOf src, s.impliedLen (headerOf src), ?_, Nat.max_comm _ _, ?_, ?_, ?_⟩
    · rw [hheader, MessageCode.toNat_ofBytes]
    · intro hshort
      rw [decodeFrame_eq, if_neg (Nat.not_lt.mpr hmax), if_neg htwo, if_pos hshort]
    · intro hlong hreject
      rw [decodeFrame_eq, if_neg (Nat.not_lt.mpr hmax), if_neg htwo,
        if_neg (Nat.lt_asymm hlong), if_pos ⟨hlong, hreject⟩]
    · intro haccept
      have hlen : s.impliedLen (headerOf src) ≤ src.length := by omega
      have hpass : s.impliedLen (headerOf src) < src.length →
          config.rejectTrailingBytes = false := by
        intro hlt
        rcases haccept with heq | ⟨-, hlenient⟩
        · omega
        · exact hlenient
      exact ⟨s.frameOf src, decodeFrame_eq_ok hmax hlen hpass, rfl,
        hcanonical.reads_frameOf hlen, hcanonical.decodeFrame_take hmax hlen⟩

/-- The fast tier and event 1 of the scenario layout, with a surplus byte that a lenient
reader lets pass. -/
theorem decodeFrame_outcome_scenario :
    let s : Schema := ⟨"scenario", scenarioFields⟩
    let src : Bytes := [17, 0, 100, 0, 200, 0, 7, 255]
    build {} "scenario" scenarioFields = .ok s ∧ src.length ≤ 251 ∧
      ∃ frame, s.decodeFrame ⟨251, false⟩ src = .ok frame ∧ frame.code.toNat = 17 ∧
        s.Reads src 7 frame ∧ s.decodeFrame ⟨251, true⟩ (src.take 7) = .ok frame := by
  intro s src
  have hbuild : build {} "scenario" scenarioFields = .ok s := build_scenario
  obtain ⟨-, -, hread⟩ := decodeFrame_outcome hbuild ⟨251, false⟩ src
  obtain ⟨code, expected, hcode, hexpected, -, -, haccept⟩ := hread 17 0 _ rfl (by decide)
  obtain rfl : code = MessageCode.ofNat 17 := by
    obtain ⟨bits⟩ := code
    exact congrArg MessageCode.mk (BitVec.eq_of_toNat_eq hcode)
  obtain rfl : expected = 7 := hexpected
  obtain ⟨frame, hframe, hsame, hreads, hstrict⟩ := haccept (Or.inr ⟨by decide, rfl⟩)
  exact ⟨hbuild, by decide, frame, hframe, congrArg MessageCode.toNat hsame, hreads, hstrict⟩

end Schema

end Telemetry
