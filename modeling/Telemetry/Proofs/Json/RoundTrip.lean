import Telemetry.Proofs.Json.Number
/-!
# Telemetry.Proofs.Json.RoundTrip

**What is written reads back.** The reader finds every value of a compact text again, up to the
order of members: it keeps the members of an object sorted by key, and of two with the same key
the later one (`sorted`).

A value is read off the front of a text that goes on with a comma, a closing bracket or nothing,
which is all that compact text has behind a value. The fuel counts calls; a text of `n`
characters needs at most `2 * n` of them.

The main statement is `parse_text`.
-/

namespace Telemetry.Json

/-! ### Strings -/

/-- The code of a control character is four hexadecimal digits. -/
theorem hexUnit?_hexDigit (n : Nat) (hn : n < 0x20) :
    hexUnit? '0' '0' (hexDigit (n / 16)) (hexDigit n) = some n ∧ isHighSurrogate n = false ∧
      isLowSurrogate n = false := by
  have hall : ∀ m < 0x20, hexUnit? '0' '0' (hexDigit (m / 16)) (hexDigit m) = some m ∧
      isHighSurrogate m = false ∧ isLowSurrogate m = false := by decide +kernel
  exact hall n hn

theorem stringBody_unicode {a b c d : Char} {n : Nat} (cs : List Char)
    (hunit : hexUnit? a b c d = some n) (hhigh : isHighSurrogate n = false)
    (hlow : isLowSurrogate n = false) : stringBody ('\\' :: 'u' :: a :: b :: c :: d :: cs) =
      (stringBody cs).map fun (s, rest) => (Char.ofNat n :: s, rest) := by
  rw [stringBody, hunit]
  simp only [hhigh, hlow, if_neg Bool.false_ne_true]

theorem stringBody_plain {c : Char} (cs : List Char) (hquote : c ≠ '"') (hbackslash : c ≠ '\\')
    (hprinted : ¬ c.toNat < 0x20) :
    stringBody (c :: cs) = (stringBody cs).map fun (s, rest) => (c :: s, rest) := by
  rw [stringBody]
  · exact if_neg (by simp [hbackslash, hprinted])
  · simpa using hquote
  · simp [hbackslash]
  · simp [hbackslash]

/-- One escaped character is read back. -/
theorem stringBody_escape (c : Char) (cs : List Char) :
    stringBody (escape c ++ cs) = (stringBody cs).map fun (s, rest) => (c :: s, rest) := by
  unfold escape
  split
  -- the escapes of one letter are read by computation
  any_goals rfl
  rename_i hquote hbackslash _ _ _ _ _
  split
  · rename_i hcontrol
    obtain ⟨hunit, hhigh, hlow⟩ := hexUnit?_hexDigit c.toNat hcontrol
    have hread := stringBody_unicode cs hunit hhigh hlow
    rw [Char.ofNat_toNat] at hread
    exact hread
  · rename_i hprinted
    exact stringBody_plain cs hquote hbackslash hprinted

theorem stringBody_escaped (s rest : List Char) :
    stringBody (s.flatMap escape ++ '"' :: rest) = some (s, rest) := by
  induction s with
  | nil => rfl
  | cons c s ih =>
    rw [List.flatMap_cons, List.append_assoc, stringBody_escape, ih]
    rfl

/-! ### The value that is read back -/

mutual

/-- The value with the members of each object put in one after the other. -/
def sorted : Json → Json
  | null => null
  | bool b => bool b
  | number n => number n
  | string s => string s
  | array items => array (sortedItems items)
  | object members => object (sortedMembers [] members)

def sortedItems : List Json → List Json
  | [] => []
  | item :: rest => sorted item :: sortedItems rest

/-- The members behind those of `done`. -/
def sortedMembers (done : List (String × Json)) : List (String × Json) → List (String × Json)
  | [] => done
  | (key, value) :: rest => sortedMembers (insertMember key (sorted value) done) rest

end

theorem sortedItems_eq_map (items : List Json) : sortedItems items = items.map sorted := by
  induction items with
  | nil => rfl
  | cons item rest ih => rw [sortedItems, ih, List.map_cons]

/-- The values that have a text of their own, with at most `depth` arrays and objects inside one
another. -/
inductive Writable : Nat → Json → Prop
  | null {depth : Nat} : Writable depth .null
  | bool {depth : Nat} (b : Bool) : Writable depth (.bool b)
  | number {depth : Nat} {n : JsonNumber} (h : WritableNumber n) : Writable depth (.number n)
  | string {depth : Nat} (s : String) : Writable depth (.string s)
  | array {depth : Nat} {items : List Json} (h : ∀ item ∈ items, Writable depth item) :
      Writable (depth + 1) (.array items)
  | object {depth : Nat} {members : List (String × Json)}
      (h : ∀ member ∈ members, Writable depth member.2) : Writable (depth + 1) (.object members)

/-! ### Values -/

/-- The value is read off the front of a text, with two calls for each of its characters. -/
def ReadsBack (depth : Nat) (j : Json) : Prop :=
  ∀ fuel rest, 2 * (render j).length ≤ fuel → Delimited rest →
    scanValue fuel depth (render j ++ rest) = some (sorted j, rest)

theorem delimited_nil : Delimited [] := by
  intro c hc
  cases hc

theorem delimited_cons {c : Char} (h : c = ',' ∨ c = ']' ∨ c = '\x7d') (cs : List Char) :
    Delimited (c :: cs) := by
  intro d hd
  cases hd
  exact h

theorem skipBlanks_cons {c : Char} (h : isBlank c = false) (cs : List Char) :
    skipBlanks (c :: cs) = c :: cs := by
  simp [skipBlanks, h]

theorem isBlank_eq_false {c : Char} (h : c.isDigit = true ∨ c = '-') : isBlank c = false := by
  by_contra hblank
  simp only [isBlank, Bool.not_eq_false, Bool.or_eq_true, beq_iff_eq] at hblank
  rcases hblank with ((rfl | rfl) | rfl) | rfl <;> exact absurd h (by decide)

/-- No other value begins as a number does. -/
theorem scanValue_of_scanNumber {fuel depth : Nat} {cs rest : List Char} {n : JsonNumber}
    (h : scanNumber cs = some (n, rest)) :
    scanValue (fuel + 1) depth cs = some (number n, rest) := by
  obtain ⟨c, tail, rfl, hc⟩ := exists_of_scanNumber h
  unfold scanValue
  rw [skipBlanks_cons (isBlank_eq_false hc)]
  split
  -- what begins another value is neither a digit nor a sign
  all_goals try
    rename_i heq
    obtain ⟨rfl, -⟩ := List.cons.inj heq
    exact absurd hc (by decide)
  rw [h]
  rfl

theorem exists_head_renderNumber {n : JsonNumber} (h : WritableNumber n) :
    ∃ c tail, renderNumber n = c :: tail ∧ (c.isDigit = true ∨ c = '-') := by
  have hscan := scanNumber_renderNumber h delimited_nil
  rw [List.append_nil] at hscan
  exact exists_of_scanNumber hscan

/-- A text has fuel for the call that reads it. -/
theorem exists_fuel {fuel : Nat} {text : List Char} (hne : text ≠ [])
    (hfuel : 2 * text.length ≤ fuel) : ∃ f, fuel = f + 1 := by
  have hpos := List.length_pos_iff.mpr hne
  exact ⟨fuel - 1, by omega⟩

theorem readsBack_null {depth : Nat} : ReadsBack depth null := by
  intro fuel rest hfuel hrest
  obtain ⟨f, rfl⟩ := exists_fuel (by decide) hfuel
  rfl

theorem readsBack_bool {depth : Nat} (b : Bool) : ReadsBack depth (bool b) := by
  intro fuel rest hfuel hrest
  cases b with
  | true =>
    obtain ⟨f, rfl⟩ := exists_fuel (by decide) hfuel
    rfl
  | false =>
    obtain ⟨f, rfl⟩ := exists_fuel (by decide) hfuel
    rfl

theorem readsBack_number {depth : Nat} {n : JsonNumber} (h : WritableNumber n) :
    ReadsBack depth (number n) := by
  intro fuel rest hfuel hrest
  obtain ⟨c, tail, htext, -⟩ := exists_head_renderNumber h
  have hne : renderNumber n ≠ [] := by simp [htext]
  obtain ⟨f, rfl⟩ := exists_fuel hne hfuel
  exact scanValue_of_scanNumber (scanNumber_renderNumber h hrest)

theorem quote_append (s : String) (rest : List Char) :
    quote s ++ rest = '"' :: (s.toList.flatMap escape ++ '"' :: rest) := by
  simp [quote]

theorem readsBack_string {depth : Nat} (s : String) : ReadsBack depth (string s) := by
  intro fuel rest hfuel hrest
  obtain ⟨f, rfl⟩ := exists_fuel (by simp [render, quote]) hfuel
  show scanValue (f + 1) depth (quote s ++ rest) = some (string s, rest)
  unfold scanValue
  rw [quote_append, skipBlanks_cons (by decide)]
  simp only [stringBody_escaped, Option.map_some, String.ofList_toList]

/-! ### Arrays and objects -/

/-- No text of a value begins with a blank or a closing bracket. -/
theorem Writable.exists_head {depth : Nat} {j : Json} (h : Writable depth j) :
    ∃ c tail, render j = c :: tail ∧ isBlank c = false ∧ c ≠ ']' := by
  cases h with
  | null => exact ⟨_, _, rfl, by decide, by decide⟩
  | bool b => cases b <;> exact ⟨_, _, rfl, by decide, by decide⟩
  | number h =>
    obtain ⟨c, tail, htext, hc⟩ := exists_head_renderNumber h
    refine ⟨c, tail, htext, isBlank_eq_false hc, ?_⟩
    intro hclose
    subst hclose
    exact absurd hc (by decide)
  | string s => exact ⟨_, _, rfl, by decide, by decide⟩
  | array h => exact ⟨_, _, rfl, by decide, by decide⟩
  | object h => exact ⟨_, _, rfl, by decide, by decide⟩

section Lists

variable {fuel depth : Nat} {cs rest : List Char}

theorem scanItems_of_last {item : Json}
    (h : scanValue fuel depth cs = some (item, ']' :: rest)) :
    scanItems (fuel + 1) depth cs = some ([item], rest) := by
  unfold scanItems
  rw [h]
  rfl

theorem scanItems_of_comma {item : Json}
    (h : scanValue fuel depth cs = some (item, ',' :: rest)) :
    scanItems (fuel + 1) depth cs =
      (scanItems fuel depth rest).map fun (items, cs) => (item :: items, cs) := by
  conv => lhs; unfold scanItems
  rw [h]
  rfl

theorem scanMembers_of_last {key : String} {value : Json} {done : List (String × Json)}
    (h : scanValue fuel depth cs = some (value, '\x7d' :: rest)) :
    scanMembers (fuel + 1) depth done (quote key ++ ':' :: cs) =
      some (insertMember key value done, rest) := by
  unfold scanMembers
  rw [quote_append, skipBlanks_cons (by decide)]
  simp only [stringBody_escaped]
  rw [skipBlanks_cons (by decide)]
  simp only [h, String.ofList_toList]
  rfl

theorem scanMembers_of_comma {key : String} {value : Json} {done : List (String × Json)}
    (h : scanValue fuel depth cs = some (value, ',' :: rest)) :
    scanMembers (fuel + 1) depth done (quote key ++ ':' :: cs) =
      scanMembers fuel depth (insertMember key value done) rest := by
  conv => lhs; unfold scanMembers
  rw [quote_append, skipBlanks_cons (by decide)]
  simp only [stringBody_escaped]
  rw [skipBlanks_cons (by decide)]
  simp only [h, String.ofList_toList]
  rfl

theorem scanItems_render {items : List Json} (hne : items ≠ [])
    (h : ∀ item ∈ items, ReadsBack depth item)
    (hfuel : 2 * (commaSeparated (renderItems items)).length + 1 ≤ fuel) :
    scanItems fuel depth (commaSeparated (renderItems items) ++ ']' :: rest) =
      some (sortedItems items, rest) := by
  induction items generalizing fuel with
  | nil => exact absurd rfl hne
  | cons item tail ih =>
    obtain ⟨f, rfl⟩ : ∃ f, fuel = f + 1 := ⟨fuel - 1, by omega⟩
    have hitem := h item List.mem_cons_self
    cases tail with
    | nil =>
      have hlen : 2 * (render item).length + 1 ≤ f + 1 := hfuel
      exact scanItems_of_last (hitem f (']' :: rest) (by omega) (delimited_cons (by decide) rest))
    | cons next tail =>
      -- the comma pays for the call that goes on behind it
      have hsplit : commaSeparated (renderItems (item :: next :: tail)) =
          render item ++ ',' :: commaSeparated (renderItems (next :: tail)) := rfl
      rw [hsplit, List.length_append, List.length_cons] at hfuel
      have hmore : scanItems f depth (commaSeparated (renderItems (next :: tail)) ++ ']' :: rest) =
          some (sortedItems (next :: tail), rest) :=
        ih (by simp) (fun j hj => h j (List.mem_cons_of_mem _ hj)) (by omega)
      rw [hsplit, List.append_assoc, List.cons_append,
        scanItems_of_comma (hitem f _ (by omega) (delimited_cons (by decide) _)), hmore]
      rfl

theorem scanMembers_render {members done : List (String × Json)} (hne : members ≠ [])
    (h : ∀ member ∈ members, ReadsBack depth member.2)
    (hfuel : 2 * (commaSeparated (renderMembers members)).length + 1 ≤ fuel) :
    scanMembers fuel depth done (commaSeparated (renderMembers members) ++ '\x7d' :: rest) =
      some (sortedMembers done members, rest) := by
  induction members generalizing fuel done with
  | nil => exact absurd rfl hne
  | cons member tail ih =>
    obtain ⟨key, value⟩ := member
    obtain ⟨f, rfl⟩ : ∃ f, fuel = f + 1 := ⟨fuel - 1, by omega⟩
    have hvalue : ReadsBack depth value := h (key, value) List.mem_cons_self
    cases tail with
    | nil =>
      have hsplit : commaSeparated (renderMembers [(key, value)]) =
          quote key ++ ':' :: render value := rfl
      rw [hsplit, List.length_append, List.length_cons] at hfuel
      rw [hsplit, List.append_assoc, List.cons_append]
      exact scanMembers_of_last
        (hvalue f ('\x7d' :: rest) (by omega) (delimited_cons (by decide) rest))
    | cons next tail =>
      have hsplit : commaSeparated (renderMembers ((key, value) :: next :: tail)) =
          (quote key ++ ':' :: render value) ++
            ',' :: commaSeparated (renderMembers (next :: tail)) := rfl
      rw [hsplit, List.length_append, List.length_cons, List.length_append,
        List.length_cons] at hfuel
      have hmore : scanMembers f depth (insertMember key (sorted value) done)
          (commaSeparated (renderMembers (next :: tail)) ++ '\x7d' :: rest) =
          some (sortedMembers (insertMember key (sorted value) done) (next :: tail), rest) :=
        ih (by simp) (fun m hm => h m (List.mem_cons_of_mem _ hm)) (by omega)
      rw [hsplit, List.append_assoc, List.append_assoc, List.cons_append, List.cons_append,
        scanMembers_of_comma (hvalue f _ (by omega) (delimited_cons (by decide) _)), hmore]
      rfl

end Lists

theorem scanValue_array {fuel depth : Nat} {c : Char} {cs rest : List Char} {items : List Json}
    (hblank : isBlank c = false) (hclose : c ≠ ']')
    (h : scanItems fuel depth (c :: cs) = some (items, rest)) :
    scanValue (fuel + 1) (depth + 1) ('[' :: c :: cs) = some (array items, rest) := by
  unfold scanValue
  simp only [skipBlanks_cons (c := '[') (by decide), skipBlanks_cons hblank]
  split
  · rename_i heq
    exact absurd (List.cons.inj heq).1 hclose
  · rw [h]
    rfl

theorem render_array (items : List Json) :
    render (array items) = '[' :: (commaSeparated (renderItems items) ++ [']']) := rfl

theorem render_object (members : List (String × Json)) :
    render (object members) = '\x7b' :: (commaSeparated (renderMembers members) ++ ['\x7d']) := rfl

/-- The first item begins the list. -/
theorem exists_head_items {c : Char} {text : List Char} {item : Json} (tail : List Json)
    (h : render item = c :: text) :
    ∃ text', commaSeparated (renderItems (item :: tail)) = c :: text' := by
  cases tail with
  | nil => exact ⟨text, h⟩
  | cons next tail =>
    refine ⟨text ++ ',' :: commaSeparated (renderItems (next :: tail)), ?_⟩
    show render item ++ ',' :: commaSeparated (renderItems (next :: tail)) = _
    rw [h, List.cons_append]

theorem readsBack_array {depth : Nat} {items : List Json}
    (hwritable : ∀ item ∈ items, Writable depth item)
    (h : ∀ item ∈ items, ReadsBack depth item) : ReadsBack (depth + 1) (array items) := by
  intro fuel rest hfuel hrest
  obtain ⟨f, rfl⟩ := exists_fuel (by simp [render_array]) hfuel
  rw [render_array, List.length_cons, List.length_append, List.length_singleton] at hfuel
  rw [render_array, List.cons_append, List.append_assoc, List.singleton_append]
  cases items with
  | nil => rfl
  | cons item tail =>
    obtain ⟨c, text, hhead, hblank, hclose⟩ := (hwritable item List.mem_cons_self).exists_head
    obtain ⟨text', htext⟩ := exists_head_items tail hhead
    have hscan : scanItems f depth (commaSeparated (renderItems (item :: tail)) ++ ']' :: rest) =
        some (sortedItems (item :: tail), rest) := scanItems_render (by simp) h (by omega)
    rw [htext, List.cons_append] at hscan ⊢
    exact scanValue_array hblank hclose hscan

theorem readsBack_object {depth : Nat} {members : List (String × Json)}
    (h : ∀ member ∈ members, ReadsBack depth member.2) :
    ReadsBack (depth + 1) (object members) := by
  intro fuel rest hfuel hrest
  obtain ⟨f, rfl⟩ := exists_fuel (by simp [render_object]) hfuel
  rw [render_object, List.length_cons, List.length_append, List.length_singleton] at hfuel
  rw [render_object, List.cons_append, List.append_assoc, List.singleton_append]
  cases members with
  | nil => rfl
  | cons member tail =>
    obtain ⟨text, htext⟩ :
        ∃ text, commaSeparated (renderMembers (member :: tail)) = '"' :: text := by
      cases tail <;> exact ⟨_, rfl⟩
    have hscan : scanMembers f depth []
        (commaSeparated (renderMembers (member :: tail)) ++ '\x7d' :: rest) =
        some (sortedMembers [] (member :: tail), rest) := scanMembers_render (by simp) h (by omega)
    rw [htext, List.cons_append] at hscan ⊢
    show (scanMembers f depth [] ('"' :: (text ++ '\x7d' :: rest))).map _ = _
    rw [hscan]
    rfl

/-- **Every value reads back.** -/
theorem Writable.readsBack {depth : Nat} {j : Json} (h : Writable depth j) : ReadsBack depth j := by
  -- the depth that is left goes down with the constructors, so the induction is on `Writable`
  induction h with
  | null => exact readsBack_null
  | bool b => exact readsBack_bool b
  | number h => exact readsBack_number h
  | string s => exact readsBack_string s
  | array h ih => exact readsBack_array h ih
  | object h ih => exact readsBack_object ih

/-- **A text that was written is parsed to the value it was written from**, the members of its
objects sorted. -/
theorem parse_text {j : Json} (h : Writable maxDepth j) : parse j.text = some (sorted j) := by
  have hscan := h.readsBack (2 * (render j).length + 2) [] (by omega) delimited_nil
  rw [List.append_nil] at hscan
  unfold parse text
  dsimp only
  rw [String.toList_ofList, hscan]
  rfl

end Telemetry.Json
