import Telemetry.Float.Binary64
/-!
# Telemetry.Json.Basic

**JSON values.** A number keeps the way it was written apart: a whole number that
fits 64 bits is `unsigned`, a negative one that fits is `signed`, and everything else
is `real`. Objects are lists of members in written order; `insertMember` is how a
reader keeps them sorted by key and lets the last of two equal keys win.
-/

namespace Telemetry

/-- A JSON number, by how it was written. -/
inductive JsonNumber
  | unsigned (n : UInt64)
  | signed (n : Int64)
  | real (x : Binary64)
  deriving DecidableEq

/-- A JSON value. -/
inductive Json
  | null
  | bool (b : Bool)
  | number (n : JsonNumber)
  | string (s : String)
  | array (items : List Json)
  | object (members : List (String × Json))

namespace Json

/-- Puts a member into a list sorted by key, in the place of a member of that key if
there is one. Keys are ordered by code point, which is also the order of their
encoded bytes. -/
def insertMember {α : Type} (key : String) (value : α) : List (String × α) → List (String × α)
  | [] => [(key, value)]
  | (k, v) :: rest =>
    if key < k then (key, value) :: (k, v) :: rest
    else if key = k then (key, value) :: rest
    else (k, v) :: insertMember key value rest

theorem insertMember_nil {α : Type} (key : String) (value : α) :
    insertMember key value [] = [(key, value)] := rfl

theorem insertMember_of_lt {α : Type} {key k : String} (h : key < k) (value v : α)
    (rest : List (String × α)) :
    insertMember key value ((k, v) :: rest) = (key, value) :: (k, v) :: rest := if_pos h

theorem insertMember_of_not_lt {α : Type} {key k : String} (h : ¬ key < k) (hne : key ≠ k)
    (value v : α) (rest : List (String × α)) :
    insertMember key value ((k, v) :: rest) = (k, v) :: insertMember key value rest := by
  rw [insertMember, if_neg h, if_neg hne]

/-- The member of this key, if the value is an object that has one. -/
def member? (key : String) : Json → Option Json
  | object members => members.lookup key
  | _ => none

/-- A finite number, and `null` for the numbers that JSON cannot write. -/
def ofBinary64 (x : Binary64) : Json := if x.isFinite then number (.real x) else null

def ofUInt64 (n : UInt64) : Json := number (.unsigned n)

/-- A whole number, written as `signed` only when it is below zero. -/
def ofInt64 (n : Int64) : Json :=
  if n < 0 then number (.signed n) else number (.unsigned n.toUInt64)

def ofNat (n : Nat) : Json := ofUInt64 (UInt64.ofNat n)

end Json

end Telemetry
