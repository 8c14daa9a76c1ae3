import Telemetry.Store
import Telemetry.Json.Writer
/-!
# Telemetry.Node.Snapshot

**A store as JSON**: one object for each tier, with the values of its fields by name.
Quantized fields appear as their decoded floats. Keys are sorted at both levels.
-/

namespace Telemetry.Store

variable {schema : Schema}

/-- The values of some fields by name. -/
def members (s : Store schema) (sources : Sources) :
    List Nat → Except FrameError (List (String × Json))
  | [] => .ok []
  | index :: rest =>
    match schema.fields[index]?, s.get sources index, s.members sources rest with
    | none, _, r => r
    | some _, .error e, _ => .error e
    | some _, .ok _, .error e => .error e
    | some f, .ok r, .ok more => .ok ((f.name, r.toJson) :: more)

/-- Members sorted by key; the last of equal keys stands. -/
def sortMembers (members : List (String × Json)) : List (String × Json) :=
  members.foldl (fun sorted (key, value) => Json.insertMember key value sorted) []

/-- The object of each tier, by the name of the tier. -/
def tierObjects (s : Store schema) (sources : Sources) :
    List Tier → Except FrameError (List (String × Json))
  | [] => .ok []
  | t :: rest =>
    match s.members sources (schema.span t).indices with
    | .error e => .error e
    | .ok members =>
      (s.tierObjects sources rest).map fun more =>
        (t.name, Json.object (sortMembers members)) :: more

/-- The values of the store, by tier and name. -/
def snapshot (s : Store schema) (sources : Sources) : Except FrameError Json :=
  (s.tierObjects sources Tier.all).map fun objects => Json.object (sortMembers objects)

end Telemetry.Store
