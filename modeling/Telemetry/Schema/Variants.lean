import Telemetry.Schema.Builder
import Telemetry.Decimal.Basic
/-!
# Telemetry.Schema.Variants

**Built-in schemas**, one for each board revision. Quantized fields have the resolution
of the bus signal they are read from; signed signals are shifted by half their range.
-/

namespace Telemetry.Schema

/-- The names that `variant` knows. -/
def variantNames : List String := ["vehicle", "wheels", "scenario"]

/-- A field of a periodic tier. -/
def periodicField (t : Tier) (name : String) (kind : FieldKind) : Field := ⟨name, t, kind, none⟩

/-- A field carried by an event. -/
def conditionalField (name : String) (event : Nat) (kind : FieldKind) : Field :=
  ⟨name, .conditional, kind, some event⟩

/-- A 16-bit quantized kind; the bias is `-(thousandths / 1000)`. -/
def quantized16 (scale negatedThousandths : Nat) : FieldKind :=
  .quantized .w16 (Binary64.ofNat scale)
    (Decimal.toBinary64 (negatedThousandths != 0) ⟨negatedThousandths, -3⟩)

def wheelSpeed : FieldKind := quantized16 10 0
def temperature : FieldKind := quantized16 10 40000
def currentLimit : FieldKind := quantized16 10 0
def batteryVoltage : FieldKind := quantized16 100 0
def batteryCurrent : FieldKind := quantized16 100 327680
def inertial : FieldKind := quantized16 2000 16384
def coolantFlow : FieldKind := quantized16 100 0

/-- The wheels, front to back and left to right. -/
def corners : List String := ["fl", "fr", "bl", "br"]

def axes : List String := ["x", "y", "z"]

/-- The whole car: wheel speeds, battery, inertial unit, position, inverter and pedals in
the fast tier; temperatures, coolant flow and charge in the slow one. -/
def vehicleFields : List Field :=
  let fast := periodicField .fast
  let slow := periodicField .slow
  (corners.map fun c => fast s!"{c}_wheel_speed" wheelSpeed)
  ++ [fast "hv_battery_voltage" batteryVoltage, fast "motor_temperature" .single]
  ++ (["accel", "gyro"].flatMap fun sensor => axes.map fun axis =>
      fast s!"{sensor}_{axis}" inertial)
  ++ [fast "latitude" (.signed .w32), fast "longitude" (.signed .w32), fast "rpm" .single,
    fast "hv_battery_current" batteryCurrent, fast "hv_max_discharge_current" currentLimit,
    fast "hv_max_regen_current" currentLimit, fast "rtc" (.unsigned .w32),
    fast "front_brake_pressure" (.unsigned .w16), fast "rear_brake_pressure" (.unsigned .w16),
    fast "hv_battery_temperature" (.signed .w8), fast "tractile_system_status" (.unsigned .w8),
    fast "accel_percentage" (.signed .w8), fast "brake_percentage" (.unsigned .w8),
    slow "coolant_temperature" temperature]
  ++ (corners.map fun c => slow s!"{c}_brake_temperature" temperature)
  ++ [slow "ambient_temperature" temperature, slow "inverter_temperature" .single,
    slow "coolant_flow" coolantFlow, slow "hv_state_of_charge" (.unsigned .w8)]

/-- The wheel and brake board: speed and brake temperature of each corner, brake pressures
and a packet counter in the fast tier, and a control byte on event 1. -/
def wheelsFields : List Field :=
  let fast := periodicField .fast
  (corners.flatMap fun c =>
    [fast s!"{c}_wheel_speed" wheelSpeed, fast s!"{c}_brake_temperature" temperature])
  ++ [fast "front_brake_pressure" (.unsigned .w16), fast "rear_brake_pressure" (.unsigned .w16),
    fast "packetnum" (.unsigned .w16), periodicField .slow "fake_value" (.unsigned .w16),
    conditionalField "control" 1 (.unsigned .w8)]

/-- The smallest layout with a fast, a slow and a conditional field. -/
def scenarioFields : List Field :=
  [periodicField .fast "a" (.unsigned .w16), periodicField .fast "b" (.unsigned .w16),
    periodicField .slow "s" (.unsigned .w16), conditionalField "c" 1 (.unsigned .w8)]

theorem build_scenario :
    build {} "scenario" scenarioFields = .ok ⟨"scenario", scenarioFields⟩ :=
  build_of_pairwise (by decide) (by decide) rfl (by decide) (by decide)

def variantFields? : String → Option (List Field)
  | "vehicle" => some vehicleFields
  | "wheels" => some wheelsFields
  | "scenario" => some scenarioFields
  | _ => none

/-- The built-in schema of this name, under the default limits. -/
def variant (name : String) : Except SchemaError Schema :=
  match variantFields? name with
  | some fields => build {} name fields
  | none => .error (.unknownVariant name)

end Telemetry.Schema
