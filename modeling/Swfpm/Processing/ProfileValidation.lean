import Swfpm.Numeric.Interpolation
import Swfpm.Processing.PressureService

/-!
# Profile validation

Embedding of `services/configuration/profile_validation.c`.  A rejection carries
the text that the source writes to its error buffer; a null profile is not
modelled.
-/

namespace Swfpm

structure TemperatureProfile where
  id : ProfileIdentity
  rtdR0 : Int64
  rtdTableSize : UInt16
  rtdTempTable : ℕ → Int64
  rtdResTable : ℕ → Int64

def profileValidateTemperature (p : TemperatureProfile) : Except String Unit :=
  if p.rtdTableSize < 2 then .error "RTD table too small"
  else if !tableIsMonotonic p.rtdTempTable p.rtdResTable p.rtdTableSize then
    .error "RTD table not monotonic"
  else .ok ()

def profileValidateFlow (p : FlowProfile) : Except String Unit :=
  if p.pipeArea ≤ 0 then .error "Invalid pipe area"
  else if p.pathLength ≤ 0 then .error "Invalid path length"
  else .ok ()

def profileValidatePressure (p : PressureProfile) : Except String Unit :=
  if p.paMax ≤ p.paMin then .error "Invalid range"
  else if p.endpointHiRaw ≤ p.endpointLoRaw then .error "Invalid endpoint raw"
  else .ok ()

theorem profileValidateFlow_ok {p : FlowProfile}
    (haccepted : profileValidateFlow p = .ok ()) :
    0 < p.pipeArea.toInt ∧ 0 < p.pathLength.toInt := by
  unfold profileValidateFlow at haccepted
  split_ifs at haccepted with harea hlength
  rw [Int64.le_iff_toInt_le, Int64.toInt_zero, not_le] at harea hlength
  exact ⟨harea, hlength⟩

theorem profileValidatePressure_ok {p : PressureProfile}
    (haccepted : profileValidatePressure p = .ok ()) :
    p.endpointLoRaw.toInt < p.endpointHiRaw.toInt := by
  unfold profileValidatePressure at haccepted
  split_ifs at haccepted with hrange hraw
  rwa [Int64.le_iff_toInt_le, not_le] at hraw

theorem tableIsMonotonic_comm (xTable yTable : ℕ → Int64) (size : UInt16) :
    tableIsMonotonic xTable yTable size = tableIsMonotonic yTable xTable size := by
  unfold tableIsMonotonic
  simp only [Bool.and_comm]

/-- A temperature profile that is accepted is read faithfully, from resistance
to temperature. -/
theorem profileValidateTemperature_faithful {p : TemperatureProfile}
    (haccepted : profileValidateTemperature p = .ok ()) :
    FaithfulTable p.rtdResTable p.rtdTempTable p.rtdTableSize := by
  unfold profileValidateTemperature at haccepted
  split_ifs at haccepted with hsize htable
  rw [Bool.not_eq_true, Bool.not_eq_false', tableIsMonotonic_comm] at htable
  exact .of_monotonic htable

end Swfpm
