import Swfpm.Max35103.Driver

/-!
# Decoding result banks

Embedding of the result-decode section of `max35103.c` and of the evaluation of
wave evidence.  A decoder returns the structure that the source fills; what the
source function returns is its `valid` field.
-/

namespace Swfpm.Max35103

open Swfpm.AutoCal (Max35103Status Max35103Profile configuredHitCount)

/-- The big-endian word at an offset of some received bytes. -/
def wordAt (bytes : List UInt8) (offset : ℕ) : UInt16 :=
  ((bytes.getD offset 0).toUInt16 <<< 8) ||| (bytes.getD (offset + 1) 0).toUInt16

/-! ## Time of flight -/

/-- `MAX35103_COHERENCE_TOLERANCE_Q16`. -/
def coherenceToleranceQ16 : Int64 := 64

def q16UnsignedToPs (value : UInt32) : Int64 :=
  Int64.ofNat value.toNat * 250000 / 65536

def q16SignedToPs (value : Int64) : Int64 :=
  if value ≥ 0 then value * 250000 / 65536 else -(-value * 250000 / 65536)

def tofBankWord (bank : List UInt8) (readOpcode : UInt8) : UInt16 :=
  wordAt bank ((readOpcode - regWvrup).toNat * 2)

def signedQ16 (integer fraction : UInt16) : Int32 :=
  (integer.toInt16.toInt64 * 65536 + Int64.ofNat fraction.toNat).toInt32

def joinQ16 (integer fraction : UInt16) : UInt32 :=
  (integer.toUInt32 <<< 16) ||| fraction.toUInt32

/-- The evidence of a bank, before it is judged. -/
def tofEvidence (bank : List UInt8) (status : UInt16) (timestampUs : UInt64)
    (useAverage : Bool) : RawResult :=
  let avgUpInt := tofBankWord bank regAvgupInt
  let avgUpFrac := tofBankWord bank regAvgupFrac
  let avgDownInt := tofBankWord bank regAvgdnInt
  let avgDownFrac := tofBankWord bank regAvgdnFrac
  let tofDiffInt := tofBankWord bank regTofDiffInt
  let tofDiffFrac := tofBankWord bank regTofDiffFrac
  let cycleRangeWord := tofBankWord bank regCycleCount
  let tofDiffAvgInt := tofBankWord bank regTofDiffAvgInt
  let tofDiffAvgFrac := tofBankWord bank regTofDiffAvgFrac
  let tofUpQ16 := joinQ16 avgUpInt avgUpFrac
  let tofDownQ16 := joinQ16 avgDownInt avgDownFrac
  let tofDiffQ16 := signedQ16 tofDiffInt tofDiffFrac
  let tofDiffAvgQ16 := signedQ16 tofDiffAvgInt tofDiffAvgFrac
  let tofDiffPs := q16SignedToPs tofDiffQ16.toInt64
  let tofDiffAvgPs := q16SignedToPs tofDiffAvgQ16.toInt64
  { avgUpInt, avgUpFrac, avgDownInt, avgDownFrac, tofDiffInt, tofDiffFrac
    cycleRangeWord, tofDiffAvgInt, tofDiffAvgFrac, tofUpQ16, tofDownQ16
    tofDiffQ16, tofDiffAvgQ16
    selectedTofDiffQ16 := if useAverage then tofDiffAvgQ16 else tofDiffQ16
    tofUpPs := q16UnsignedToPs tofUpQ16
    tofDownPs := q16UnsignedToPs tofDownQ16
    tofDiffPs, tofDiffAvgPs
    selectedTofDiffPs := if useAverage then tofDiffAvgPs else tofDiffPs
    validCycleCount := (cycleRangeWord &&& 0x00FF).toUInt8
    tofRange := (cycleRangeWord >>> 8).toUInt8
    statusFlags := status
    timestampUs
    sequenceNumber := 0
    selectedTofDiffIsAverage := useAverage
    valid := false }

/-- The gates of `max_decode_tof_bank`, in its order. -/
def tofGates (result : RawResult) (status : UInt16) (useAverage : Bool) : Bool :=
  if status &&& (intTimeout ||| intPor) ≠ 0 then false
  else if result.avgUpInt &&& 0x8000 ≠ 0 ∨ result.avgDownInt &&& 0x8000 ≠ 0 then
    false
  else if result.tofUpQ16 = 0xFFFFFFFF ∨ result.tofDownQ16 = 0xFFFFFFFF ∨
      (useAverage = false ∧ result.tofDiffInt = 0x7FFF ∧
        result.tofDiffFrac = 0xFFFF) ∨
      (useAverage = true ∧ result.tofDiffAvgInt = 0x7FFF ∧
        result.tofDiffAvgFrac = 0xFFFF) then false
  else if useAverage = true ∧ result.validCycleCount = 0 then false
  else
    let expected := Int64.ofNat result.tofUpQ16.toNat -
      Int64.ofNat result.tofDownQ16.toNat
    let coherenceError := result.selectedTofDiffQ16.toInt64 - expected
    let coherenceError :=
      if coherenceError < 0 then -coherenceError else coherenceError
    !(coherenceError > coherenceToleranceQ16)

def decodeTofBank (bank : List UInt8) (status : UInt16) (timestampUs : UInt64)
    (useAverage : Bool) : RawResult :=
  let result := tofEvidence bank status timestampUs useAverage
  { result with valid := tofGates result status useAverage }

/-! ## Temperature -/

def ratioToResistance (sensorQ16 referenceQ16 referenceMilliohm : UInt32) :
    UInt32 :=
  let numerator := sensorQ16.toUInt64 * referenceMilliohm.toUInt64
  let rounded := (numerator + referenceQ16.toUInt64 / 2) / referenceQ16.toUInt64
  if rounded > 0xFFFFFFFF then 0xFFFFFFFF else rounded.toUInt32

/-- What a timing value says of its port. -/
inductive PortEvidence where
  | usable
  | shortCircuit
  | openCircuit
  deriving DecidableEq, Repr

def portEvidence (integer : UInt16) (q16 : UInt32) : PortEvidence :=
  if q16 = 0 then .shortCircuit
  else if q16 = 0xFFFFFFFF ∨ integer &&& 0x8000 ≠ 0 then .openCircuit
  else .usable

/-- The selected ports with one kind of evidence, as a mask. -/
def portMask (selected : UInt8) (ports : List (UInt16 × UInt32))
    (kind : PortEvidence) : UInt8 :=
  (List.range tempPortCount).foldl (fun mask port ↦
    let value := ports.getD port (0, 0)
    let bit := (1 : UInt8) <<< UInt8.ofNat port
    if selected &&& bit ≠ 0 ∧ portEvidence value.1 value.2 = kind then
      mask ||| bit
    else mask) 0

/-- The resistance of a pair of ports, once both are selected and usable. -/
def pairResistance (profile : Option Max35103Profile)
    (selected usable pair : UInt8) (sensorQ16 referenceQ16 : UInt32) :
    Option UInt32 :=
  profile.bind fun profile ↦
    if profile.referenceResistanceMilliohm ≠ 0 ∧ selected &&& pair = pair ∧
        usable &&& pair = pair then
      some (ratioToResistance sensorQ16 referenceQ16
        profile.referenceResistanceMilliohm)
    else none

/-- The temperature of a resistance, where the profile names the element. -/
def rtdTemperature (convert : UInt32 → UInt32 → Option Int32)
    (profile : Option Max35103Profile) (resistance : Option UInt32) :
    Option Int32 :=
  profile.bind fun profile ↦
    if profile.rtdNominalResistanceMilliohm ≠ 0 then
      resistance.bind fun milliohm ↦
        convert milliohm profile.rtdNominalResistanceMilliohm
    else none

/-- `max_decode_temperature_frame`; the profile is the synchronized one, and the
selected ports are those that it selects. -/
def decodeTemperatureFrame (convert : UInt32 → UInt32 → Option Int32)
    (profile : Option Max35103Profile) (selected : UInt8) (frame : List UInt8)
    (status : UInt16) (timestampUs : UInt64) (averaged : Bool)
    (cycleWord : UInt16) : TemperatureResult :=
  let ports := (List.range tempPortCount).map fun port ↦
    let integer := wordAt frame (port * 4)
    let fraction := wordAt frame (port * 4 + 2)
    (integer, fraction, joinQ16 integer fraction)
  let timings := ports.map fun port ↦ (port.1, port.2.2)
  let q16 := ports.map fun port ↦ port.2.2
  let usable := portMask selected timings .usable
  let validCycleCount := (cycleWord &&& 0x00FF).toUInt8
  let rtd1 := pairResistance profile selected usable 0x05
    (q16.getD 0 0) (q16.getD 2 0)
  let rtd2 := pairResistance profile selected usable 0x0A
    (q16.getD 1 0) (q16.getD 3 0)
  let rtd1Temperature := rtdTemperature convert profile rtd1
  let rtd2Temperature := rtdTemperature convert profile rtd2
  { portInt := ports.map fun port ↦ port.1
    portFrac := ports.map fun port ↦ port.2.1
    portQ16 := q16
    rtd1ResistanceMilliohm := rtd1.getD 0
    rtd2ResistanceMilliohm := rtd2.getD 0
    rtd1TemperatureMillicelsius := rtd1Temperature.getD 0
    rtd2TemperatureMillicelsius := rtd2Temperature.getD 0
    statusFlags := status
    timestampUs
    sequenceNumber := 0
    selectedPortMask := selected
    validPortMask := usable
    shortCircuitMask := portMask selected timings .shortCircuit
    openCircuitMask := portMask selected timings .openCircuit
    validCycleCount
    averaged
    rtd1Valid := rtd1.isSome
    rtd2Valid := rtd2.isSome
    rtd1TemperatureValid := rtd1Temperature.isSome
    rtd2TemperatureValid := rtd2Temperature.isSome
    valid := selected ≠ 0 && usable &&& selected = selected &&
      status &&& (intTimeout ||| intPor) = 0 &&
      (!averaged || validCycleCount ≠ 0) }

/-! ## Wave evidence -/

/-- One HIT of both directions. -/
structure WaveHit where
  upInt : UInt16
  upFrac : UInt16
  downInt : UInt16
  downFrac : UInt16
  deriving DecidableEq, Repr

namespace WaveHit

variable (hit : WaveHit)

def upQ16 : UInt32 := joinQ16 hit.upInt hit.upFrac

def downQ16 : UInt32 := joinQ16 hit.downInt hit.downFrac

/-- A positive timing in both directions, and no sentinel. -/
def wellTimed : Bool :=
  hit.upInt &&& 0x8000 = 0 && hit.downInt &&& 0x8000 = 0 && hit.upQ16 ≠ 0 &&
    hit.downQ16 ≠ 0 && hit.upQ16 ≠ 0xFFFFFFFF && hit.downQ16 ≠ 0xFFFFFFFF

end WaveHit

/-- What `MAX35103_ReadWaveEvidence` fills; `hits` are the configured ones. -/
structure WaveEvidence where
  wvrUp : UInt16
  wvrDown : UInt16
  hits : List WaveHit
  avgUpQ16 : UInt32
  avgDownQ16 : UInt32
  configuredHitCount : UInt8
  avgUpConsistent : Bool
  avgDownConsistent : Bool
  valid : Bool
  deriving DecidableEq, Repr

namespace WaveEvidence

variable (evidence : WaveEvidence)

def wvrUpT1T2Q7 : UInt8 := (evidence.wvrUp >>> 8).toUInt8
def wvrUpT2IdealQ7 : UInt8 := evidence.wvrUp.toUInt8
def wvrDownT1T2Q7 : UInt8 := (evidence.wvrDown >>> 8).toUInt8
def wvrDownT2IdealQ7 : UInt8 := evidence.wvrDown.toUInt8
def hitUpPs : List Int64 := evidence.hits.map fun hit ↦ q16UnsignedToPs hit.upQ16
def hitDownPs : List Int64 :=
  evidence.hits.map fun hit ↦ q16UnsignedToPs hit.downQ16

/-- What `memset` leaves. -/
def zero : WaveEvidence :=
  { wvrUp := 0, wvrDown := 0, hits := [], avgUpQ16 := 0, avgDownQ16 := 0
    configuredHitCount := 0, avgUpConsistent := false
    avgDownConsistent := false, valid := false }

end WaveEvidence

/-- Whether every hit is well timed and later than the one before it. -/
def hitsAscend : Option WaveHit → List WaveHit → Bool
  | _, [] => true
  | previous, hit :: rest =>
      hit.wellTimed &&
        (previous.elim true fun earlier ↦
          hit.upQ16 > earlier.upQ16 && hit.downQ16 > earlier.downQ16) &&
        hitsAscend (some hit) rest

/-- The mean of some hit times, rounded to nearest. -/
def roundedHitAverage (times : List UInt32) (hitCount : UInt8) : UInt32 :=
  ((times.foldl (fun sum time ↦ sum + time.toUInt64) 0 +
    hitCount.toUInt64 / 2) / hitCount.toUInt64).toUInt32

/-- The evidence of a bank whose profile configures some hits. -/
def waveEvidence (bank : List UInt8) (hitCount : UInt8) : WaveEvidence :=
  let hits := (List.range hitCount.toNat).map fun hit ↦
    let up := regHit1UpInt + UInt8.ofNat (hit * 2)
    let down := regHit1DnInt + UInt8.ofNat (hit * 2)
    { upInt := tofBankWord bank up
      upFrac := tofBankWord bank (up + 1)
      downInt := tofBankWord bank down
      downFrac := tofBankWord bank (down + 1) : WaveHit }
  let wvrUp := tofBankWord bank regWvrup
  let wvrDown := tofBankWord bank regWvrdn
  let wvrValid := wvrUp ≠ 0xFFFF && wvrDown ≠ 0xFFFF &&
    (wvrUp >>> 8).toUInt8 ≠ 0 && wvrUp.toUInt8 ≠ 0 &&
    (wvrDown >>> 8).toUInt8 ≠ 0 && wvrDown.toUInt8 ≠ 0
  let avgUpQ16 := joinQ16 (tofBankWord bank regAvgupInt)
    (tofBankWord bank regAvgupFrac)
  let avgDownQ16 := joinQ16 (tofBankWord bank regAvgdnInt)
    (tofBankWord bank regAvgdnFrac)
  let avgUpConsistent :=
    avgUpQ16 = roundedHitAverage (hits.map WaveHit.upQ16) hitCount
  let avgDownConsistent :=
    avgDownQ16 = roundedHitAverage (hits.map WaveHit.downQ16) hitCount
  { wvrUp, wvrDown, hits, avgUpQ16, avgDownQ16
    configuredHitCount := hitCount
    avgUpConsistent, avgDownConsistent
    valid := wvrValid && hitsAscend none hits && avgUpConsistent &&
      avgDownConsistent }

end Swfpm.Max35103
