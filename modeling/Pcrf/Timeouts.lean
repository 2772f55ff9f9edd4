import Pcrf.Lib.Carry
import Pcrf.Types

/-!
`pcrf_make_timespec_timeout`: the time until which a thread waits. The microseconds that are
added to the clock may carry over into more than one second.
-/

namespace Pcrf

open Lib

/-! ### The function -/

def NSEC_PER_USEC : Int64 := 1000

def USEC_PER_SEC : Int64 := 1000000

def NSEC_PER_SEC : Int64 := 1000000000

/-- `timespec`. -/
structure Timespec where
  tvSec : Int64
  tvNsec : Int64
  deriving Repr, DecidableEq, Inhabited

/-- `soTimeVal` is what `gettimeofday` stores, `none` when it fails. The seconds and microseconds
are of type `long`, in which an unsigned number of 32 bits keeps its value. -/
def pcrfMakeTimespecTimeout (soTimeVal : Option Timeval) (uiSec uiAddUSec : UInt32) :
    Option Timespec := do
  let soTimeVal ← soTimeVal
  let tvSec : Int64 := .ofInt soTimeVal.tvSec + .ofNat uiSec.toNat
  let tvUsec : Int64 := .ofInt soTimeVal.tvUsec
  let addUSec : Int64 := .ofNat uiAddUSec.toNat
  return if tvUsec + addUSec < USEC_PER_SEC then
    { tvSec := tvSec, tvNsec := (tvUsec + addUSec) * NSEC_PER_USEC }
  else { tvSec := tvSec + 1, tvNsec := (tvUsec - USEC_PER_SEC + addUSec) * NSEC_PER_USEC }

/-! ### What it is to give -/

/-- The time of the clock: a `time_t`, and less than a second in microseconds. -/
structure TimeOfDay extends Timeval where
  sec_ge : Int64.minValue.toInt ≤ tvSec
  sec_le : tvSec ≤ Int64.maxValue.toInt
  usec_nonneg : 0 ≤ tvUsec
  usec_lt : tvUsec < 1000000

/-- Since the epoch. -/
def Timeval.nanoseconds (soTimeVal : Timeval) : Int :=
  soTimeVal.tvSec * 1000000000 + soTimeVal.tvUsec * 1000

namespace Timespec

/-- Since the epoch. -/
def nanoseconds (soTimeSpec : Timespec) : Int :=
  soTimeSpec.tvSec.toInt * 1000000000 + soTimeSpec.tvNsec.toInt

/-- The waiting functions take no other. -/
def Normalised (soTimeSpec : Timespec) : Prop :=
  0 ≤ soTimeSpec.tvNsec ∧ soTimeSpec.tvNsec < NSEC_PER_SEC

end Timespec

namespace TimeOfDay

/-- So long after the time `now`, in nanoseconds since the epoch. -/
def deadline (now : TimeOfDay) (uiSec uiAddUSec : UInt32) : Int :=
  now.nanoseconds + uiSec.toNat * 1000000000 + uiAddUSec.toNat * 1000

/-- What is made is normalised and denotes the time that is asked for. -/
def MakesTimeout (now : TimeOfDay) (uiSec uiAddUSec : UInt32) : Prop :=
  ∃ soTimeSpec, pcrfMakeTimespecTimeout (some now.toTimeval) uiSec uiAddUSec = some soTimeSpec ∧
    soTimeSpec.Normalised ∧ soTimeSpec.nanoseconds = now.deadline uiSec uiAddUSec

/-- The second of the deadline is a `time_t`. -/
def HasDeadline (now : TimeOfDay) (uiSec uiAddUSec : UInt32) : Prop :=
  now.deadline uiSec uiAddUSec / 1000000000 ≤ Int64.maxValue.toInt

end TimeOfDay

/-! ### What it gives -/

theorem Timespec.normalised_iff (soTimeSpec : Timespec) :
    soTimeSpec.Normalised ↔ WithinPlace (1000 * 1000000) soTimeSpec.tvNsec.toInt := by
  rw [Normalised, Int64.le_iff_toInt_le, Int64.lt_iff_toInt_lt]
  rfl

/-- A number that is not too small for a `long` keeps its value if it is not too large. -/
theorem toInt_ofInt_eq_iff {n : Int} (ge : Int64.minValue.toInt ≤ n) :
    (Int64.ofInt n).toInt = n ↔ n ≤ Int64.maxValue.toInt := by
  constructor
  · intro same
    exact same ▸ Int64.toInt_le _
  · intro le
    rw [Int64.toInt_minValue] at ge
    rw [Int64.toInt_maxValue] at le
    exact Int64.toInt_ofInt_of_le ge (by omega)

theorem ofInt_add_ofNat (n : Int) (added : Nat) :
    (.ofInt n + .ofNat added : Int64) = .ofInt (n + added) := by
  rw [Int64.ofInt_add, Int64.ofInt_eq_ofNat]

/-- Microseconds of the clock, to which a number of 32 bits has been added. -/
structure AddedUsec (usec : Int) : Prop where
  nonneg : 0 ≤ usec
  lt : usec < 1000000 + 4294967296

namespace AddedUsec

variable {usec : Int} (added : AddedUsec usec)
include added

theorem toInt_ofInt : (Int64.ofInt usec).toInt = usec := by
  have nonneg := added.nonneg
  have bound := added.lt
  exact Int64.toInt_ofInt_of_le (by omega) (by omega)

theorem lt_usecPerSec_iff : Int64.ofInt usec < USEC_PER_SEC ↔ usec < 1000000 := by
  rw [Int64.lt_iff_toInt_lt, added.toInt_ofInt]
  rfl

/-- Also as nanoseconds they fit into a `long`. -/
theorem toInt_nanoseconds : (Int64.ofInt usec * NSEC_PER_USEC).toInt = 1000 * usec := by
  have nonneg := added.nonneg
  have bound := added.lt
  have product : Int64.ofInt usec * NSEC_PER_USEC = .ofInt (1000 * usec) := by
    rw [Int.mul_comm, Int64.ofInt_mul]
    rfl
  rw [product, Int64.toInt_ofInt_of_le (by omega) (by omega)]

theorem carryOnce (sec : Int) : AddedUsec (carryOnce 1000000 (sec, usec)).2 where
  nonneg := carryOnce_nonneg added.nonneg
  lt := by
    unfold Lib.carryOnce
    split
    · exact added.lt
    · exact lt_of_le_of_lt (sub_le_self _ (by decide)) added.lt

end AddedUsec

namespace TimeOfDay

/-- The seconds and the microseconds, added up without a carry. -/
def uncarried (now : TimeOfDay) (uiSec uiAddUSec : UInt32) : Int × Int :=
  (now.tvSec + uiSec.toNat, now.tvUsec + uiAddUSec.toNat)

/-- The same with the one carry that the function makes. -/
def carried (now : TimeOfDay) (uiSec uiAddUSec : UInt32) : Int × Int :=
  carryOnce 1000000 (now.uncarried uiSec uiAddUSec)

variable (now : TimeOfDay) (uiSec uiAddUSec : UInt32)

theorem uncarried_usec : AddedUsec (now.uncarried uiSec uiAddUSec).2 where
  nonneg := add_nonneg now.usec_nonneg (Int.natCast_nonneg _)
  lt := add_lt_add now.usec_lt (Int.ofNat_lt.mpr uiAddUSec.toNat_lt)

theorem carried_usec : AddedUsec (now.carried uiSec uiAddUSec).2 :=
  (now.uncarried_usec uiSec uiAddUSec).carryOnce _

/-- The function computes the carried places, the low one as nanoseconds. Only the seconds may
wrap around. -/
theorem makeTimespec_carried :
    ∃ soTimeSpec, pcrfMakeTimespecTimeout (some now.toTimeval) uiSec uiAddUSec = some soTimeSpec ∧
      soTimeSpec.tvSec = .ofInt (now.carried uiSec uiAddUSec).1 ∧
      soTimeSpec.tvNsec.toInt = 1000 * (now.carried uiSec uiAddUSec).2 := by
  have scaled := (now.carried_usec uiSec uiAddUSec).toInt_nanoseconds
  have small : Int64.ofInt now.tvUsec + .ofNat uiAddUSec.toNat < USEC_PER_SEC ↔
      (now.uncarried uiSec uiAddUSec).2 < 1000000 := by
    rw [ofInt_add_ofNat]
    exact (now.uncarried_usec uiSec uiAddUSec).lt_usecPerSec_iff
  unfold pcrfMakeTimespecTimeout
  refine ⟨_, rfl, ?_⟩
  by_cases within : (now.uncarried uiSec uiAddUSec).2 < 1000000
  · have kept : now.carried uiSec uiAddUSec = now.uncarried uiSec uiAddUSec := if_pos within
    rw [if_pos (small.mpr within), ofInt_add_ofNat, ofInt_add_ofNat]
    rw [kept] at scaled ⊢
    exact ⟨rfl, scaled⟩
  · have carries : now.carried uiSec uiAddUSec =
        ((now.uncarried uiSec uiAddUSec).1 + 1, (now.uncarried uiSec uiAddUSec).2 - 1000000) :=
      if_neg within
    have rest : (.ofInt now.tvUsec - USEC_PER_SEC + .ofNat uiAddUSec.toNat : Int64) =
        .ofInt ((now.uncarried uiSec uiAddUSec).2 - 1000000) := by
      rw [uncarried, add_sub_right_comm, ← ofInt_add_ofNat, Int64.ofInt_sub]
      rfl
    have next : (.ofInt now.tvSec + .ofNat uiSec.toNat + 1 : Int64) =
        .ofInt ((now.uncarried uiSec uiAddUSec).1 + 1) := by
      rw [ofInt_add_ofNat]
      exact (Int64.ofInt_add _ 1).symm
    rw [if_neg (mt small.mp within), rest, next]
    rw [carries] at scaled ⊢
    exact ⟨rfl, scaled⟩

variable {now uiSec uiAddUSec}

/-- One carry is enough below two seconds of microseconds. -/
theorem withinPlace_carried_iff :
    WithinPlace 1000000 (now.carried uiSec uiAddUSec).2 ↔
      now.tvUsec + uiAddUSec.toNat < 2000000 := by
  rw [carried, withinPlace_carryOnce_iff (by decide) (now.uncarried_usec uiSec uiAddUSec).nonneg]
  rfl

theorem deadline_eq :
    now.deadline uiSec uiAddUSec = 1000 * placeValue 1000000 (now.carried uiSec uiAddUSec) := by
  rw [carried, placeValue_carryOnce]
  simp only [deadline, Timeval.nanoseconds, placeValue, uncarried]
  ring

variable {soTimeSpec : Timespec}

theorem makeTimespec_normalised_iff
    (made : pcrfMakeTimespecTimeout (some now.toTimeval) uiSec uiAddUSec = some soTimeSpec) :
    soTimeSpec.Normalised ↔ now.tvUsec + uiAddUSec.toNat < 2000000 := by
  obtain ⟨_, carries, -, low⟩ := now.makeTimespec_carried uiSec uiAddUSec
  cases made.symm.trans carries
  rw [Timespec.normalised_iff, low, withinPlace_mul_iff (by decide), withinPlace_carried_iff]

/-- Unless the seconds wrap around, the time is the one that is asked for, normalised or not. -/
theorem makeTimespec_denotes_iff
    (made : pcrfMakeTimespecTimeout (some now.toTimeval) uiSec uiAddUSec = some soTimeSpec) :
    soTimeSpec.nanoseconds = now.deadline uiSec uiAddUSec ↔
      (now.carried uiSec uiAddUSec).1 ≤ Int64.maxValue.toInt := by
  obtain ⟨_, carries, high, low⟩ := now.makeTimespec_carried uiSec uiAddUSec
  cases made.symm.trans carries
  have value : soTimeSpec.nanoseconds =
      1000 * placeValue 1000000 (soTimeSpec.tvSec.toInt, (now.carried uiSec uiAddUSec).2) := by
    rw [← placeValue_mul, ← low]
    rfl
  have ge : Int64.minValue.toInt ≤ (now.carried uiSec uiAddUSec).1 := by
    have clock := now.sec_ge
    unfold carried carryOnce
    split
    all_goals
      simp only [uncarried]
      omega
  rw [value, deadline_eq, ← toInt_ofInt_eq_iff ge, ← high]
  simp only [placeValue]
  omega

theorem hasDeadline_iff (within : now.tvUsec + uiAddUSec.toNat < 2000000) :
    now.HasDeadline uiSec uiAddUSec ↔
      (now.carried uiSec uiAddUSec).1 ≤ Int64.maxValue.toInt := by
  have normal : WithinPlace 1000000 (now.carried uiSec uiAddUSec).2 :=
    withinPlace_carried_iff.mpr within
  obtain ⟨nonneg, below⟩ := normal
  have second : now.deadline uiSec uiAddUSec / 1000000000 = (now.carried uiSec uiAddUSec).1 := by
    rw [deadline_eq, placeValue]
    omega
  rw [HasDeadline, second]

theorem makesTimeout_iff_hasDeadline (within : now.tvUsec + uiAddUSec.toNat < 2000000) :
    now.MakesTimeout uiSec uiAddUSec ↔ now.HasDeadline uiSec uiAddUSec := by
  rw [hasDeadline_iff within]
  constructor
  · rintro ⟨_, made, -, denotes⟩
    exact (makeTimespec_denotes_iff made).mp denotes
  · intro fits
    obtain ⟨soTimeSpec, made, -⟩ := now.makeTimespec_carried uiSec uiAddUSec
    have normalised : soTimeSpec.Normalised := (makeTimespec_normalised_iff made).mpr within
    exact ⟨soTimeSpec, made, normalised, (makeTimespec_denotes_iff made).mpr fits⟩

/-- The time is right exactly when the microseconds, those of the clock included, make less than
two seconds, and the second of the deadline is a `time_t`. -/
theorem makesTimeout_iff (now : TimeOfDay) (uiSec uiAddUSec : UInt32) :
    now.MakesTimeout uiSec uiAddUSec ↔
      now.tvUsec + uiAddUSec.toNat < 2000000 ∧ now.HasDeadline uiSec uiAddUSec := by
  constructor
  · intro makes
    have ⟨_, made, normalised, _⟩ := makes
    have within := (makeTimespec_normalised_iff made).mp normalised
    exact ⟨within, (makesTimeout_iff_hasDeadline within).mp makes⟩
  · rintro ⟨within, has⟩
    exact (makesTimeout_iff_hasDeadline within).mpr has

/-- Two seconds, asked for in microseconds: one of them is carried. -/
theorem not_makesTimeout_twoSeconds :
    ¬ MakesTimeout ⟨⟨1700000000, 0⟩, by decide, by decide, by decide, by decide⟩ 0 2000000 := by
  rintro ⟨soTimeSpec, made, normalised, -⟩
  have left : some ⟨1700000001, 1000000000⟩ = some soTimeSpec := made
  cases left
  exact absurd normalised.2 (by decide)

end TimeOfDay

/-! ### Who waits -/

/-- How `pcrf_client_gx_rar` sends its message: `fd_msg_send` or `fd_msg_send_timeout`. -/
inductive RarSend where
  | send
  | sendTimeout (soTimeSpec : Timespec)
  deriving Repr, DecidableEq

/-- What `pcrf_client_gx_rar` does with its argument `p_uiUsec`. -/
def gxRarSend (soTimeVal : Option Timeval) (uiUsec : UInt32) : Option RarSend :=
  if uiUsec = 0 then some .send
  else (pcrfMakeTimespecTimeout soTimeVal 0 uiUsec).map .sendTimeout

/-- Whatever the time is, the request may be given up to a second and no more. -/
theorem gxRarSend_normalised_iff (uiUsec : UInt32) :
    (∀ (now : TimeOfDay) (soTimeSpec : Timespec),
      gxRarSend (some now.toTimeval) uiUsec = some (.sendTimeout soTimeSpec) →
        soTimeSpec.Normalised) ↔ uiUsec.toNat ≤ 1000000 := by
  constructor
  · intro always
    by_contra large
    -- just before the next second begins
    let late : TimeOfDay := ⟨⟨0, 999999⟩, by decide, by decide, by decide, by decide⟩
    obtain ⟨soTimeSpec, made, -⟩ := late.makeTimespec_carried 0 uiUsec
    have asked : uiUsec ≠ 0 := by
      rintro rfl
      exact large (by decide)
    have sent : gxRarSend (some late.toTimeval) uiUsec = some (.sendTimeout soTimeSpec) := by
      rw [gxRarSend, if_neg asked, made]
      rfl
    have within := (TimeOfDay.makeTimespec_normalised_iff made).mp (always late soTimeSpec sent)
    have sum : (999999 : Int) + uiUsec.toNat < 2000000 := within
    omega
  · intro small now soTimeSpec sent
    have clock := now.usec_lt
    unfold gxRarSend at sent
    split at sent
    next => cases sent
    next =>
      obtain ⟨_, made, same⟩ := Option.map_eq_some_iff.mp sent
      cases same
      apply (TimeOfDay.makeTimespec_normalised_iff made).mpr
      omega

/-- What the waits take from `g_psoConf`. The number behind `CCATimeout` is split by `modf`, so
that its microseconds are less than a second. -/
structure WaitConf where
  iDBReqInterval : Int32
  uiCCATimeoutSec : UInt32
  uiCCATimeoutUSec : UInt32
  usec_lt : uiCCATimeoutUSec.toNat < 1000000

/-- The timed waits other than that for the answer to a RAR, by the functions they are in. -/
inductive TimedWait where
  | pcrfDbPoolGet
  | pcrfSqlQueueOper
  | pcrfCacheUpdate
  | pcrfClientOperateRefreshqueue
  | pcrfSubscriberDataProc
  deriving Repr, DecidableEq

/-- The seconds and microseconds that they pass to `pcrf_make_timespec_timeout`. -/
def TimedWait.timeout (conf : WaitConf) : TimedWait → UInt32 × UInt32
  -- every client of the pool waits `USEC_PER_SEC`
  | .pcrfDbPoolGet => (0, 1000000)
  | .pcrfSqlQueueOper => (0, 100000)
  | .pcrfCacheUpdate => (60, 0)
  | .pcrfClientOperateRefreshqueue =>
    (if conf.iDBReqInterval ≠ 0 then conf.iDBReqInterval.toUInt32 else 1, 0)
  | .pcrfSubscriberDataProc => (conf.uiCCATimeoutSec, conf.uiCCATimeoutUSec)

theorem TimedWait.timeout_le (conf : WaitConf) (wait : TimedWait) :
    (wait.timeout conf).2.toNat ≤ 1000000 := by
  cases wait with
  | pcrfDbPoolGet | pcrfSqlQueueOper | pcrfCacheUpdate | pcrfClientOperateRefreshqueue =>
    simp [timeout]
  | pcrfSubscriberDataProc => exact conf.usec_lt.le

/-- These waits all end at the time that is meant, as none of them adds more than a second of
microseconds. -/
theorem TimedWait.makesTimeout_iff_hasDeadline (conf : WaitConf) (wait : TimedWait)
    (now : TimeOfDay) :
    now.MakesTimeout (wait.timeout conf).1 (wait.timeout conf).2 ↔
      now.HasDeadline (wait.timeout conf).1 (wait.timeout conf).2 := by
  have clock := now.usec_lt
  have added := wait.timeout_le conf
  apply TimeOfDay.makesTimeout_iff_hasDeadline
  omega

end Pcrf
