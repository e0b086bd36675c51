import Endap.Ladder.Timers

/-!
# The off-delay timer

`TOF` stores its own output in `last_acc`, where the rule for starting it
expects the input.  Once its output has been true it starts again in every
scan, so with a preset its output stays true for ever.

A `TON` on the same tag shares the record, though not `last_acc`.  If it has
started the timer, the output of the `TOF` comes on without its input ever
having been true.
-/

namespace Endap.Ladder

open Endap.Library
open Endap.Library.Signal
open Endap.State

/-! ## One scan -/

/-- The timer was not started after the clock. -/
def TimerState.Timely (nowMs : Int) (timer : TimerState) : Prop :=
  timer.active = true → timer.startTimeMs ≤ nowMs

/-- The timer runs, and has not done so for the preset. -/
def TimerState.RunsShort
    (presetMs : UInt16) (nowMs : Int) (timer : TimerState) : Prop :=
  timer.active = true ∧ nowMs - timer.startTimeMs < (presetMs.toNat : Int)

/-- What `TOF` remembers of a scan is its output. -/
theorem offDelayStep_lastAcc
    (accumulator : Bool) (presetMs : UInt16) (nowMs : Int)
    (timer : TimerState) :
    (offDelayStep accumulator presetMs nowMs timer).2.lastAcc =
      (offDelayStep accumulator presetMs nowMs timer).1 := by
  cases accumulator with
  | true => rfl
  | false =>
      simp only [offDelayStep, Bool.false_eq_true, if_false]
      split
      · split
        · split
          · rfl
          · rfl
        · rfl
      · split
        · split
          · rfl
          · rfl
        · rfl

variable {nowMs : Int} {timer : TimerState}

/-- A timer that `TOF` leaves running was not started after the clock. -/
theorem offDelayStep_timely
    (timely : timer.Timely nowMs)
    (accumulator : Bool) (presetMs : UInt16) :
    (offDelayStep accumulator presetMs nowMs timer).2.Timely nowMs := by
  cases accumulator with
  | true => exact nofun
  | false =>
      intro isActive
      simp only [offDelayStep, Bool.false_eq_true, if_false] at isActive ⊢
      cases remembered : timer.lastAcc with
      | true =>
          simp only [remembered, if_true] at isActive ⊢
          split
          · exact Int.le_refl nowMs
          · exact Int.le_refl nowMs
      | false =>
          simp only [remembered, Bool.false_eq_true, if_false] at isActive ⊢
          cases running : timer.active with
          | true =>
              simp only [running, if_true] at isActive ⊢
              split
              · exact timely running
              · exact timely running
          | false =>
              simp [running] at isActive

/--
Without its input `TOF` is on for two reasons: it was on in the scan before,
which starts the timer in this very scan, or it finds the timer running.
-/
theorem offDelayStep_output
    (timely : timer.Timely nowMs)
    (accumulator : Bool) (presetMs : UInt16) :
    (offDelayStep accumulator presetMs nowMs timer).1 = true ↔
    accumulator = true ∨
    0 < presetMs.toNat ∧
    (timer.lastAcc = true ∨ timer.RunsShort presetMs nowMs) := by
  cases accumulator with
  | true => simp [offDelayStep]
  | false =>
      cases remembered : timer.lastAcc with
      | true =>
          -- The start is the clock of this scan: nothing has elapsed.
          by_cases none : presetMs.toNat = 0
          · simp [offDelayStep, remembered, none]
          · simp [offDelayStep, remembered, none, Nat.pos_of_ne_zero none]
      | false =>
          cases running : timer.active with
          | false =>
              simp [offDelayStep, remembered, running, TimerState.RunsShort]
          | true =>
              have started := timely running
              by_cases early :
                  nowMs - timer.startTimeMs < (presetMs.toNat : Int)
              · have delays : 0 < presetMs.toNat := by omega
                simp [offDelayStep, remembered, running, early, delays,
                  TimerState.RunsShort, Int.not_le.mpr early]
              · simp [offDelayStep, remembered, running, early,
                  TimerState.RunsShort, Int.not_lt.mp early]

/-! ## The other instructions -/

/-- The instruction is no `TOF` on the tag and no `RST` of it.  It may be a
`TON` on the tag. -/
structure Instruction.SparesOffDelay (tagId : UInt16)
    (instruction : Instruction) : Prop where
  notTimed : ∀ presetMs, instruction ≠ .tof tagId presetMs
  notReset : instruction ≠ .onTag .rst tagId

/-- The edge memory is kept, and the timer is not started after the clock. -/
structure KeepsMemory (nowMs : Int) (found left : TimerState) : Prop where
  lastAcc : left.lastAcc = found.lastAcc
  timely : found.Timely nowMs → left.Timely nowMs

theorem KeepsMemory.refl (nowMs : Int) (timer : TimerState) :
    KeepsMemory nowMs timer timer :=
  ⟨rfl, id⟩

theorem KeepsMemory.trans
    {first second third : TimerState}
    (before : KeepsMemory nowMs first second)
    (behind : KeepsMemory nowMs second third) :
    KeepsMemory nowMs first third :=
  ⟨behind.lastAcc.trans before.lastAcc,
    fun timely => behind.timely (before.timely timely)⟩

theorem onDelayStep_keepsMemory
    (accumulator : Bool) (presetMs : UInt16) (nowMs : Int)
    (timer : TimerState) :
    KeepsMemory nowMs timer
      (onDelayStep accumulator presetMs nowMs timer).2 := by
  cases accumulator with
  | false => exact ⟨rfl, fun _ => nofun⟩
  | true =>
      cases running : timer.active with
      | true =>
          have same : (onDelayStep true presetMs nowMs timer).2 = timer := by
            simp [onDelayStep, running]
          rw [same]
          exact .refl nowMs timer
      | false =>
          have started :
              (onDelayStep true presetMs nowMs timer).2 =
                { timer with active := true, startTimeMs := nowMs } := by
            simp [onDelayStep, running]
          rw [started]
          exact ⟨rfl, fun _ _ => Int.le_refl nowMs⟩

/-- Beside the instructions that leave the timer of a tag there are only those
that turn it on with a delay. -/
theorem Instruction.SparesOffDelay.cases
    {tagId : UInt16} {instruction : Instruction}
    (spares : instruction.SparesOffDelay tagId) :
    instruction.SparesTimer tagId ∨
    ∃ presetMs, instruction = .ton tagId presetMs := by
  by_cases timed : instruction.timerTag? = some tagId
  · cases instruction with
    | ton other presetMs =>
        cases timed
        exact .inr ⟨presetMs, rfl⟩
    | tof other presetMs =>
        cases timed
        exact absurd rfl (spares.notTimed presetMs)
    | _ => cases timed
  · exact .inl ⟨timed, spares.notReset⟩

theorem runInstructions_keepsMemory
    {tagId : UInt16} {code : List Instruction}
    (spares : ∀ instruction ∈ code, instruction.SparesOffDelay tagId)
    (nowMs : Int) (machine : Machine) :
    KeepsMemory nowMs (machine.timerOf tagId)
      ((runInstructions nowMs machine code).timerOf tagId) := by
  induction code generalizing machine with
  | nil => exact .refl nowMs _
  | cons instruction rest induction =>
      have later :=
        induction
          (fun other member => spares other (List.mem_cons_of_mem _ member))
          (instruction.run nowMs machine)
      refine KeepsMemory.trans ?_ later
      rcases (spares instruction (List.mem_cons_self ..)).cases with
        leaves | ⟨presetMs, rfl⟩
      · rw [Instruction.run_timerOf leaves nowMs machine]
        exact .refl nowMs _
      · rcases timerOf_timerInstruction_self onDelayStep_tagId tagId nowMs
          presetMs machine with same | stepped
        · rw [Instruction.run, same]
          exact .refl nowMs _
        · rw [Instruction.run, stepped]
          exact onDelayStep_keepsMemory _ presetMs nowMs _

/-! ## All scans -/

/-- A clock that does not go back. -/
def GoesForward (now : Nat → Int) : Prop :=
  ∀ first second, first ≤ second → now first ≤ now second

/-- A `TOF` answers its input in each scan from a record whose `last_acc` it
has for itself. -/
structure OffDelayAnswers (input output : Nat → Bool) (now : Nat → Int)
    (presetMs : UInt16) (record : Nat → TimerState) : Prop where
  initially : (record 0).lastAcc = false
  timely : ∀ scan, (record scan).Timely (now scan)
  outputs :
    ∀ scan,
      output scan =
        (offDelayStep (input scan) presetMs (now scan) (record scan)).1
  remembers :
    ∀ scan,
      (record (scan + 1)).lastAcc =
        (offDelayStep (input scan) presetMs (now scan) (record scan)).2.lastAcc

/-- What a `TOF` in a scan makes come on: its input, or a timer that it finds
running. -/
def ComesOn (input : Nat → Bool) (now : Nat → Int) (presetMs : UInt16)
    (record : Nat → TimerState) (scan : Nat) : Prop :=
  input scan = true ∨ (record scan).RunsShort presetMs (now scan)

section

variable {input output : Nat → Bool} {now : Nat → Int}
variable {presetMs : UInt16} {record : Nat → TimerState}
variable (answers : OffDelayAnswers input output now presetMs record)

include answers

theorem offDelay_stays (delays : 0 < presetMs.toNat) (scan : Nat) :
    output scan = true ↔
    ∃ found ≤ scan, ComesOn input now presetMs record found := by
  have answer (scan : Nat) :
      output scan = true ↔
      ComesOn input now presetMs record scan ∨
      (record scan).lastAcc = true := by
    rw [answers.outputs, offDelayStep_output (answers.timely scan), ComesOn]
    simp only [delays, true_and]
    tauto
  induction scan with
  | zero =>
      rw [answer, answers.initially]
      simp
  | succ scan induction =>
      rw [answer, answers.remembers, offDelayStep_lastAcc, ← answers.outputs]
      constructor
      · rintro (comesOn | wasOn)
        · exact ⟨scan + 1, Nat.le_refl _, comesOn⟩
        · rcases induction.mp wasOn with ⟨found, before, comesOn⟩
          exact ⟨found, Nat.le_succ_of_le before, comesOn⟩
      · rintro ⟨found, before, comesOn⟩
        rcases Nat.le_succ_iff.mp before with earlier | rfl
        · exact .inr (induction.mpr ⟨found, earlier, comesOn⟩)
        · exact .inl comesOn

theorem offDelay_follows (immediate : presetMs.toNat = 0) (scan : Nat) :
    output scan = input scan := by
  rw [answers.outputs, Bool.eq_iff_iff,
    offDelayStep_output (answers.timely scan), immediate]
  simp

end

/-- The output of a `TOF` in a scan is what it should be: the input, or that
the input was true and has been false for less than the preset. -/
def OffDelayLaw (input output : Nat → Bool) (now : Nat → Int)
    (presetMs : UInt16) (scan : Nat) : Prop :=
  output scan = true ↔
  input scan = true ∨
  (∃ earlier < scan, input earlier = true) ∧
  now scan - now (runStart input scan) < (presetMs.toNat : Int)

/-- The input was true and has then been false for the preset, which is not
zero. -/
structure FalseForPreset (input : Nat → Bool) (now : Nat → Int)
    (presetMs : UInt16) (scan : Nat) : Prop where
  delays : 0 < presetMs.toNat
  isOff : input scan = false
  wasOn : ∃ earlier < scan, input earlier = true
  elapsed : (presetMs.toNat : Int) ≤ now scan - now (runStart input scan)

/-- The input was never true, and the timer has been found running. -/
structure StartedElsewhere (input : Nat → Bool) (now : Nat → Int)
    (presetMs : UInt16) (record : Nat → TimerState) (scan : Nat) :
    Prop where
  neverOn : ∀ earlier ≤ scan, input earlier = false
  running : ∃ found ≤ scan, (record found).RunsShort presetMs (now found)

theorem preset_pos_of_runsShort
    {presetMs : UInt16}
    (timely : timer.Timely nowMs)
    (running : timer.RunsShort presetMs nowMs) : 0 < presetMs.toNat := by
  have started := timely running.1
  have early := running.2
  omega

theorem offDelayLaw_iff_of_answers
    {input output : Nat → Bool} {now : Nat → Int} {presetMs : UInt16}
    {record : Nat → TimerState}
    (answers : OffDelayAnswers input output now presetMs record)
    (forward : GoesForward now) (scan : Nat) :
    OffDelayLaw input output now presetMs scan ↔
    ¬ (FalseForPreset input now presetMs scan ∨
    StartedElsewhere input now presetMs record scan) := by
  have later : now (runStart input scan) ≤ now scan :=
    forward _ scan (runStart_le input scan)
  rw [OffDelayLaw]
  by_cases delays : 0 < presetMs.toNat
  · rw [offDelay_stays answers delays]
    constructor
    · rintro law (failing | started)
      · rcases failing.wasOn with ⟨earlier, before, wasOn⟩
        have isLate := law.mp ⟨earlier, Nat.le_of_lt before, .inl wasOn⟩
        rcases isLate with isOn | ⟨_, early⟩
        · rw [failing.isOff] at isOn
          cases isOn
        · exact absurd failing.elapsed (Int.not_le.mpr early)
      · rcases started.running with ⟨found, before, running⟩
        have isLate := law.mp ⟨found, before, .inr running⟩
        rcases isLate with isOn | ⟨⟨earlier, past, wasOn⟩, _⟩
        · rw [started.neverOn scan (Nat.le_refl _)] at isOn
          cases isOn
        · rw [started.neverOn earlier (Nat.le_of_lt past)] at wasOn
          cases wasOn
    · intro holds
      constructor
      · rintro ⟨found, before, comesOn⟩
        cases isOn : input scan with
        | true => exact .inl rfl
        | false =>
            -- The output is on without the input, so the input was on.
            have wasOn : ∃ earlier < scan, input earlier = true := by
              by_contra never
              have neverOn : ∀ earlier ≤ scan, input earlier = false := by
                intro earlier past
                rcases Nat.lt_or_eq_of_le past with before | rfl
                · rw [Bool.eq_false_iff]
                  exact fun wasOn => never ⟨earlier, before, wasOn⟩
                · exact isOn
              refine holds (.inr ⟨neverOn, found, before, ?_⟩)
              refine comesOn.resolve_left ?_
              rw [neverOn found before]
              exact Bool.false_ne_true
            refine .inr ⟨wasOn, Int.not_le.mp fun elapsed => ?_⟩
            exact holds (.inl ⟨delays, isOn, wasOn, elapsed⟩)
      · rintro (isOn | ⟨⟨earlier, before, wasOn⟩, _⟩)
        · exact ⟨scan, Nat.le_refl _, .inl isOn⟩
        · exact ⟨earlier, Nat.le_of_lt before, .inl wasOn⟩
  · have immediate : presetMs.toNat = 0 := Nat.eq_zero_of_not_pos delays
    rw [offDelay_follows answers immediate]
    constructor
    · rintro _ (failing | started)
      · exact delays failing.delays
      · rcases started.running with ⟨found, _, running⟩
        exact delays (preset_pos_of_runsShort (answers.timely found) running)
    · intro _
      refine ⟨.inl, ?_⟩
      rintro (isOn | ⟨_, early⟩)
      · exact isOn
      · omega

/-! ## In a program -/

section

variable {program : List UInt8} {start : LadderEngine}
variable (starts : Starts program start)
variable {before after : List Instruction} {tagId presetMs : UInt16}
variable
  (isProgram : instructions program = before ++ .tof tagId presetMs :: after)
variable
  (alone : ∀ other ∈ before ++ after, other.SparesOffDelay tagId)
variable (scans : Nat → ScanInput)

include starts isProgram alone

/-- The instructions before a `TOF` leave its memory to it. -/
theorem offDelay_before (scan : Nat) :
    KeepsMemory (nowAt scans scan)
      ((machineOf start scans scan).timerOf tagId)
      ((machineAt start scans (offsetBehind before) scan).timerOf
        tagId) := by
  rw [machineAt_before starts.accepted starts.follows scans isProgram]
  exact
    runInstructions_keepsMemory
      (fun other member => alone other (List.mem_append_left after member))
      _ _

/-- From a `TOF` to the next scan its memory is kept as well. -/
theorem offDelay_behind (scan : Nat) :
    KeepsMemory (nowAt scans scan)
      (offDelayStep (signalAt start scans (offsetBehind before) scan)
        presetMs (nowAt scans scan)
        ((machineAt start scans (offsetBehind before) scan).timerOf tagId)).2
      ((machineOf start scans (scan + 1)).timerOf tagId) := by
  have isHead :=
    isProgram.trans (List.append_cons before (.tof tagId presetMs) after)
  have atTag :=
    timer_step starts.accepted starts.follows scans offDelayStep_tagId
      isProgram rfl (fun _ _ => rfl) scan
  have ends :=
    (engineAt_succ_tables starts.accepted starts.follows scans scan).1
  have wholeCode :
      instructions program =
        before ++ [.tof tagId presetMs] ++ after ++ [] := by
    rw [isHead, List.append_nil]
  rw [isHead,
    machineAt_append starts.accepted starts.follows scans wholeCode] at ends
  rw [← atTag.2.1, @timerOf_of_timers tagId _ (machineOf _ _ _) ends]
  exact
    runInstructions_keepsMemory
      (fun other member => alone other (List.mem_append_right before member))
      _ _

theorem offDelay_timely
    (forward : GoesForward (nowAt scans)) (scan : Nat) :
    ((machineAt start scans (offsetBehind before) scan).timerOf
      tagId).Timely (nowAt scans scan) := by
  induction scan with
  | zero =>
      refine (offDelay_before starts isProgram alone scans 0).timely ?_
      rw [starts.timerOf]
      exact nofun
  | succ scan induction =>
      have left :=
        (offDelay_behind starts isProgram alone scans scan).timely
          (offDelayStep_timely induction _ presetMs)
      refine (offDelay_before starts isProgram alone scans _).timely ?_
      intro isActive
      exact
        Int.le_trans (left isActive)
          (forward scan (scan + 1) (Nat.le_succ scan))

/-- A `TOF` that shares its tag at most with `TON`s has its memory to
itself. -/
theorem offDelay_answers (forward : GoesForward (nowAt scans)) :
    OffDelayAnswers (signalAt start scans (offsetBehind before))
      (signalAt start scans (offsetBehind (before ++ [.tof tagId presetMs])))
      (nowAt scans) presetMs
      (fun scan =>
        (machineAt start scans (offsetBehind before) scan).timerOf
          tagId) := by
  constructor
  · rw [(offDelay_before starts isProgram alone scans 0).lastAcc,
      starts.timerOf]
    rfl
  · exact offDelay_timely starts isProgram alone scans forward
  · intro scan
    exact
      (timer_step starts.accepted starts.follows scans offDelayStep_tagId
        isProgram rfl (fun _ _ => rfl) scan).1
  · intro scan
    exact
      (offDelay_before starts isProgram alone scans (scan + 1)).lastAcc.trans
        (offDelay_behind starts isProgram alone scans scan).lastAcc

end

/--
The output of a `TOF` is what it should be in a scan if and only if the input
has not been false for the preset, and the `TOF` has not found its timer
running before its input was ever true.
-/
theorem off_delay_law_iff
    {program : List UInt8} {start : LadderEngine}
    (starts : Starts program start)
    {before after : List Instruction} {tagId presetMs : UInt16}
    (isProgram : instructions program = before ++ .tof tagId presetMs :: after)
    (alone : ∀ other ∈ before ++ after, other.SparesOffDelay tagId)
    {scans : Nat → ScanInput} (forward : GoesForward (nowAt scans))
    (scan : Nat) :
    let input := signalAt start scans (offsetBehind before)
    let output :=
      signalAt start scans (offsetBehind (before ++ [.tof tagId presetMs]))
    let found := fun scan =>
      (machineAt start scans (offsetBehind before) scan).timerOf tagId
    OffDelayLaw input output (nowAt scans) presetMs scan ↔
    ¬ (FalseForPreset input (nowAt scans) presetMs scan ∨
    StartedElsewhere input (nowAt scans) presetMs found scan) :=
  offDelayLaw_iff_of_answers
    (offDelay_answers starts isProgram alone scans forward) forward scan

/-- `LD 10`, `TOF 100` with a preset of 100 ms. -/
def fadingInput : List UInt8 :=
  [0x45, 0x4E, 0x44, 0x50, 0x01, 0x01, 0x00, 0x0A, 0x31, 0x00, 0x64, 0x00,
    0x64, 0xFF]

def pulse (scan : Nat) : ScanInput where
  store := if scan = 0 then stateSetInt stateInit 10 1 else stateInit
  clockUs := 200000 * scan

theorem pulse_forward : GoesForward (nowAt pulse) := by
  intro first second ordered
  have inMs (scan : Nat) : nowAt pulse scan = 200 * scan := by
    have clock : (200000 * scan : Int) = 200 * scan * 1000 := by omega
    rw [nowAt, pulse, clock, Int.mul_tdiv_cancel _ (by decide)]
  rw [inMs, inMs]
  omega

/-- In the first scan without the input the output is what it should be, with
a `TON` on the tag of the `TOF`. -/
theorem sharedTag_delays :
    OffDelayLaw (signalAt (loadedWith sharedTag) pulse 8)
      (signalAt (loadedWith sharedTag) pulse 13) (nowAt pulse) 100 1 := by
  have isProgram :
      instructions sharedTag =
        [.onTag .ld 10] ++ .tof 100 100 ::
          [.onTag .ld 10, .ton 100 100] := by
    decide +kernel
  have starts : Starts sharedTag (loadedWith sharedTag) :=
    .loaded _ _ _ _ (by decide +kernel)
  apply (off_delay_law_iff starts isProgram ?_ pulse_forward 1).mpr
  · rintro (failing | started)
    · exact absurd failing.elapsed (by decide +kernel)
    · exact absurd (started.neverOn 0 (Nat.zero_le _)) (by decide +kernel)
  · intro other member
    simp only [List.cons_append, List.nil_append, List.mem_cons,
      List.not_mem_nil, or_false] at member
    rcases member with rfl | rfl | rfl
    · exact ⟨by simp, by simp⟩
    · exact ⟨by simp, by simp⟩
    · exact ⟨by simp, by simp⟩

/-- After 200 ms without the input the output is still true. -/
theorem fadingInput_stays :
    instructions fadingInput = [.onTag .ld 10, .tof 100 100] ∧
    validateProgram fadingInput = .ok ∧
    signalAt (loadedWith fadingInput) pulse 8 0 = true ∧
    signalAt (loadedWith fadingInput) pulse 8 1 = false ∧
    signalAt (loadedWith fadingInput) pulse 8 2 = false ∧
    nowAt pulse 2 - nowAt pulse 1 = 200 ∧
    signalAt (loadedWith fadingInput) pulse 13 2 = true ∧
    ¬ OffDelayLaw (signalAt (loadedWith fadingInput) pulse 8)
      (signalAt (loadedWith fadingInput) pulse 13)
      (nowAt pulse) 100 2 := by
  have stays : signalAt (loadedWith fadingInput) pulse 13 2 = true := by
    decide +kernel
  refine
    ⟨by decide +kernel, by decide +kernel, by decide +kernel,
      by decide +kernel, by decide +kernel, by decide +kernel, stays, ?_⟩
  intro law
  rcases law.mp stays with isOn | ⟨_, early⟩
  · exact absurd isOn (by decide +kernel)
  · exact absurd early (by decide +kernel)

end Endap.Ladder
