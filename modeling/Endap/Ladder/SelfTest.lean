import Endap.Ladder.Lockstep

/-!
# The ladder self-test

On every boot the engine loads a small program, drives input 0 through 0, 1
and 0 and checks output 0, and then puts the previous program back.  It uses
the production loader and the production state table, and it restores only
the program in RAM: the stored blob and the two states it drives stay as the
test left them.

The self-test is transparent exactly when there is nothing to restore.
-/

namespace Endap.Ladder

open Endap.Library
open Endap.Library.Loop
open Endap.State

/-- `ENDAP_INPUT_ID(0)`. -/
def inputId0 : UInt16 := 10

/-- `ENDAP_OUTPUT_ID(0)`. -/
def outputId0 : UInt16 := 100

/-- `test_prog`: `LD` input 0, `ST` output 0. -/
def testProg : List UInt8 :=
  [0x45, 0x4E, 0x44, 0x50, 0x01,
    Opcode.ld.byte, 0x00, 0x0A,
    Opcode.st.byte, 0x00, 0x64,
    terminator]

/-- What the environment does during the self-test. -/
structure SelfTestInput where
  erased : NvsOutcome
  stored : NvsOutcome
  cleared : NvsOutcome
  clockUs : Nat → Int

/-- The result of the self-test. -/
structure SelfTestResult where
  passed : Bool
  engine : LadderEngine
  store : StateStore
  blob : LadderBlob

/-- The common exit: put the saved program back, or clear the engine. -/
def restoreProgram
    (saved current : LadderEngine) (blob : LadderBlob)
    (cleared : NvsOutcome) : LadderEngine × LadderBlob :=
  if present : saved.hasProgram = true ∧ saved.bytecode.length > 0 then
    ({ current with
        bytecode := saved.bytecode
        hasProgram := true
        loaded := by
          simp [List.ne_nil_of_length_pos present.2]
        fits := saved.fits },
      blob)
  else ladderEngineClear blob cleared

/-- One phase of the test: a scan, and the value of output 0 after it. -/
def selfTestScan
    (engine : LadderEngine) (store : StateStore) (clockUs : Int)
    (outVal : Int32) : LadderEngine × StateStore × Int32 :=
  let run := ladderEngineRun engine store clockUs
  (run.engine, run.store, (stateGetInt run.store outputId0).getD outVal)

def ladderEngineRunSelfTest
    (engine : LadderEngine) (store : StateStore) (blob : LadderBlob)
    (input : SelfTestInput) : SelfTestResult :=
  let load :=
    ladderEngineLoadProgram engine blob testProg input.erased input.stored
  let finish (passed : Bool) (current : LadderEngine)
      (last : StateStore) : SelfTestResult :=
    let restored := restoreProgram engine current load.2.2 input.cleared
    { passed := passed, engine := restored.1, store := last
      blob := restored.2 }
  if load.1 ≠ .ok then finish false load.2.1 store
  else
    let off :=
      selfTestScan load.2.1
        (stateSetInt (stateSetInt store inputId0 0) outputId0 1)
        (input.clockUs 0) (-1)
    if off.2.2 ≠ 0 then finish false off.1 off.2.1
    else
      let on :=
        selfTestScan off.1 (stateSetInt off.2.1 inputId0 1)
          (input.clockUs 1) off.2.2
      if on.2.2 ≠ 1 then finish false on.1 on.2.1
      else
        let again :=
          selfTestScan on.1 (stateSetInt on.2.1 inputId0 0)
            (input.clockUs 2) on.2.2
        if again.2.2 ≠ 0 then finish false again.1 again.2.1
        else finish true again.1 again.2.1

/-! ## A scan of the test program -/

/-- The engine that holds the test program. -/
def testEngine : LadderEngine :=
  LadderEngine.holding testProg (by decide) (by decide)

/-- The scan of the test program after `LD`. -/
def loadedScan (store : StateStore) : Scan :=
  ((startScan testEngine store).fetch.readOperands 2).act
    (combine (fun _ value => decide (value > 0)) (wordAt testProg 6))

/-- The scan of the test program after `ST`. -/
def storedScan (store : StateStore) : Scan :=
  ((loadedScan store).fetch.readOperands 2).act
    (storeInstruction (wordAt testProg 9))

theorem scanProgram_testProg (store : StateStore) (nowMs : Int) :
    scanProgram testProg nowMs (startScan testEngine store) =
      (storedScan store).fetch := by
  have loads :
      scanBody testProg nowMs (startScan testEngine store) =
        .next (loadedScan store) := rfl
  have stores :
      scanBody testProg nowMs (loadedScan store) =
        .next (storedScan store) := rfl
  have ends :
      scanBody testProg nowMs (storedScan store) =
        .stop (storedScan store).fetch := rfl
  have decreasing := scanBody_decreasing testProg nowMs
  rw [scanProgram, run_next decreasing loads, run_next decreasing stores,
    run_stop ends]

/-- The value of output 0 after a scan of the test program. -/
def copiedInput (store : StateStore) : Int32 :=
  if decide (stateValue store inputId0 > 0) then 1 else 0

theorem testEngine_scan
    (store : StateStore) (clockUs : Int) (outVal : Int32) :
    selfTestScan testEngine store clockUs outVal =
      (testEngine, stateSetInt store outputId0 (copiedInput store),
        copiedInput store) := by
  have scanned := scanProgram_testProg store (clockUs.tdiv 1000)
  have runs :
      ¬ (testEngine.hasProgram = false ∨
      testEngine.bytecode.length < codeStart) := by
    decide
  have ran :
      (ladderEngineRun testEngine store clockUs).engine = testEngine ∧
      (ladderEngineRun testEngine store clockUs).store =
        stateSetInt store outputId0 (copiedInput store) := by
    rw [ladderEngineRun, if_neg runs]
    change
      _ ∧ (scanProgram testProg _ (startScan testEngine store)).machine.store
        = _
    rw [scanned]
    exact ⟨rfl, rfl⟩
  have valid : StateValidId outputId0 := by
    decide
  have output :
      stateGetInt (stateSetInt store outputId0 (copiedInput store))
        outputId0 = some (copiedInput store) := by
    rw [stateGetInt, if_pos valid, stateSetInt_same store valid]
  simp only [selfTestScan, ran.1, ran.2, output, Option.getD_some]

theorem copiedInput_of_input
    {store : StateStore} {value : Int32}
    (driven : store.intValues inputId0 = value) :
    copiedInput store = if decide (value > 0) then 1 else 0 := by
  have valid : StateValidId inputId0 := by
    decide
  rw [copiedInput, stateValue, stateGetInt, if_pos valid, driven]
  rfl

theorem loadProgram_testProg
    (engine : LadderEngine) (blob : LadderBlob)
    (erased stored : NvsOutcome) :
    ladderEngineLoadProgram engine blob testProg erased stored =
      (.ok, testEngine,
        nvsWrite stored (nvsWrite erased blob none) (some testProg)) := by
  have accepted : validateProgram testProg = .ok := by
    decide +kernel
  rw [ladderEngineLoadProgram_accepted engine blob erased stored accepted]
  rfl

/-! ## The self-test as a whole -/

/-- The state table that the self-test leaves. -/
def selfTestStore (store : StateStore) : StateStore :=
  let off :=
    stateSetInt (stateSetInt (stateSetInt store inputId0 0) outputId0 1)
      outputId0 0
  let on := stateSetInt (stateSetInt off inputId0 1) outputId0 1
  stateSetInt (stateSetInt on inputId0 0) outputId0 0

theorem inputId0_ne_outputId0 : inputId0 ≠ outputId0 := by
  decide

theorem ladderEngineRunSelfTest_eq
    (engine : LadderEngine) (store : StateStore) (blob : LadderBlob)
    (input : SelfTestInput) :
    ladderEngineRunSelfTest engine store blob input =
      { passed := true
        engine :=
          (restoreProgram engine testEngine
            (nvsWrite input.stored (nvsWrite input.erased blob none)
              (some testProg)) input.cleared).1
        store := selfTestStore store
        blob :=
          (restoreProgram engine testEngine
            (nvsWrite input.stored (nvsWrite input.erased blob none)
              (some testProg)) input.cleared).2 } := by
  have valid : StateValidId inputId0 := by
    decide
  have offCopied :
      copiedInput
        (stateSetInt (stateSetInt store inputId0 0) outputId0 1) = 0 := by
    have input :
        (stateSetInt (stateSetInt store inputId0 0) outputId0
          1).intValues inputId0 = 0 := by
      rw [stateSetInt_other _ _ inputId0_ne_outputId0, stateSetInt_same _ valid]
    exact copiedInput_of_input input
  have driven (before : StateStore) (value : Int32) :
      copiedInput (stateSetInt before inputId0 value) =
        if decide (value > 0) then 1 else 0 :=
    copiedInput_of_input (stateSetInt_same before valid value)
  simp only [ladderEngineRunSelfTest, loadProgram_testProg,
    testEngine_scan, offCopied, driven]
  rfl

theorem selfTestStore_values (store : StateStore) (id : UInt16) :
    (selfTestStore store).intValues id =
      if id = inputId0 ∨ id = outputId0 then 0
      else store.intValues id := by
  have validInput : StateValidId inputId0 := by
    decide
  have validOutput : StateValidId outputId0 := by
    decide
  rw [selfTestStore]
  by_cases isOutput : id = outputId0
  · subst isOutput
    rw [if_pos (Or.inr rfl)]
    exact stateSetInt_same _ validOutput _
  · by_cases isInput : id = inputId0
    · subst isInput
      rw [if_pos (Or.inl rfl), stateSetInt_other _ _ isOutput]
      exact stateSetInt_same _ validInput _
    · rw [if_neg (by simp [isInput, isOutput])]
      simp only [stateSetInt_other _ _ isOutput, stateSetInt_other _ _ isInput]

/-! ## Transparency -/

/-- The call kept the program, the stored blob and every state. -/
structure Transparent
    (engine : LadderEngine) (store : StateStore) (blob : LadderBlob)
    (result : SelfTestResult) : Prop where
  program : result.engine.bytecode = engine.bytecode
  length : result.engine.bytecode.length = engine.bytecode.length
  hasProgram : result.engine.hasProgram = engine.hasProgram
  stored : result.blob = blob
  values :
    ∀ id, StateValidId id → result.store.intValues id = store.intValues id

/--
The writes to the stored blob during the self-test, in order: the loader
erases it and stores the test program, and without a program to put back the
engine erases it again.
-/
def selfTestWrites (engine : LadderEngine) (input : SelfTestInput) :
    List (NvsOutcome × LadderBlob) :=
  [(input.erased, none), (input.stored, some testProg)] ++
    if engine.hasProgram = true then [] else [(input.cleared, none)]

/--
The last write that reaches the flash, if any, writes what is there already.
-/
def BlobKept
    (engine : LadderEngine) (blob : LadderBlob) (input : SelfTestInput) :
    Prop :=
  ∀ write,
    ((selfTestWrites engine input).filter fun entry =>
      entry.1.lands).getLast? = some write → write.2 = blob

theorem foldl_nvsWrite
    (writes : List (NvsOutcome × LadderBlob)) (blob : LadderBlob) :
    writes.foldl (fun old write => nvsWrite write.1 old write.2) blob =
      (((writes.filter fun entry => entry.1.lands).getLast?).map
        Prod.snd).getD blob := by
  induction writes using List.reverseRecOn with
  | nil => rfl
  | append_singleton earlier write induction =>
      rw [List.foldl_append, List.filter_append]
      rw [List.filter_singleton]
      cases lands : write.1.lands with
      | true =>
          rw [cond_true]
          simp [lands, nvsWrite]
      | false =>
          rw [cond_false, List.append_nil, ← induction]
          simp [lands, nvsWrite]

theorem restoreProgram_program
    (saved current : LadderEngine) (blob : LadderBlob)
    (cleared : NvsOutcome) :
    (restoreProgram saved current blob cleared).1.bytecode = saved.bytecode ∧
    (restoreProgram saved current blob cleared).1.hasProgram =
      saved.hasProgram ∧
    (restoreProgram saved current blob cleared).2 =
      if saved.hasProgram = true then blob
      else nvsWrite cleared blob none := by
  rw [restoreProgram]
  by_cases has : saved.hasProgram = true
  · have nonempty := List.length_pos_iff.mpr (saved.loaded.mp has)
    rw [dif_pos ⟨has, nonempty⟩, if_pos has]
    exact ⟨rfl, has.symm, rfl⟩
  · have none : saved.bytecode = [] := by
      by_contra nonempty
      exact has (saved.loaded.mpr nonempty)
    rw [dif_neg (fun present => has present.1), if_neg has]
    exact ⟨none.symm, (Bool.not_eq_true _ ▸ has).symm, rfl⟩

theorem selfTest_blob
    (engine : LadderEngine) (store : StateStore) (blob : LadderBlob)
    (input : SelfTestInput) :
    (ladderEngineRunSelfTest engine store blob input).blob =
      (selfTestWrites engine input).foldl
        (fun old write => nvsWrite write.1 old write.2) blob := by
  rw [ladderEngineRunSelfTest_eq]
  change (restoreProgram _ _ _ _).2 = _
  rw [(restoreProgram_program _ _ _ _).2.2, selfTestWrites]
  by_cases has : engine.hasProgram = true
  · rw [if_pos has, if_pos has]
    rfl
  · rw [if_neg has, if_neg has]
    rfl

theorem selfTest_blob_kept_iff
    (engine : LadderEngine) (store : StateStore) (blob : LadderBlob)
    (input : SelfTestInput) :
    (ladderEngineRunSelfTest engine store blob input).blob = blob ↔
    BlobKept engine blob input := by
  rw [selfTest_blob, foldl_nvsWrite, BlobKept]
  cases last :
      ((selfTestWrites engine input).filter fun entry =>
        entry.1.lands).getLast? with
  | none => simp
  | some write => simp

/--
The self-test is transparent exactly when input 0 and output 0 are zero
before it and its last effective write to the stored blob changes nothing.
-/
theorem ladder_self_test_transparent_iff
    (engine : LadderEngine) (store : StateStore) (blob : LadderBlob)
    (input : SelfTestInput) :
    Transparent engine store blob
        (ladderEngineRunSelfTest engine store blob input) ↔
    store.intValues inputId0 = 0 ∧
    store.intValues outputId0 = 0 ∧ BlobKept engine blob input := by
  have left (id : UInt16) :
      (ladderEngineRunSelfTest engine store blob input).store.intValues id =
        if id = inputId0 ∨ id = outputId0 then 0
        else store.intValues id := by
    rw [ladderEngineRunSelfTest_eq]
    exact selfTestStore_values store id
  constructor
  · intro transparent
    have input0 := transparent.values inputId0 (by decide)
    have output0 := transparent.values outputId0 (by decide)
    rw [left, if_pos (Or.inl rfl)] at input0
    rw [left, if_pos (Or.inr rfl)] at output0
    exact
      ⟨input0.symm, output0.symm,
        (selfTest_blob_kept_iff _ _ _ _).mp transparent.stored⟩
  · rintro ⟨input0, output0, kept⟩
    have restored :=
      restoreProgram_program engine testEngine
        (nvsWrite input.stored (nvsWrite input.erased blob none)
          (some testProg)) input.cleared
    have program :
        (ladderEngineRunSelfTest engine store blob input).engine.bytecode =
          engine.bytecode := by
      rw [ladderEngineRunSelfTest_eq]
      exact restored.1
    refine ⟨program, congrArg List.length program, ?_, ?_, ?_⟩
    · rw [ladderEngineRunSelfTest_eq]
      exact restored.2.1
    · exact (selfTest_blob_kept_iff _ _ _ _).mpr kept
    · intro id _
      rw [left]
      split
      · rename_i driven
        rcases driven with rfl | rfl
        · exact input0.symm
        · exact output0.symm
      · rfl

/--
A loaded and stored program is replaced in the flash by the test program,
even from a state table of zeros.
-/
theorem ladder_self_test_overwrites_program :
    ¬ ∀ (engine : LadderEngine) (store : StateStore) (blob : LadderBlob)
        (input : SelfTestInput),
        Transparent engine store blob
          (ladderEngineRunSelfTest engine store blob input) := by
  intro transparent
  have stored :=
    (transparent (ladderEngineInit (some delayedOutput) true) stateInit
      (some delayedOutput)
      ⟨.committed, .committed, .committed, fun _ => 0⟩).stored
  rw [selfTest_blob] at stored
  revert stored
  decide +kernel

end Endap.Ladder
