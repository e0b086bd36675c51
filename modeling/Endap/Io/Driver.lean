import Endap.Cluster.Io
import Endap.Failsafe.Policy
import Endap.Io.Binding
import Endap.Library.BitMask
import Endap.Library.Run

/-!
# The I/O driver

The driver gives the outputs of the state table to the pins.  A write of the
table does not touch a pin; it raises the flag of its output in a mask, and
the next update writes the pins of the outputs whose flag is raised, or whose
ownership has changed since the last update.  An output that another node owns
is switched off.

Between updates a pin therefore stands for the value that its output had when
its flag was last clear and for the ownership that the last update found.
This is the invariant that every write, every change of ownership and every
update keeps, provided no pin is used twice.
-/

namespace Endap.Io

open Endap.Cluster
open Endap.Device
open Endap.Failsafe
open Endap.Library
open Endap.State

/-! ## The driver -/

def ioDriverMaxOutputs : Nat := 16

def ioDriverMaxInputs : Nat := 16

structure OutputChannel where
  id : UInt16
  gpio : Int
  activeLow : Bool
deriving DecidableEq

/-- The fields of `input_channel_t` that the boot decides on. -/
structure InputChannel where
  id : UInt16
  gpio : Int
  backend : ChannelBackend

/-- `io_driver_load_profile`, the outputs. -/
def ioDriverLoadOutputs (bindings : IoBindings) : List OutputChannel :=
  ((ioBindingExportOutputs bindings).filterMap fun binding =>
    (deviceProfileFindOutput binding.id).map fun cfg =>
      { id := cfg.id
        gpio := binding.gpio
        activeLow := cfg.activeLow }).take ioDriverMaxOutputs

/-- `io_driver_load_profile`, the inputs. -/
def ioDriverLoadInputs (bindings : IoBindings) : List InputChannel :=
  ((ioBindingExportInputs bindings).filterMap fun binding =>
    (deviceProfileFindInput binding.id).map fun cfg =>
      { id := cfg.id
        gpio := binding.gpio
        backend := binding.backend }).take ioDriverMaxInputs

/-- A pin: whether it is an output, and the level it is set to. -/
structure Pin where
  driven : Bool
  level : Bool
deriving DecidableEq

def gpioSetLevel (pins : Int → Pin) (gpio : Int) (level : Bool) : Int → Pin :=
  Function.update pins gpio { pins gpio with level := level }

/-- `gpio_config` with the direction of the pin. -/
def gpioConfig (pins : Int → Pin) (gpio : Int) (driven : Bool) : Int → Pin :=
  Function.update pins gpio { pins gpio with driven := driven }

def ioDriverOutputGpioLevel (channel : OutputChannel) (logicalOn : Bool) :
    Bool :=
  if channel.activeLow then !logicalOn else logicalOn

/-- The static state of `io_driver.c`, with what it reads and writes. -/
structure IoWorld where
  outputTable : List OutputChannel
  pendingMask : BitVec 32
  localMask : BitVec 32
  store : StateStore
  io : ClusterIo
  pins : Int → Pin

/-- `state_output_changed`: the flag of the first channel with the id. -/
def stateOutputChanged (world : IoWorld) (id : UInt16) : IoWorld :=
  match world.outputTable.findIdx? fun channel => channel.id = id with
  | none => world
  | some index =>
      { world with pendingMask := BitMask.set world.pendingMask index }

/-- `state_set_int` with the hook of the driver. -/
def IoWorld.stateSetInt (world : IoWorld) (id : UInt16) (value : Int32) :
    IoWorld :=
  let written := { world with store := State.stateSetInt world.store id value }
  if StateValidId id ∧ world.store.intValues id ≠ value then
    stateOutputChanged written id
  else written

/-- `cluster_io_is_local` for a channel. -/
def IoWorld.isLocal (world : IoWorld) (channel : OutputChannel) : Bool :=
  clusterIoIsLocal world.io channel.id.toUInt32

/-- The masks that `io_driver_update` works on. -/
structure UpdateMasks where
  pending : BitVec 32
  owned : BitVec 32
  mask : BitVec 32

/-- One round of the first loop of `io_driver_update`. -/
def noteLocality (world : IoWorld) (masks : UpdateMasks)
    (position : OutputChannel × Nat) : UpdateMasks :=
  let isLocal := world.isLocal position.1
  if isLocal = masks.owned.getLsbD position.2 then masks
  else
    { pending := BitMask.set masks.pending position.2
      owned :=
        if isLocal then BitMask.set masks.owned position.2
        else BitMask.clear masks.owned position.2
      mask := BitMask.set masks.mask position.2 }

/-- The pin of a channel is written when it has one. -/
def writeLevel (pins : Int → Pin) (channel : OutputChannel)
    (logicalOn : Bool) : Int → Pin :=
  if channel.gpio ≠ gpioNumNc ∧ 0 ≤ channel.gpio then
    gpioSetLevel pins channel.gpio (ioDriverOutputGpioLevel channel logicalOn)
  else pins

/-- The pins after `io_driver_update` applied one channel. -/
def applyOutput (world : IoWorld) (pins : Int → Pin)
    (channel : OutputChannel) : Int → Pin :=
  if world.isLocal channel = false then writeLevel pins channel false
  else
    match stateGetInt world.store channel.id with
    | none => pins
    | some value => writeLevel pins channel (value ≠ 0)

/-- One round of the second loop of `io_driver_update`. -/
def applyPosition (world : IoWorld) (mask : BitVec 32)
    (reached : (Int → Pin) × BitVec 32) (position : OutputChannel × Nat) :
    (Int → Pin) × BitVec 32 :=
  if mask.getLsbD position.2 then
    (applyOutput world reached.1 position.1, BitMask.clear reached.2 position.2)
  else reached

def ioDriverUpdate (world : IoWorld) : IoWorld :=
  if world.outputTable.length = 0 then world
  else
    let masks :=
      world.outputTable.zipIdx.foldl (noteLocality world)
        { pending := world.pendingMask
          owned := world.localMask
          mask := world.pendingMask }
    if masks.mask = 0 then
      { world with pendingMask := masks.pending, localMask := masks.owned }
    else
      let reached :=
        world.outputTable.zipIdx.foldl (applyPosition world masks.mask)
          (world.pins, masks.pending)
      { world with
        pendingMask := reached.2
        localMask := masks.owned
        pins := reached.1 }

/-! ## Boot -/

/-- What `io_driver_init` finds at an input: whether the converter could be
set up for it, and its first value. -/
structure InputReading where
  adcReady : Bool
  value : Int32

/-- The locals of `io_driver_init`, with the pins and the policies. -/
structure IoBoot where
  pins : Int → Pin
  shadow : UInt16 → Int32
  failsafe : FailsafeTable
  localMask : BitVec 32

def ioDriverStateShadowAssign (shadow : UInt16 → Int32) (id : UInt16)
    (value : Int32) : UInt16 → Int32 :=
  if StateValidId id then Function.update shadow id value else shadow

/-- One round of the loop of `io_driver_init` over the outputs. -/
def bootOutput (store : StateStore) (boot : IoBoot)
    (position : OutputChannel × Nat) : IoBoot :=
  let channel := position.1
  if channel.gpio = gpioNumNc then
    { boot with
      shadow := ioDriverStateShadowAssign boot.shadow channel.id 0 }
  else
    let startup :=
      failsafeStartupValue boot.failsafe channel.id
        (stateValue store channel.id)
    let bootValue :=
      match startup.1 with
      | none => 0
      | some result => result.value
    { pins :=
        gpioSetLevel (gpioConfig boot.pins channel.gpio true) channel.gpio
          (ioDriverOutputGpioLevel channel (bootValue ≠ 0))
      shadow := ioDriverStateShadowAssign boot.shadow channel.id bootValue
      failsafe := startup.2
      localMask := BitMask.set boot.localMask position.2 }

/-- One round of the loop of `io_driver_init` over the inputs. -/
def bootInput (boot : IoBoot) (input : InputChannel × InputReading) :
    IoBoot :=
  if input.1.backend = .adcNative then
    { boot with
      pins :=
        if input.2.adcReady then gpioConfig boot.pins input.1.gpio false
        else boot.pins
      shadow := ioDriverStateShadowAssign boot.shadow input.1.id input.2.value }
  else if input.1.gpio = gpioNumNc then
    { boot with
      shadow := ioDriverStateShadowAssign boot.shadow input.1.id 0 }
  else
    { boot with
      pins := gpioConfig boot.pins input.1.gpio false
      shadow := ioDriverStateShadowAssign boot.shadow input.1.id input.2.value }

/-- What the device finds when the driver is started. -/
structure IoPower where
  store : StateStore
  io : ClusterIo
  pins : Int → Pin
  failsafe : FailsafeTable
  reading : InputChannel → InputReading

/-- The two loops of `io_driver_init`. -/
def ioDriverBoot (bindings : IoBindings) (power : IoPower) : IoBoot :=
  let outputs :=
    (ioDriverLoadOutputs bindings).zipIdx.foldl (bootOutput power.store)
      { pins := power.pins
        shadow := power.store.intValues
        failsafe := power.failsafe
        localMask := 0 }
  ((ioDriverLoadInputs bindings).map fun input =>
    (input, power.reading input)).foldl bootInput outputs

/-- `io_driver_init`; the shadow is imported silently. -/
def ioDriverInit (bindings : IoBindings) (power : IoPower) : IoWorld :=
  let boot := ioDriverBoot bindings power
  { outputTable := ioDriverLoadOutputs bindings
    pendingMask := 0
    localMask := boot.localMask
    store :=
      { power.store with
        intValues := boot.shadow
        dirtyFlags := fun _ => false }
    io := power.io
    pins := boot.pins }

/-! ## Runs -/

/-- What happens to the driver after its start. -/
inductive IoAction where
  | stateSetInt (id : UInt16) (value : Int32)
  | ownership (io : ClusterIo)
  | ioDriverUpdate

/-- One step of the system. -/
def IoWorld.step (world : IoWorld) : IoAction → IoWorld × Unit
  | .stateSetInt id value => (world.stateSetInt id value, ())
  | .ownership io => ({ world with io := io }, ())
  | .ioDriverUpdate => (ioDriverUpdate world, ())

end Endap.Io
