/-
**The commands for the guest agent** (`internal/core/execution_engine.go`): what the engine puts
into `load_driver`, `verify_device` and `start_test` commands.

A suite whose id starts with `vishwa/` runs under its own loader: its commands name the loader, the
library directory and the directory of the binary, and the environment of the device is merged over
the variable that every test gets.  The parameters of a command are a map in the source; here they
are the list of its entries.

Main definitions:

* `Dvf.isVishwaSuite`, `Dvf.splitPath` — suite ids;
* `Dvf.loadCommand`, `Dvf.verifyCommand`, `Dvf.stepCommand` — the commands;
* `Dvf.deviceSupportsQEMU` — devices that can be tested in a virtual machine.
-/

import Dvf.Types

set_option autoImplicit false

namespace Dvf

/-! ### Suite ids -/

/-- `isVishwaSuite`: the suite id is longer than `vishwa/` and starts with it. -/
def isVishwaSuite (suiteID : String) : Bool :=
  7 < suiteID.toList.length && suiteID.toList.take 7 = "vishwa/".toList

/-- The loop of `splitPath` over the rest of the path, with the segment read so far, reversed. -/
def splitPathLoop : List Char → List Char → List String
  | [], seg => if seg.isEmpty then [] else [String.ofList seg.reverse]
  | c :: cs, seg =>
      if c = '/' then
        if seg.isEmpty then splitPathLoop cs []
        else String.ofList seg.reverse :: splitPathLoop cs []
      else splitPathLoop cs (c :: seg)

/-- `splitPath`: the segments of a slash-separated path. -/
def splitPath (p : String) : List String := splitPathLoop p.toList []

/-- The part of a suite id after `vishwa/`. -/
def suitePath (suiteID : String) : String := String.ofList (suiteID.toList.drop 7)

/-- The last segment of a suite path.  The source indexes the list of segments; the path of a suite
that was loaded has one. -/
def binaryName (suiteID : String) : String := (splitPath (suitePath suiteID)).getLastD ""

/-- A setting of the device, or its default when it is empty. -/
def orDefault (value dflt : String) : String := if value = "" then dflt else value

def vishwaTestDir (device : DeviceEntry) : String :=
  orDefault device.vishwaTestDir "/mnt/share/vishwa_tests"

def vishwaLibDir (device : DeviceEntry) : String :=
  orDefault device.vishwaLibDir "/mnt/share/vishwa_tests/lib"

def vishwaLoader (device : DeviceEntry) : String :=
  orDefault device.vishwaLoader "/mnt/share/vishwa_tests/lib/ld-linux-x86-64.so.2"

/-! ### Commands -/

/-- The command that loads the driver. -/
def loadCommand (run : TestRun) (device : DeviceEntry) : AgentCommand where
  id := "cmd-load-" ++ run.id
  type := "load_driver"
  parameters :=
    [("ko_path", .text device.driverPath), ("module_name", .text device.driverModule)]

/-- The command that checks the device node. -/
def verifyCommand (run : TestRun) (device : DeviceEntry) : AgentCommand where
  id := "cmd-verify-" ++ run.id
  type := "verify_device"
  parameters := [("device_node", .text device.deviceNode)]

def baseEnv (device : DeviceEntry) : List (String × String) :=
  [("DVF_DEVICE_PATH", device.deviceNode)]

/-- The environment of a device merged over the base environment. -/
def vishwaStepEnv (device : DeviceEntry) : List (String × String) :=
  ((baseEnv device).filter fun kv => device.vishwaEnv.all fun kv' => kv'.1 ≠ kv.1) ++
    device.vishwaEnv

/-- The parameters that only the commands of a `vishwa/` suite have. -/
def vishwaParameters (run : TestRun) (device : DeviceEntry) : List (String × ParamValue) :=
  [("loader", .text (vishwaLoader device)), ("lib_dir", .text (vishwaLibDir device)),
    ("binary_dir", .text (vishwaTestDir device ++ "/" ++ suitePath run.testSuiteID)),
    ("binary_name", .text (binaryName run.testSuiteID))]

/-- The command for one attempt of a step. -/
def stepCommand (run : TestRun) (device : DeviceEntry) (d : WorkflowStep) (attempt : ℕ) :
    AgentCommand where
  id := "cmd-step-" ++ run.id ++ "-" ++ d.id ++ "-" ++ toString attempt
  type := "start_test"
  parameters :=
    [("binary", .text d.testBinary), ("timeout", .text (toString d.timeoutSec)),
      ("suite_name", .text run.testSuiteID),
      ("env", .env (if isVishwaSuite run.testSuiteID then vishwaStepEnv device
        else baseEnv device))] ++
    (if d.args.isEmpty then [] else [("args", .list d.args)]) ++
    (if isVishwaSuite run.testSuiteID then vishwaParameters run device else [])

/-! ### Devices -/

/-- `deviceSupportsQEMU`: no modes are declared, or `qemu` is among them. -/
def deviceSupportsQEMU (targetModes : List String) : Bool :=
  targetModes.isEmpty || targetModes.contains "qemu"

end Dvf
