import Understudy.Registry
import Understudy.Machine
import Understudy.Settings

/-!
# Components

A component answers questions about the application. The machine's own identity and
the sample identity answer every field out of facts they were built with. An overlay
answers some fields itself and hands every other question on to what it was put
over. Two plainer components declare whatever capabilities they are told to.

## Main definitions

* `Facts`: what an identity was built with.
* `Overlay`: an identity put over another one.
* `Component`: the five kinds of components.
* `Component.ofSettings`: the identity of the machine, by its settings.
-/

namespace Understudy

/-- What an identity was built with: an answer to every field, and further
attributes. -/
structure Facts where
  answer : Field → Value
  attributes : OrderedMap String Value

/-- The facts with the answer to one field replaced. -/
def Facts.setAnswer (facts : Facts) (field : Field) (v : Value) : Facts :=
  { facts with answer := fun f => if f = field then v else facts.answer f }

/-- An identity put over another one. What it overrides and what it falls back to are
fixed when it is built; only annotations are added to it later. -/
structure Overlay where
  overrides : OrderedMap Field Value
  fallback : Value
  annotations : Dict := .empty

/-- The kinds of components. -/
inductive Component where
  /-- The identity of the machine itself. -/
  | host (facts : Facts) (invalidated : Value)
  /-- A sample identity, which counts how often its caches were invalidated. -/
  | sample (facts : Facts) (invalidations : Value)
  /-- An identity put over another one. -/
  | overlay (layer : Overlay)
  /-- A component with given capabilities, kept under one serial number. -/
  | plain (serial : Nat) (capabilities : List Value)
  /-- The same, which moreover takes annotations, or fails to. -/
  | reporter (serial : Nat) (capabilities : List Value) (notes : Dict) (fails : Value)

instance : Inhabited Component := ⟨.plain 0 []⟩

namespace Component

/-- The name of a component's type. -/
def title : Component → String
  | .host _ _ => "HostAppInfo"
  | .sample _ _ => "FakeHostIdentity"
  | .overlay _ => "RuntimeIdentity"
  | .plain _ _ => "PlainComponent"
  | .reporter _ _ _ _ => "ReporterComponent"

/-- The capabilities an identity declares. -/
def identityCapabilities : List Capability := [.supports, .appInfo, .runtime]

/-- The capabilities a component declares. An overlay declares them all. The plainer
components declare whatever they were told to, and that may be anything. -/
def capabilities : Component → List Value
  | .host _ _ | .sample _ _ => identityCapabilities.map .capability
  | .overlay _ => Capability.all.map .capability
  | .plain _ declared | .reporter _ declared _ _ => declared

/-- The serial number of the capabilities of a component. An identity makes them anew
each time it is asked, while all overlays share theirs. -/
def capabilitiesSerial : Component → Nat
  | .host _ _ | .sample _ _ => 0
  | .overlay _ => overlaySerial
  | .plain serial _ | .reporter serial _ _ _ => serial
where
  /-- No other value has this serial number. -/
  overlaySerial : Nat := 1

/-- Whether a component takes annotations. Declaring the capability is not enough. -/
def takesNotes : Component → Bool
  | .overlay _ | .reporter _ _ _ _ => true
  | _ => false

/-- The identity of a machine with the given answers. Two of the fields are the
machine's own labels, of which that of the instruction set is handed over. -/
def ofMachine (machine : Machine) (abi : Value) (answer : Field → Value) : Component :=
  .host
    { answer := fun f =>
        match f with
        | .os => .ofText machine.osLabel
        | .abi => abi
        | f => answer f
      attributes := .ofList
        [("process_id", .ofInt machine.processId),
          ("python_implementation", .ofText machine.implementation),
          ("is_64_bit", .bool machine.wide)] }
    (.bool false)

/-- The setting that an answer of the machine's identity comes from. -/
def settingOf? : Field → Option Setting
  | .vendor => some .hostVendor
  | .name => some .hostName
  | .id => some .hostId
  | .version => some .hostVersion
  | .appBuildId => some .hostBuildId
  | .platformVersion => some .platformVersion
  | .platformBuildId => some .platformBuildId
  | _ => none

/-- The identity of the machine, by its settings. -/
def ofSettings (machine : Machine) (abi : Value) (value : Setting → Value) : Component :=
  ofMachine machine abi fun f =>
    match settingOf? f with
    | some s => value s
    | none => .bool false

/-- A sample identity with the given answers. -/
def sampleOf (answer : Field → Value) : Component :=
  .sample
    { answer := answer
      attributes := .ofList [("process_type", .ofText "default")] }
    (.ofInt 0)

/-- What the sample identity answers if it is told nothing else. -/
def sampleAnswer : Field → Value
  | .vendor => .ofText "Real Vendor"
  | .name => .ofText "Real Browser"
  | .id => .ofText "real@host"
  | .version => .ofText "42.0"
  | .appBuildId => .ofText "20240101000000"
  | .platformVersion => .ofText "42.0"
  | .platformBuildId => .ofText "20240101000001"
  | .inSafeMode => .bool true
  | .logConsoleErrors => .bool false
  | .os => .ofText "RealOS"
  | .abi => .ofText "x86_64-real"

end Component

/-! ## Stand-in identities

A stand-in is an overlay that overrides everything but the vendor. What it is asked
to be goes into four fields; the others have the same values for every stand-in.
-/

/-- The build stamp of every stand-in. -/
def standInBuild : String := "2007010101"

/-- The operating system of every stand-in. -/
def standInOs : String := "XPCShell"

/-- The instruction set of every stand-in. -/
def standInAbi : String := "noarch-spidermonkey"

/-- The overlay that stands in for an identity. -/
def Overlay.standIn (id name version platformVersion fallback : Value) : Overlay where
  overrides := .ofList
    [(.name, name), (.id, id), (.version, version), (.appBuildId, .ofText standInBuild),
      (.platformVersion, platformVersion), (.platformBuildId, .ofText standInBuild),
      (.inSafeMode, .bool false), (.logConsoleErrors, .bool true), (.os, .ofText standInOs),
      (.abi, .ofText standInAbi)]
  fallback := fallback

/-! ## Providers -/

/-- What a registry entry serves a contract with. -/
inductive Provider where
  /-- Hands out the identity of the machine. -/
  | host (identity : Value)
  /-- Hands out an overlay. -/
  | overlay (identity : Value)
  /-- Hands out a sample identity and counts how often it was asked. -/
  | counted (identity calls : Value)
  /-- Hands out any component, after failing a number of times. -/
  | flaky (component calls failures : Value)

instance : Inhabited Provider := ⟨.host .none⟩

namespace Provider

/-- The name of a provider's type. -/
def title : Provider → String
  | .host _ => "HostAppInfoFactory"
  | .overlay _ => "RuntimeIdentityFactory"
  | .counted _ _ => "FakeIdentityFactory"
  | .flaky _ _ _ => "PlainFactory"

/-- The component a provider hands out. -/
def component : Provider → Value
  | .host v | .overlay v | .counted v _ | .flaky v _ _ => v

/-- How often a provider was asked, if it counts. -/
def calls? : Provider → Option Value
  | .counted _ calls | .flaky _ calls _ => some calls
  | _ => none

/-- A provider with another count. -/
def withCalls (calls : Value) : Provider → Provider
  | .counted v _ => .counted v calls
  | .flaky v _ failures => .flaky v calls failures
  | p => p

end Provider

end Understudy
