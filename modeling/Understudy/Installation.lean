import Understudy.Services

/-!
# Installing stand-in identities

An installer puts a stand-in identity under a contract of a registry. The service
that was there is captured first, once for all installers of that registry, so that
every stand-in falls back to the same service and never to another stand-in.

## Main definitions

* `appInfoContract`, `appInfoClass`: the contract and the class of the application's
  identity.
* `buildStandIn`: a stand-in over a component.
* `install`, `restore`: putting a stand-in under the contract, and the captured entry
  back.
-/

namespace Understudy

/-- The logger of the installers. -/
def identityLogger : String := "hostshim.core.identity"

/-- The contract of the application's identity. -/
def appInfoContract : String := "@mozilla.org/xre/app-info;1"

/-- The class that serves it. -/
def appInfoClass : String := "\x7bc763b610-9d49-455a-bbd2-ede71682a1ac\x7d"

/-- The description of a stand-in's registration. -/
def standInDescription : String := "XULAppInfo"

/-- A new stand-in over another value. -/
def buildStandIn (id name version platformVersion fallback : Value) : Action (Ref .component) :=
  store .component (.overlay (.standIn id name version platformVersion fallback))

/-- The service that the installer's contract was captured with. It is captured now if
it was not before. -/
def captureOriginal (call : Caller) (i : Ref .installer) : Action Value := do
  let installer ← fetch i
  let capability := Value.capability .runtime
  let capture ←
    request call installer.registry .captureOnce [installer.contractId, capability] fun r =>
      captureOnce call r installer.contractId capability
  return (← unpackPair capture).2

/-- Registers a provider in a registry. -/
def askToRegister (call : Caller) (registry classId description contractId provider : Value) :
    Action Unit := do
  let _ ← request call registry .registerFactory [classId, description, contractId, provider]
    fun r => register call r classId description contractId provider

/-- Installs a stand-in. If the registration is refused, the capture that came before
it stays. -/
def install (call : Caller) (i : Ref .installer) (id name version platformVersion : Value) :
    Action Value := do
  enter i.object
  let fallback ← request call (.ofRef i) .captureOriginal [] (captureOriginal call)
  let identity ← buildStandIn id name version platformVersion fallback
  let provider ← store .provider (.overlay (.ofRef identity))
  let installer ← fetch i
  askToRegister call installer.registry installer.classId (.ofText standInDescription)
    installer.contractId (.ofRef provider)
  update i fun installer => { installer with current := .ofRef identity }
  debug identityLogger
    ("Installed test identity " ++ (← shown id) ++ " " ++ (← shown version) ++ " (platform " ++
      (← shown platformVersion) ++ ")")
  return .ofRef identity

/-- Registers the captured entry anew. Without a capture there is nothing to do. -/
def restore (call : Caller) (i : Ref .installer) : Action Unit := do
  enter i.object
  let installer ← fetch i
  let capture ← request call installer.registry .captured [installer.contractId] fun r =>
    captured call r installer.contractId
  if !capture.isNone then
    let entry ← subscript capture (.ofInt 0)
    let classId ← readAttribute call entry "class_id"
    let description ← readAttribute call entry "description"
    let contractId ← readAttribute call entry "contract_id"
    let provider ← readAttribute call entry "factory"
    askToRegister call installer.registry classId description contractId provider
    update i fun installer => { installer with current := .none }

end Understudy
