import FidoOnboard.DataFormats.Platform

/-! Service info of `data-formats/src/types.rs` and its module names. -/
namespace FidoOnboard

inductive StandardServiceInfoModule where
  | devMod
  deriving DecidableEq, Repr

inductive FedoraIotServiceInfoModule where
  | command
  | sshKey
  | binaryFile
  | diskEncryptionClevis
  | reboot
  deriving DecidableEq, Repr

inductive RedHatComServiceInfoModule where
  | subscriptionManager
  deriving DecidableEq, Repr

inductive ServiceInfoModule where
  | standard (module : StandardServiceInfoModule)
  | fedoraIot (module : FedoraIotServiceInfoModule)
  | redHatCom (module : RedHatComServiceInfoModule)
  | unsupported (name : String)
  deriving DecidableEq, Repr

namespace ServiceInfoModule

def toString : ServiceInfoModule → String
  | .standard .devMod => "devmod"
  | .fedoraIot .command => "org.fedoraiot.command"
  | .fedoraIot .sshKey => "org.fedoraiot.sshkey"
  | .fedoraIot .binaryFile => "org.fedoraiot.binaryfile"
  | .fedoraIot .diskEncryptionClevis => "org.fedoraiot.diskencryption-clevis"
  | .fedoraIot .reboot => "org.fedoraiot.reboot"
  | .redHatCom .subscriptionManager => "com.redhat.subscriptionmanager"
  | .unsupported name => name

def fromStr (s : String) : ServiceInfoModule :=
  match s with
  | "org.fedoraiot.binaryfile" => .fedoraIot .binaryFile
  | "org.fedoraiot.command" => .fedoraIot .command
  | "org.fedoraiot.sshkey" => .fedoraIot .sshKey
  | "org.fedoraiot.diskencryption-clevis" => .fedoraIot .diskEncryptionClevis
  | "org.fedoraiot.reboot" => .fedoraIot .reboot
  | "com.redhat.subscriptionmanager" => .redHatCom .subscriptionManager
  | "devmod" => .standard .devMod
  | other => .unsupported other

theorem toString_fromStr (s : String) : (fromStr s).toString = s := by
  unfold fromStr
  split <;> rfl

theorem fromStr_injective : Function.Injective fromStr :=
  Function.LeftInverse.injective toString_fromStr

end ServiceInfoModule

abbrev ServiceInfo := List (String × Bytes)

namespace ServiceInfo

/-- `add` of a value that `intoWriter` may refuse. -/
def add (info : ServiceInfo) (module : ServiceInfoModule) (key : String) (value : Option Bytes) :
    Outcome Error ServiceInfo := do
  let value ← .ofOption .ciboriumSerError value
  .ok (info ++ [(module.toString ++ ":" ++ key, value)])

/-- Module and key around the first colon. -/
def splitKey (moduleKey : String) : Option (ServiceInfoModule × String) :=
  match moduleKey.toList.span (· ≠ ':') with
  | (_, []) => none
  | (module, _ :: key) => some (.fromStr (String.ofList module), String.ofList key)

/-- What a `for` over `iter()` sees: everything before the first entry that cannot be read. -/
def iter (P : Platform) : ServiceInfo → List (ServiceInfoModule × String × P.Value)
  | [] => []
  | (moduleKey, val) :: rest =>
    match splitKey moduleKey, P.valueFromSlice val with
    | some (module, key), some value => (module, key, value) :: iter P rest
    | _, _ => []

/-- `values()`: the key keeps the colon it was split at. -/
def values (P : Platform) : ServiceInfo → Outcome Error (List (String × String × P.Value))
  | [] => .ok []
  | (k, v) :: rest =>
    match k.toList.span (· ≠ ':') with
    | (_, []) => .err (.inconsistentValue "ServiceInfo key missing module separation")
    | (module, key) => do
      let value ← .ofOption .serdeCborError (P.valueFromSlice v)
      let rest ← values P rest
      .ok ((String.ofList module, String.ofList key, value) :: rest)

end ServiceInfo
end FidoOnboard
