import FidoOnboard.DataFormats.Reference
import FidoOnboard.DataFormats.RendezvousInfo

/-!
# `load_rendezvous_info`

The rendezvous directives of the manufacturing server's configuration, as they
are accepted there and as the device and the owner read them later.
-/
namespace FidoOnboard.RendezvousConfiguration
open RendezvousInterpretedDirective

/-- `BTreeMap<String, Value>`, in the order of its keys. -/
abbrev YamlMap :=
  { entries : List (List Char × YamlValue) // entries.Pairwise fun a b => a.1 < b.1 }

/-- The contexts of `load_rendezvous_info` around the errors they wrap. -/
inductive LoadError where
  | parsingKey (key : List Char) (error : VariableError)
  | yaml (message : String)
  | parsingValue (key : RendezvousVariable) (error : VariableError)
  | serializing (error : Error)

def loadEntry (ipFromStr : List Char → Option IpAddr) (entry : List Char × YamlValue) :
    Outcome LoadError (RendezvousVariable × CborValue) := do
  let key ← (RendezvousVariable.fromStr entry.1).mapErr (LoadError.parsingKey entry.1)
  let val ← (yamlToCbor entry.2).mapErr LoadError.yaml
  let val ← (key.valueFromHumanToMachine ipFromStr val).mapErr (LoadError.parsingValue key)
  .ok (key, val)

def loadEntries (ipFromStr : List Char → Option IpAddr) :
    List (List Char × YamlValue) → Outcome LoadError (List (RendezvousVariable × CborValue))
  | [] => .ok []
  | entry :: entries => do
    let entry ← loadEntry ipFromStr entry
    let entries ← loadEntries ipFromStr entries
    .ok (entry :: entries)

def loadMaps (ipFromStr : List Char → Option IpAddr) :
    List YamlMap → Outcome LoadError (List (List (RendezvousVariable × CborValue)))
  | [] => .ok []
  | rv :: rvs => do
    let entry ← loadEntries ipFromStr rv.1
    let info ← loadMaps ipFromStr rvs
    .ok (entry :: info)

def loadRendezvousInfo (codec : Codec CborValue) (ipFromStr : List Char → Option IpAddr) (rvs : List YamlMap) :
    Outcome LoadError RendezvousInfo := do
  let info ← loadMaps ipFromStr rvs
  (RendezvousInfo.new codec info).mapErr LoadError.serializing

/-! ## What is configured -/

/-- The meaning of one line of a map. -/
inductive Setting where
  | onlyFor (side : RendezvousInterpreterSide)
  | bypass
  | userInput
  | port (side : RendezvousInterpreterSide) (number : Int)
  | dns (name : List Char)
  | ipAddress (address : IpAddr)
  | protocol (protocol : RendezvousProtocolValue)
  | delay (seconds : Int)
  | wifiSsid (ssid : List Char)
  | wifiPassword (password : List Char)

section

variable (ipFromStr : List Char → Option IpAddr)

/-- A line read as it is written: the variable its key names, and its value. -/
def settingOf (entry : List Char × YamlValue) : Option Setting :=
  match RendezvousVariable.fromStr entry.1 with
  | .ok .deviceOnly => some (.onlyFor .device)
  | .ok .ownerOnly => some (.onlyFor .owner)
  | .ok .bypass => some .bypass
  | .ok .userInput => some .userInput
  | .ok .devicePort => entry.2.asInteger.map (.port .device)
  | .ok .ownerPort => entry.2.asInteger.map (.port .owner)
  | .ok .delaysec => entry.2.asInteger.map .delay
  | .ok .dns => entry.2.asText.map .dns
  | .ok .wifiSsid => entry.2.asText.map .wifiSsid
  | .ok .wifiPw => entry.2.asText.map .wifiPassword
  | .ok .ipAddress => (entry.2.asText.bind ipFromStr).map .ipAddress
  | .ok .protocol =>
    match entry.2.asText.map RendezvousProtocolValue.fromStr with
    | some (.ok protocol) => some (.protocol protocol)
    | _ => none
  | _ => none

def settings (rv : YamlMap) : List Setting := rv.1.filterMap (settingOf ipFromStr)

end

namespace Setting

/-- The side for which the whole map is not. -/
def restricts (side : RendezvousInterpreterSide) : Setting → Bool
  | .onlyFor side' => side != side'
  | .bypass => side == .owner
  | _ => false

/-- A number that the side decodes as a `u32`. -/
def inRange (side : RendezvousInterpreterSide) : Setting → Bool
  | .port side' n => side != side' || decide (0 ≤ n ∧ n < 2 ^ 32)
  | .delay n => decide (0 ≤ n ∧ n < 2 ^ 32)
  | _ => true

/-- How the line is written into the directive. -/
def machine : Setting → RendezvousVariable × CborValue
  | .onlyFor .device => (.deviceOnly, .null)
  | .onlyFor .owner => (.ownerOnly, .null)
  | .bypass => (.bypass, .null)
  | .userInput => (.userInput, .null)
  | .port .device n => (.devicePort, .integer n)
  | .port .owner n => (.ownerPort, .integer n)
  | .dns name => (.dns, .text name)
  | .ipAddress address => (.ipAddress, .bytes address.octets)
  | .protocol p => (.protocol, .integer p.toU8)
  | .delay n => (.delaysec, .integer n)
  | .wifiSsid ssid => (.wifiSsid, .text ssid)
  | .wifiPassword password => (.wifiPw, .text password)

/-- What the line does to the draft of a side that can read it. -/
def apply (side : RendezvousInterpreterSide) (draft : Draft) : Setting → Draft
  | .onlyFor _ => draft
  | .bypass => { draft with bypass := true }
  | .userInput => if side = .device then { draft with userInput := true } else draft
  | .port side' n => if side = side' then { draft with port := some n.toNat } else draft
  | .dns name => { draft with dnsName := some name }
  | .ipAddress address => { draft with ipAddresses := draft.ipAddresses ++ [address] }
  | .protocol p => { draft with protocol := p }
  | .delay n => { draft with delay := n.toNat }
  | .wifiSsid ssid => if side = .device then { draft with wifiSsid := some ssid } else draft
  | .wifiPassword password => if side = .device then { draft with wifiPassword := some password } else draft

def address? : Setting → Option IpAddr
  | .ipAddress address => some address
  | _ => none

end Setting

/-- A directive that says what was configured. -/
structure Serves (side : RendezvousInterpreterSide) (configured : List Setting)
    (directive : RendezvousInterpretedDirective) : Prop where
  dnsName : ∀ name, .dns name ∈ configured ↔ directive.dnsName = some name
  ipAddresses : directive.ipAddresses.getD [] = configured.filterMap Setting.address?
  protocol : ∀ p, .protocol p ∈ configured → directive.protocol = p
  noProtocol : (∀ p, .protocol p ∉ configured) → directive.protocol = .tls
  delay : ∀ n, .delay n ∈ configured → (directive.delay : Int) = n
  noDelay : (∀ n, .delay n ∉ configured) → directive.delay = 0
  port : ∀ n, .port side n ∈ configured → (directive.port : Int) = n
  defaultPort : (∀ n, .port side n ∉ configured) → directive.protocol.defaultPort = some directive.port

def Restricted (side : RendezvousInterpreterSide) (configured : List Setting) : Prop :=
  ∃ s ∈ configured, s.restricts side = true

instance (side : RendezvousInterpreterSide) (configured : List Setting) :
    Decidable (Restricted side configured) := inferInstanceAs (Decidable (∃ s ∈ configured, _))

theorem restricted_cons {side : RendezvousInterpreterSide} {s : Setting} {configured : List Setting} :
    Restricted side (s :: configured) ↔ s.restricts side = true ∨ Restricted side configured := by
  simp [Restricted]

/-- Both sides get one directive for every map that is not restricted to the other one, in
order, and it says what the map does. -/
def Usable (codec : Codec CborValue) (ipFromStr : List Char → Option IpAddr) (rvs : List YamlMap)
    (info : RendezvousInfo) : Prop :=
  ∀ side, ∃ directives, info.toInterpreted codec side = .ok directives ∧
    List.Forall₂ (Serves side)
      ((rvs.map (settings ipFromStr)).filter fun configured => !decide (Restricted side configured)) directives

/-! ## When it can be used -/

/-- Everything in front of the line that sends the side away can be decoded. -/
def Decodes (side : RendezvousInterpreterSide) : List Setting → Prop
  | [] => True
  | s :: rest => s.restricts side = true ∨ s.inRange side = true ∧ Decodes side rest

instance decidableDecodes (side : RendezvousInterpreterSide) : ∀ configured, Decidable (Decodes side configured)
  | [] => isTrue trivial
  | s :: rest =>
    have := decidableDecodes side rest
    inferInstanceAs (Decidable (s.restricts side = true ∨ s.inRange side = true ∧ Decodes side rest))

/-- What the side is to use is said once. -/
structure Single (side : RendezvousInterpreterSide) (configured : List Setting) : Prop where
  dns : ∀ a b, .dns a ∈ configured → .dns b ∈ configured → a = b
  protocol : ∀ a b, .protocol a ∈ configured → .protocol b ∈ configured → a = b
  delay : ∀ a b, .delay a ∈ configured → .delay b ∈ configured → a = b
  port : ∀ a b, .port side a ∈ configured → .port side b ∈ configured → a = b

/-- There is a port, or the protocol has one. -/
def Ported (side : RendezvousInterpreterSide) (configured : List Setting) : Prop :=
  (∃ n, .port side n ∈ configured) ∨ ∃ p, .protocol p ∈ configured ∧ p.defaultPort.isSome = true

structure Sound (side : RendezvousInterpreterSide) (configured : List Setting) : Prop where
  decodes : Decodes side configured
  single : ¬ Restricted side configured → Single side configured
  ported : ¬ Restricted side configured → Ported side configured

/-! ## Loading -/

section

variable {codec : Codec CborValue} {ipFromStr : List Char → Option IpAddr}

/-- An accepted line has a meaning, and is written as that. -/
theorem loadEntry_setting {entry : List Char × YamlValue} {m : RendezvousVariable × CborValue}
    (h : loadEntry ipFromStr entry = .ok m) :
    ∃ setting, settingOf ipFromStr entry = some setting ∧ setting.machine = m := by
  obtain ⟨key, hkey, h₁⟩ := Outcome.bind_eq_ok.mp h
  obtain ⟨val, hval, h₂⟩ := Outcome.bind_eq_ok.mp h₁
  obtain ⟨val', hval', hm⟩ := Outcome.bind_eq_ok.mp h₂
  rw [Outcome.mapErr_eq_ok] at hkey hval hval'
  obtain rfl := Outcome.ok.inj hm
  have hinteger : (key = .devicePort ∨ key = .ownerPort ∨ key = .delaysec) →
      ∃ n, entry.2.asInteger = some n ∧ val' = .integer n := by
    intro hkind
    obtain ⟨n, rfl, hn⟩ := RendezvousVariable.value_integer hkind hval'
    exact ⟨n, yamlToCbor_integer hval, hn⟩
  have htext : (key = .dns ∨ key = .wifiSsid ∨ key = .wifiPw) →
      ∃ t, entry.2.asText = some t ∧ val' = .text t := by
    intro hkind
    obtain ⟨t, rfl, ht⟩ := RendezvousVariable.value_text hkind hval'
    exact ⟨t, yamlToCbor_text hval, ht⟩
  unfold settingOf
  rw [hkey]
  cases key with
  | deviceOnly => exact ⟨.onlyFor .device, rfl, by rw [← Outcome.ok.inj hval']; rfl⟩
  | ownerOnly => exact ⟨.onlyFor .owner, rfl, by rw [← Outcome.ok.inj hval']; rfl⟩
  | bypass => exact ⟨.bypass, rfl, by rw [← Outcome.ok.inj hval']; rfl⟩
  | userInput => exact ⟨.userInput, rfl, by rw [← Outcome.ok.inj hval']; rfl⟩
  | devicePort =>
      obtain ⟨n, hn, rfl⟩ := hinteger (by simp)
      exact ⟨.port .device n, by simp [hn], rfl⟩
  | ownerPort =>
      obtain ⟨n, hn, rfl⟩ := hinteger (by simp)
      exact ⟨.port .owner n, by simp [hn], rfl⟩
  | delaysec =>
      obtain ⟨n, hn, rfl⟩ := hinteger (by simp)
      exact ⟨.delay n, by simp [hn], rfl⟩
  | dns =>
      obtain ⟨t, ht, rfl⟩ := htext (by simp)
      exact ⟨.dns t, by simp [ht], rfl⟩
  | wifiSsid =>
      obtain ⟨t, ht, rfl⟩ := htext (by simp)
      exact ⟨.wifiSsid t, by simp [ht], rfl⟩
  | wifiPw =>
      obtain ⟨t, ht, rfl⟩ := htext (by simp)
      exact ⟨.wifiPassword t, by simp [ht], rfl⟩
  | ipAddress =>
      obtain ⟨t, a, rfl, ha, rfl⟩ := RendezvousVariable.value_ipAddress hval'
      exact ⟨.ipAddress a, by simp [yamlToCbor_text hval, ha], rfl⟩
  | protocol =>
      obtain ⟨t, p, rfl, hp, rfl⟩ := RendezvousVariable.value_protocol hval'
      exact ⟨.protocol p, by simp [yamlToCbor_text hval, hp], rfl⟩
  | serverCertHash => cases hval'
  | caCertHash => cases hval'
  | medium => cases hval'

/-- Nothing but scalars is written. -/
theorem settingOf_scalar {entry : List Char × YamlValue} {s : Setting}
    (h : settingOf ipFromStr entry = some s) : s.machine.2.Scalar := by
  have hinteger : ∀ {f : Int → Setting}, entry.2.asInteger.map f = some s →
      (∀ n, (f n).machine.2 = .integer n) → s.machine.2.Scalar := by
    intro f hs hf
    obtain ⟨n, hn, rfl⟩ := Option.map_eq_some_iff.mp hs
    rw [hf]
    exact YamlValue.asInteger_lt hn
  have hother : ∀ {α : Type} {value : Option α} {f : α → Setting}, value.map f = some s →
      (∀ a, (f a).machine.2.Scalar) → s.machine.2.Scalar := by
    intro α value f hs hf
    obtain ⟨a, _, rfl⟩ := Option.map_eq_some_iff.mp hs
    exact hf a
  unfold settingOf at h
  split at h
  · exact (Option.some.inj h) ▸ trivial
  · exact (Option.some.inj h) ▸ trivial
  · exact (Option.some.inj h) ▸ trivial
  · exact (Option.some.inj h) ▸ trivial
  · exact hinteger h fun _ => rfl
  · exact hinteger h fun _ => rfl
  · exact hinteger h fun _ => rfl
  · exact hother h fun _ => trivial
  · exact hother h fun _ => trivial
  · exact hother h fun _ => trivial
  · exact hother h fun _ => trivial
  · split at h
    · next p _ =>
        obtain rfl := Option.some.inj h
        have hp : (p.toU8 : Int).natAbs < 2 ^ 64 := by cases p <;> decide
        exact hp
    · cases h
  · cases h

theorem loadEntries_settings {entries : List (List Char × YamlValue)} {ms : List (RendezvousVariable × CborValue)}
    (h : loadEntries ipFromStr entries = .ok ms) :
    ms = (entries.filterMap (settingOf ipFromStr)).map Setting.machine := by
  induction entries generalizing ms with
  | nil => exact (Outcome.ok.inj h).symm
  | cons entry entries ih =>
      obtain ⟨m, hm, h₁⟩ := Outcome.bind_eq_ok.mp h
      obtain ⟨rest, hrest, h₂⟩ := Outcome.bind_eq_ok.mp h₁
      obtain rfl := Outcome.ok.inj h₂
      obtain ⟨setting, hsetting, rfl⟩ := loadEntry_setting hm
      rw [List.filterMap_cons, hsetting, List.map_cons, ih hrest]

theorem loadMaps_settings {rvs : List YamlMap} {info : List (List (RendezvousVariable × CborValue))}
    (h : loadMaps ipFromStr rvs = .ok info) :
    info = (rvs.map (settings ipFromStr)).map (List.map Setting.machine) := by
  induction rvs generalizing info with
  | nil => exact (Outcome.ok.inj h).symm
  | cons rv rvs ih =>
      obtain ⟨m, hm, h₁⟩ := Outcome.bind_eq_ok.mp h
      obtain ⟨rest, hrest, h₂⟩ := Outcome.bind_eq_ok.mp h₁
      obtain rfl := Outcome.ok.inj h₂
      rw [List.map_cons, List.map_cons, ← ih hrest, loadEntries_settings hm, settings]

/-! ## Reading -/

/-- Each line is read as it was written. -/
def ReadsBack (codec : Codec CborValue) (ss : List Setting) : Prop :=
  ∀ s ∈ ss, ∀ data, codec.intoWriter s.machine.2 = some data → codec.fromSlice data = some s.machine.2

theorem readsBack_settings (hcodec : CborValue.Faithful codec) (rv : YamlMap) :
    ReadsBack codec (settings ipFromStr rv) := by
  intro s hs data hdata
  obtain ⟨entry, _, hentry⟩ := List.mem_filterMap.mp hs
  exact hcodec _ _ (settingOf_scalar hentry) hdata

/-- One line, read again. -/
theorem take_setting (side : RendezvousInterpreterSide) (draft : Draft) (s : Setting) :
    take side draft s.machine.1 s.machine.2 =
      if s.restricts side then .ok none
      else if s.inRange side then .ok (some (s.apply side draft)) else .err .serdeCborError := by
  cases s with
  | onlyFor side' => cases side <;> cases side' <;> rfl
  | bypass => cases side <;> rfl
  | userInput => cases side <;> rfl
  | port side' n =>
      cases side <;> cases side' <;>
        simp [Setting.machine, take, Setting.restricts, Setting.inRange, Setting.apply, FromValue.unsigned]
      · split <;> rfl
      · split <;> rfl
  | dns name => rfl
  | ipAddress address => simp [Setting.machine, take, Setting.restricts, Setting.inRange, Setting.apply,
      FromValue.ipAddress, address.sized]
  | protocol p => simp [Setting.machine, take, Setting.restricts, Setting.inRange, Setting.apply,
      FromValue.protocol, RendezvousProtocolValue.ofInt_toU8, Outcome.ofOption]
  | delay n =>
      simp [Setting.machine, take, Setting.restricts, Setting.inRange, Setting.apply, FromValue.unsigned]
      split <;> rfl
  | wifiSsid ssid => cases side <;> rfl
  | wifiPassword password => cases side <;> rfl

/-- All lines of a map. -/
theorem takeAll_settings (side : RendezvousInterpreterSide) {ss : List Setting}
    (hread : ReadsBack codec ss) {directive : RendezvousDirective}
    (h : RendezvousInfo.newDirective codec (ss.map Setting.machine) = .ok directive) (draft : Draft) :
    takeAll codec side draft directive =
      if Decodes side ss then
        .ok (if Restricted side ss then none else some (ss.foldl (Setting.apply side) draft))
      else .err .serdeCborError := by
  induction ss generalizing directive draft with
  | nil =>
      obtain rfl := Outcome.ok.inj h
      rfl
  | cons s ss ih =>
      obtain ⟨data, rest, hdata, hrest, rfl⟩ := RendezvousInfo.newDirective_cons h
      have hvalue : codec.deserializeData data = .ok s.machine.2 :=
        Codec.deserializeData_eq_ok.mpr (hread s List.mem_cons_self _ hdata)
      have hrest := ih (fun s' hs' => hread s' (List.mem_cons_of_mem _ hs')) hrest
      simp only [takeAll, hvalue, Outcome.ok_bind, take_setting]
      by_cases hrestricts : s.restricts side = true
      · simp [hrestricts, Decodes, restricted_cons]
      · by_cases hrange : s.inRange side = true
        · simp [hrestricts, hrange, Decodes, restricted_cons, hrest]
        · simp [hrestricts, hrange, Decodes]

/-! ## The draft at the end -/

/-- The last of the values picked, or the one at the start. -/
def last {α : Type} (pick : Setting → Option α) (start : α) (ss : List Setting) : α :=
  ss.foldl (fun acc s => (pick s).getD acc) start

theorem last_cases {α : Type} (pick : Setting → Option α) (start : α) (ss : List Setting) :
    ((∀ s ∈ ss, pick s = none) ∧ last pick start ss = start) ∨
      ∃ s ∈ ss, pick s = some (last pick start ss) := by
  induction ss generalizing start with
  | nil => exact .inl ⟨by simp, rfl⟩
  | cons s ss ih =>
      rcases ih ((pick s).getD start) with ⟨hnone, hlast⟩ | ⟨s', hs', hpick⟩
      · cases hhere : pick s with
        | none =>
            rw [hhere] at hlast
            exact .inl ⟨by simpa [hhere] using hnone, by simpa [last, hhere] using hlast⟩
        | some a =>
            rw [hhere] at hlast
            exact .inr ⟨s, List.mem_cons_self, by simpa [last, hhere] using hlast.symm⟩
      · exact .inr ⟨s', List.mem_cons_of_mem _ hs', hpick⟩

def pickDns : Setting → Option (Option (List Char))
  | .dns name => some (some name)
  | _ => none

def pickProtocol : Setting → Option RendezvousProtocolValue
  | .protocol p => some p
  | _ => none

def pickDelay : Setting → Option Nat
  | .delay n => some n.toNat
  | _ => none

def pickPort (side : RendezvousInterpreterSide) : Setting → Option (Option Nat)
  | .port side' n => if side = side' then some (some n.toNat) else none
  | _ => none

section Draft

variable (side : RendezvousInterpreterSide) (ss : List Setting) (draft : Draft)

theorem foldl_dnsName : (ss.foldl (Setting.apply side) draft).dnsName = last pickDns draft.dnsName ss := by
  refine (List.foldl_hom Draft.dnsName fun d s => ?_).symm
  cases s with
  | port side' n => cases side <;> cases side' <;> rfl
  | _ => cases side <;> rfl

theorem foldl_protocol : (ss.foldl (Setting.apply side) draft).protocol = last pickProtocol draft.protocol ss := by
  refine (List.foldl_hom Draft.protocol fun d s => ?_).symm
  cases s with
  | port side' n => cases side <;> cases side' <;> rfl
  | _ => cases side <;> rfl

theorem foldl_delay : (ss.foldl (Setting.apply side) draft).delay = last pickDelay draft.delay ss := by
  refine (List.foldl_hom Draft.delay fun d s => ?_).symm
  cases s with
  | port side' n => cases side <;> cases side' <;> rfl
  | _ => cases side <;> rfl

theorem foldl_port : (ss.foldl (Setting.apply side) draft).port = last (pickPort side) draft.port ss := by
  refine (List.foldl_hom Draft.port fun d s => ?_).symm
  cases s with
  | port side' n => cases side <;> cases side' <;> rfl
  | _ => cases side <;> rfl

theorem foldl_ipAddresses :
    (ss.foldl (Setting.apply side) draft).ipAddresses = draft.ipAddresses ++ ss.filterMap Setting.address? := by
  induction ss generalizing draft with
  | nil => simp
  | cons s ss ih =>
      rw [List.foldl_cons, ih]
      cases s with
      | port side' n => cases side <;> cases side' <;> rfl
      | ipAddress address => simp [Setting.apply, Setting.address?]
      | _ => cases side <;> rfl

end Draft

/-! ## One map -/

/-- What the side should get for a map. -/
def Handles (side : RendezvousInterpreterSide) (ss : List Setting)
    (result : Outcome Error (Option RendezvousInterpretedDirective)) : Prop :=
  if Restricted side ss then result = .ok none else ∃ directive, result = .ok (some directive) ∧ Serves side ss directive

theorem decodes_inRange {side : RendezvousInterpreterSide} {ss : List Setting} (h : Decodes side ss)
    (hfree : ¬ Restricted side ss) {s : Setting} (hs : s ∈ ss) : s.inRange side = true := by
  induction ss with
  | nil => cases hs
  | cons s' ss ih =>
      rcases h with hrestricts | ⟨hrange, hrest⟩
      · exact absurd ⟨s', List.mem_cons_self, hrestricts⟩ hfree
      · rcases List.mem_cons.mp hs with rfl | hs
        · exact hrange
        · exact ih hrest (fun ⟨r, hr, hrr⟩ => hfree ⟨r, List.mem_cons_of_mem _ hr, hrr⟩) hs

section Once

variable {side : RendezvousInterpreterSide} {ss : List Setting}

theorem last_dns (single : ∀ a b, .dns a ∈ ss → .dns b ∈ ss → a = b) (name : List Char) :
    .dns name ∈ ss ↔ last pickDns none ss = some name := by
  rcases last_cases pickDns none ss with ⟨hnone, hlast⟩ | ⟨s, hs, hpick⟩
  · rw [hlast]
    refine iff_of_false (fun hmem => ?_) (by simp)
    cases hnone _ hmem
  · cases s with
    | dns name' =>
        obtain hlast : some name' = last pickDns none ss := Option.some.inj hpick
        rw [← hlast, Option.some.injEq]
        constructor
        · exact fun hmem => single _ _ hs hmem
        · rintro rfl
          exact hs
    | _ => cases hpick

theorem last_protocol (single : ∀ a b, .protocol a ∈ ss → .protocol b ∈ ss → a = b) :
    (∀ p, .protocol p ∈ ss → last pickProtocol .tls ss = p) ∧
      ((∀ p, .protocol p ∉ ss) → last pickProtocol .tls ss = .tls) := by
  rcases last_cases pickProtocol .tls ss with ⟨hnone, hlast⟩ | ⟨s, hs, hpick⟩
  · refine ⟨fun p hmem => ?_, fun _ => hlast⟩
    cases hnone _ hmem
  · cases s with
    | protocol p' =>
        obtain hlast : p' = last pickProtocol .tls ss := Option.some.inj hpick
        rw [← hlast]
        exact ⟨fun p hmem => single _ _ hs hmem, fun habsent => absurd hs (habsent p')⟩
    | _ => cases hpick

theorem last_delay (single : ∀ a b, .delay a ∈ ss → .delay b ∈ ss → a = b)
    (hrange : ∀ n, .delay n ∈ ss → 0 ≤ n) :
    (∀ n, .delay n ∈ ss → ((last pickDelay 0 ss : Nat) : Int) = n) ∧
      ((∀ n, .delay n ∉ ss) → last pickDelay 0 ss = 0) := by
  rcases last_cases pickDelay 0 ss with ⟨hnone, hlast⟩ | ⟨s, hs, hpick⟩
  · refine ⟨fun n hmem => ?_, fun _ => hlast⟩
    cases hnone _ hmem
  · cases s with
    | delay n' =>
        obtain hlast : n'.toNat = last pickDelay 0 ss := Option.some.inj hpick
        rw [← hlast]
        refine ⟨fun n hmem => ?_, fun habsent => absurd hs (habsent n')⟩
        rw [Int.toNat_of_nonneg (hrange n' hs), single _ _ hs hmem]
    | _ => cases hpick

theorem last_port (single : ∀ a b, .port side a ∈ ss → .port side b ∈ ss → a = b) :
    (∀ n, .port side n ∈ ss → last (pickPort side) none ss = some n.toNat) ∧
      ((∀ n, .port side n ∉ ss) → last (pickPort side) none ss = none) := by
  have hpicks : ∀ n, pickPort side (.port side n) = some (some n.toNat) := fun n => if_pos rfl
  rcases last_cases (pickPort side) none ss with ⟨hnone, hlast⟩ | ⟨s, hs, hpick⟩
  · refine ⟨fun n hmem => ?_, fun _ => hlast⟩
    have habsent := hnone _ hmem
    rw [hpicks] at habsent
    cases habsent
  · cases s with
    | port side' n' =>
        by_cases hside : side = side'
        · subst hside
          obtain hlast : some n'.toNat = last (pickPort side) none ss :=
            Option.some.inj ((hpicks n').symm.trans hpick)
          rw [← hlast]
          exact ⟨fun n hmem => by rw [single _ _ hs hmem], fun habsent => absurd hs (habsent n')⟩
        · have hother : pickPort side (.port side' n') = none := if_neg hside
          rw [hother] at hpick
          cases hpick
    | _ => cases hpick

end Once

/-- The directive made from a draft in which everything is said once. -/
theorem serves_of_sound {side : RendezvousInterpreterSide} {ss : List Setting} (h : Sound side ss)
    (hfree : ¬ Restricted side ss) :
    ∃ directive, finish (ss.foldl (Setting.apply side) .start) = .ok directive ∧ Serves side ss directive := by
  have hsingle := h.single hfree
  have hrange : ∀ {s}, s ∈ ss → s.inRange side = true := decodes_inRange h.decodes hfree
  have hdns := foldl_dnsName side ss .start
  have hprotocol := foldl_protocol side ss .start
  have hdelay := foldl_delay side ss .start
  have hport := foldl_port side ss .start
  have hips := foldl_ipAddresses side ss .start
  generalize ss.foldl (Setting.apply side) .start = draft at hdns hprotocol hdelay hport hips
  obtain ⟨hprotocol', hnoProtocol⟩ := last_protocol hsingle.protocol
  have hdelays : ∀ n, .delay n ∈ ss → 0 ≤ n := fun n hn => (of_decide_eq_true (hrange hn)).1
  obtain ⟨hdelay', hnoDelay⟩ := last_delay hsingle.delay hdelays
  obtain ⟨hport', hnoPort⟩ := last_port hsingle.port
  have hports : ∀ n, .port side n ∈ ss → 0 ≤ n := by
    intro n hn
    have := hrange hn
    simp only [Setting.inRange, bne_self_eq_false, Bool.false_or, decide_eq_true_eq] at this
    exact this.1
  have hdraftPort : draft.port = last (pickPort side) none ss := hport
  have hdraftProtocol : draft.protocol = last pickProtocol .tls ss := hprotocol
  have hfound : ∃ port, draft.port.or draft.protocol.defaultPort = some port := by
    rcases h.ported hfree with ⟨n, hn⟩ | ⟨p, hp, hdefault⟩
    · exact ⟨n.toNat, by rw [hdraftPort, hport' n hn]; rfl⟩
    · rw [hdraftProtocol, hprotocol' p hp]
      obtain ⟨port, hp'⟩ := Option.isSome_iff_exists.mp hdefault
      rw [hp']
      cases draft.port with
      | none => exact ⟨port, rfl⟩
      | some n => exact ⟨n, rfl⟩
  obtain ⟨port, hport''⟩ := hfound
  refine ⟨_, by simp only [finish, hport'', Outcome.ofOption, Outcome.ok_bind]; rfl, ?_⟩
  exact
    { dnsName := fun name => by rw [last_dns hsingle.dns name, hdns]; rfl
      ipAddresses := by
        simp only [hips, Draft.start, List.nil_append]
        split
        · next hempty => simpa using hempty.symm
        · rfl
      protocol := fun p hp => by rw [hprotocol]; exact hprotocol' p hp
      noProtocol := fun habsent => by rw [hprotocol]; exact hnoProtocol habsent
      delay := fun n hn => by rw [hdelay]; exact hdelay' n hn
      noDelay := fun habsent => by rw [hdelay]; exact hnoDelay habsent
      port := fun n hn => by
        rw [hdraftPort, hport' n hn] at hport''
        rw [← Option.some.inj hport'', Int.toNat_of_nonneg (hports n hn)]
      defaultPort := fun habsent => by
        rw [hdraftPort, hnoPort habsent] at hport''
        exact hport'' }

theorem sound_of_serves {side : RendezvousInterpreterSide} {ss : List Setting}
    {directive : RendezvousInterpretedDirective} (hdecodes : Decodes side ss) (h : Serves side ss directive) :
    Sound side ss where
  decodes := hdecodes
  single _ :=
    { dns := fun a b ha hb =>
        Option.some.inj (((h.dnsName a).mp ha).symm.trans ((h.dnsName b).mp hb))
      protocol := fun a b ha hb => (h.protocol a ha).symm.trans (h.protocol b hb)
      delay := fun a b ha hb => (h.delay a ha).symm.trans (h.delay b hb)
      port := fun a b ha hb => (h.port a ha).symm.trans (h.port b hb) }
  ported _ := by
    by_cases hport : ∃ n, .port side n ∈ ss
    · exact .inl hport
    · have hdefault := h.defaultPort fun n hn => hport ⟨n, hn⟩
      by_cases hprotocol : ∃ p, .protocol p ∈ ss
      · obtain ⟨p, hp⟩ := hprotocol
        rw [h.protocol p hp] at hdefault
        exact .inr ⟨p, hp, by rw [hdefault]; rfl⟩
      · rw [h.noProtocol fun p hp => hprotocol ⟨p, hp⟩] at hdefault
        cases hdefault

/-- A map is handled as it should be exactly when it is sound. -/
theorem handles_iff (side : RendezvousInterpreterSide) {ss : List Setting}
    (hread : ReadsBack codec ss) {directive : RendezvousDirective}
    (h : RendezvousInfo.newDirective codec (ss.map Setting.machine) = .ok directive) :
    Handles side ss (fromRvDirective codec directive side) ↔ Sound side ss := by
  have htake := takeAll_settings side hread h .start
  unfold Handles
  by_cases hdecodes : Decodes side ss
  · rw [if_pos hdecodes] at htake
    by_cases hrestricted : Restricted side ss
    · rw [if_pos hrestricted] at htake ⊢
      refine iff_of_true ?_ ⟨hdecodes, fun hfree => absurd hrestricted hfree, fun hfree => absurd hrestricted hfree⟩
      rw [fromRvDirective, htake]
      rfl
    · rw [if_neg hrestricted] at htake ⊢
      have hresult : fromRvDirective codec directive side =
          finish (ss.foldl (Setting.apply side) .start) >>= fun interpreted => .ok (some interpreted) := by
        rw [fromRvDirective, htake]
        rfl
      rw [hresult]
      constructor
      · rintro ⟨interpreted, _, hserves⟩
        exact sound_of_serves hdecodes hserves
      · intro hsound
        obtain ⟨interpreted, hfinish, hserves⟩ := serves_of_sound hsound hrestricted
        exact ⟨interpreted, by rw [hfinish]; rfl, hserves⟩
  · rw [if_neg hdecodes] at htake
    have hresult : fromRvDirective codec directive side = .err .serdeCborError := by
      rw [fromRvDirective, htake]
      rfl
    rw [hresult]
    refine iff_of_false ?_ fun hsound => hdecodes hsound.decodes
    split <;> simp

/-- Nothing comes of a map exactly when it is for the other side. -/
theorem fromRvDirective_none_iff (side : RendezvousInterpreterSide) {ss : List Setting}
    (hread : ReadsBack codec ss) {directive : RendezvousDirective}
    (h : RendezvousInfo.newDirective codec (ss.map Setting.machine) = .ok directive)
    {result : Option RendezvousInterpretedDirective}
    (hresult : fromRvDirective codec directive side = .ok result) : result = none ↔ Restricted side ss := by
  obtain ⟨draft, htaken, hrest⟩ := Outcome.bind_eq_ok.mp hresult
  have htake := (takeAll_settings side hread h .start).symm.trans htaken
  split at htake
  · have hdraft := Outcome.ok.inj htake
    by_cases hrestricted : Restricted side ss
    · rw [if_pos hrestricted] at hdraft
      subst hdraft
      exact iff_of_true (Outcome.ok.inj hrest).symm hrestricted
    · rw [if_neg hrestricted] at hdraft
      subst hdraft
      obtain ⟨interpreted, _, hsome⟩ := Outcome.bind_eq_ok.mp hrest
      obtain rfl := Outcome.ok.inj hsome
      exact iff_of_false (by simp) hrestricted
  · cases htake

/-! ## All maps -/

theorem new_cons {ms : List (RendezvousVariable × CborValue)} {rest : List (List (RendezvousVariable × CborValue))}
    {info : RendezvousInfo} (h : RendezvousInfo.new codec (ms :: rest) = .ok info) :
    ∃ directive info', RendezvousInfo.newDirective codec ms = .ok directive ∧
      RendezvousInfo.new codec rest = .ok info' ∧ info = directive :: info' := by
  obtain ⟨directive, hdirective, h₁⟩ := Outcome.bind_eq_ok.mp h
  obtain ⟨info', hinfo', h₂⟩ := Outcome.bind_eq_ok.mp h₁
  exact ⟨directive, info', hdirective, hinfo', (Outcome.ok.inj h₂).symm⟩

/-- A side interprets a list as it should exactly when it handles every map of it. -/
theorem interpreted_iff (side : RendezvousInterpreterSide) {all : List (List Setting)}
    (hread : ∀ ss ∈ all, ReadsBack codec ss) {info : RendezvousInfo}
    (h : RendezvousInfo.new codec (all.map (List.map Setting.machine)) = .ok info) :
    (∃ directives, info.toInterpreted codec side = .ok directives ∧
      List.Forall₂ (Serves side) (all.filter fun ss => !decide (Restricted side ss)) directives) ↔
      ∀ ss ∈ all, Sound side ss := by
  induction all generalizing info with
  | nil =>
      obtain rfl := Outcome.ok.inj h
      exact iff_of_true ⟨[], rfl, .nil⟩ (by simp)
  | cons ss all ih =>
      obtain ⟨directive, info', hdirective, hinfo', rfl⟩ := new_cons h
      obtain ⟨hhere, hothers⟩ := List.forall_mem_cons.mp hread
      rw [List.forall_mem_cons, ← handles_iff side hhere hdirective, ← ih hothers hinfo']
      have hnone : ∀ {result}, fromRvDirective codec directive side = .ok result →
          (result = none ↔ Restricted side ss) := fromRvDirective_none_iff side hhere hdirective
      simp only [RendezvousInfo.toInterpreted, Handles, List.filter_cons]
      by_cases hrestricted : Restricted side ss
      · simp only [hrestricted, if_true, decide_true, Bool.not_true, Bool.false_eq_true, if_false]
        constructor
        · rintro ⟨directives, hok, hall⟩
          obtain ⟨result, hresult, hrest⟩ := Outcome.bind_eq_ok.mp hok
          obtain rfl := (hnone hresult).mpr hrestricted
          exact ⟨hresult, directives, hrest, hall⟩
        · rintro ⟨hresult, directives, hok, hall⟩
          exact ⟨directives, by rw [hresult]; exact hok, hall⟩
      · simp only [hrestricted, if_false, decide_false, Bool.not_false, if_true]
        constructor
        · rintro ⟨directives, hok, hall⟩
          obtain ⟨result, hresult, hrest⟩ := Outcome.bind_eq_ok.mp hok
          cases result with
          | none => exact absurd ((hnone hresult).mp rfl) hrestricted
          | some interpreted =>
              obtain ⟨others, hothers, hcons⟩ := Outcome.bind_eq_ok.mp hrest
              obtain rfl := Outcome.ok.inj hcons
              cases hall with
              | cons hserves hall => exact ⟨⟨interpreted, hresult, hserves⟩, others, hothers, hall⟩
        · rintro ⟨⟨interpreted, hresult, hserves⟩, others, hothers, hall⟩
          exact ⟨interpreted :: others, by rw [hresult]; simp [hothers], .cons hserves hall⟩

/-- Written out and read again any number of times, in a voucher or a credential. -/
inductive Carried (infos : Codec RendezvousInfo) : RendezvousInfo → RendezvousInfo → Prop where
  | refl (info : RendezvousInfo) : Carried infos info info
  | step {info info' info'' : RendezvousInfo} {data : Bytes} (past : Carried infos info info')
      (written : infos.intoWriter info' = some data) (read : infos.fromSlice data = some info'') :
      Carried infos info info''

theorem carried_eq {infos : Codec RendezvousInfo} (hinfos : infos.Faithful) {info info' : RendezvousInfo}
    (h : Carried infos info info') : info' = info := by
  induction h with
  | refl => rfl
  | step _ written read ih =>
      rw [hinfos _ _ written] at read
      rw [← Option.some.inj read, ih]

/-- An accepted configuration is usable exactly when every map of it is sound for both sides. -/
theorem usable_iff_sound (hcodec : CborValue.Faithful codec) {infos : Codec RendezvousInfo} (hinfos : infos.Faithful)
    {rvs : List YamlMap} {info info' : RendezvousInfo} (h : loadRendezvousInfo codec ipFromStr rvs = .ok info)
    (hcarried : Carried infos info info') :
    Usable codec ipFromStr rvs info' ↔ ∀ side, ∀ rv ∈ rvs, Sound side (settings ipFromStr rv) := by
  obtain ⟨ms, hms, hnew⟩ := Outcome.bind_eq_ok.mp h
  rw [Outcome.mapErr_eq_ok, loadMaps_settings hms] at hnew
  rw [carried_eq hinfos hcarried]
  refine forall_congr' fun side => ?_
  rw [interpreted_iff side (List.forall_mem_map.mpr fun rv _ => readsBack_settings hcodec rv) hnew,
    List.forall_mem_map]

end

/-! ## A configuration -/

/-- An item other than `null`, by its major type. -/
def readScalar (data : Bytes) : Nat → Option CborValue
  | 0 => (Wire.int.fromSlice data).map .integer
  | 1 => (Wire.int.fromSlice data).map .integer
  | 2 => ((Wire.string 2).fromSlice data).map .bytes
  | 3 => (Reference.textWire.fromSlice data).map fun text => .text text.toList
  | _ => none

/-- Scalars as the library writes them. -/
def scalars : Codec CborValue where
  fromSlice data := if data = [0xf6] then some .null else readScalar data ((data.headD 0xff).toNat / 32)
  intoWriter
    | .null => some [0xf6]
    | .integer n => if n.natAbs < 2 ^ 64 then some (Wire.int.write n) else none
    | .bytes value => (Reference.codec (Wire.string 2)).intoWriter value
    | .text value => (Reference.codec Reference.textWire).intoWriter (String.ofList value)
    | _ => none

/-- The first byte of an item tells what it is. -/
theorem scalars_fromSlice {major n : Nat} (hm : major < 4) (rest : Bytes) :
    scalars.fromSlice ((Wire.head major).write n ++ rest) =
      readScalar ((Wire.head major).write n ++ rest) major := by
  have hle := @Wire.info_le n
  have hb : (UInt8.ofNat (32 * major + Wire.info n)).toNat = 32 * major + Wire.info n := by
    rw [UInt8.toNat_ofNat']
    omega
  have hmajor : ((((Wire.head major).write n ++ rest).headD 0xff)).toNat / 32 = major := by
    change (UInt8.ofNat (32 * major + Wire.info n)).toNat / 32 = major
    omega
  have hnull : (Wire.head major).write n ++ rest ≠ [0xf6] := by
    intro heq
    rw [heq] at hmajor
    change 7 = major at hmajor
    omega
  simp only [scalars, if_neg hnull, hmajor]

theorem scalars_faithful : CborValue.Faithful scalars := by
  intro value data _ hdata
  cases value with
  | null =>
      obtain rfl := Option.some.inj hdata
      rfl
  | integer n =>
      simp only [scalars, Option.ite_none_right_eq_some, Option.some.injEq] at hdata
      obtain ⟨hn, rfl⟩ := hdata
      cases n with
      | ofNat n =>
          have hread := (Wire.readsBack_ofNat (show n < 2 ^ 64 from hn)).fromSlice
          have hfirst := @scalars_fromSlice 0 n (by decide) []
          rw [List.append_nil] at hfirst
          exact hfirst.trans (congrArg (Option.map CborValue.integer) hread)
      | negSucc n =>
          have hlt : n < 2 ^ 64 := by
            simp only [Int.natAbs_negSucc] at hn
            omega
          have hread := (Wire.readsBack_negSucc hlt).fromSlice
          have hfirst := @scalars_fromSlice 1 n (by decide) []
          rw [List.append_nil] at hfirst
          exact hfirst.trans (congrArg (Option.map CborValue.integer) hread)
  | bytes value =>
      have hread := Reference.string_faithful (by decide) _ _ hdata
      obtain ⟨_, hdata⟩ := Option.ite_none_right_eq_some.mp hdata
      obtain rfl := Option.some.inj hdata
      exact (scalars_fromSlice (by decide) value).trans (congrArg (Option.map CborValue.bytes) hread)
  | text value =>
      have hread := Reference.text_faithful _ _ hdata
      obtain ⟨_, hdata⟩ := Option.ite_none_right_eq_some.mp hdata
      obtain rfl := Option.some.inj hdata
      refine (scalars_fromSlice (by decide) _).trans ?_
      refine (congrArg (Option.map fun text : String => CborValue.text text.toList) hread).trans ?_
      simp
  | _ => cases hdata

def rendezvousVariables : List RendezvousVariable :=
  [.deviceOnly, .ownerOnly, .ipAddress, .devicePort, .ownerPort, .dns, .serverCertHash, .caCertHash,
    .userInput, .wifiSsid, .wifiPw, .medium, .protocol, .delaysec, .bypass]

/-- A variable by its number, and its value as a byte string. -/
def instructionWire : Wire RendezvousInstruction :=
  ((((Reference.uintWire 8).via (fun var => rendezvousVariables.idxOf var) fun n => rendezvousVariables[n]?).seq
    (Wire.string 2)).framed [0x82])

theorem plain_instruction : Reference.PlainWire instructionWire := by
  intro (var, value) hlen
  have hvalue : value.length ≤ isizeMax := by
    simp only [instructionWire, Wire.framed, Wire.seq, Wire.string, List.length_append] at hlen
    omega
  have hvar : rendezvousVariables.idxOf var < 2 ^ 8 := by cases var <;> decide
  constructor
  · have harray := @CborGrammar.WellFormed.array .bounded 2 [0x82]
      [(Wire.head 0).write (rendezvousVariables.idxOf var), (Wire.string 2).write value]
      ⟨2, [], rfl, .inline (by decide)⟩ rfl
      (by simp [Reference.wellFormed_uint (Nat.lt_trans hvar (by decide)), Reference.wellFormed_string hvalue])
    simpa [instructionWire, Reference.uintWire, Wire.via, Wire.framed, Wire.seq] using harray
  · have hnumber : (Reference.uintWire 8).ReadsBack (rendezvousVariables.idxOf var) :=
      Reference.readsBack_uint (by decide) hvar
    have hback : rendezvousVariables[rendezvousVariables.idxOf var]? = some var := by cases var <;> rfl
    have hstring : (Wire.string 2).ReadsBack value :=
      Wire.readsBack_string (by decide) (by unfold isizeMax at hvalue; omega)
    exact ((Wire.ReadsBack.via (b := var) hnumber hback).seq hstring).framed

def infos : Codec RendezvousInfo := Reference.codec (Wire.counted 4 (Wire.counted 4 instructionWire))

theorem infos_faithful : infos.Faithful :=
  Reference.codec_faithful fun info hlen =>
    (Reference.plain_counted (Reference.plain_counted plain_instruction) info hlen).2

/-- The address of a server. -/
def serverAddress : IpAddr := ⟨[10, 0, 0, 1], .inl rfl⟩

def knownAddress (s : List Char) : Option IpAddr :=
  if s = "10.0.0.1".toList then some serverAddress else none

theorem keys_sorted : ["deviceport".toList, "ip".toList, "ownerport".toList, "protocol".toList].Pairwise (· < ·) := by
  decide

/-- A server that both sides reach over HTTP, at ports of their own. -/
def configuration (devicePort ownerPort : UInt64) : YamlMap :=
  ⟨[("deviceport".toList, .posInt devicePort), ("ip".toList, .string "10.0.0.1".toList),
      ("ownerport".toList, .posInt ownerPort), ("protocol".toList, .string "http".toList)],
    (@List.pairwise_map _ _ Prod.fst _ _).mp keys_sorted⟩

/-- An address and nothing else. -/
def addressOnly : YamlMap := ⟨[("ip".toList, .string "10.0.0.1".toList)], by decide⟩

theorem configuration_sound (side : RendezvousInterpreterSide) :
    Sound side [.port .device 80, .ipAddress serverAddress, .port .owner 8080, .protocol .http] where
  decodes := by cases side <;> decide
  single _ := by
    constructor <;> cases side <;> simp_all
  ported _ := .inr ⟨.http, by simp, rfl⟩

/-- Written into a voucher and read from it. -/
theorem usable_configuration :
    ∃ info data info', loadRendezvousInfo scalars knownAddress [configuration 80 8080] = .ok info ∧
      infos.intoWriter info = some data ∧ infos.fromSlice data = some info' ∧
      Usable scalars knownAddress [configuration 80 8080] info' := by
  have hload : loadRendezvousInfo scalars knownAddress [configuration 80 8080] =
      .ok [[(.devicePort, [0x18, 80]), (.ipAddress, [0x44, 10, 0, 0, 1]),
        (.ownerPort, [0x19, 0x1f, 0x90]), (.protocol, [0x01])]] := rfl
  have hwritten : infos.intoWriter [[(.devicePort, [0x18, 80]), (.ipAddress, [0x44, 10, 0, 0, 1]),
        (.ownerPort, [0x19, 0x1f, 0x90]), (.protocol, [0x01])]] =
      some [0x81, 0x84, 0x82, 3, 0x42, 0x18, 80, 0x82, 2, 0x45, 0x44, 10, 0, 0, 1,
        0x82, 4, 0x43, 0x19, 0x1f, 0x90, 0x82, 12, 0x41, 0x01] := by decide +kernel
  have hcarried := infos_faithful _ _ hwritten
  refine ⟨_, _, _, hload, hwritten, hcarried, ?_⟩
  refine (usable_iff_sound scalars_faithful infos_faithful hload (.step (.refl _) hwritten hcarried)).mpr ?_
  intro side rv hrv
  obtain rfl := List.mem_singleton.mp hrv
  exact configuration_sound side

/-- A port that no `u32` holds, and an address without a port, are accepted but not usable. -/
theorem accepted_unusable :
    (∃ info, loadRendezvousInfo scalars knownAddress [configuration (2 ^ 32) 8080] = .ok info ∧
      info.toInterpreted scalars .device = .err .serdeCborError ∧
      ¬ Usable scalars knownAddress [configuration (2 ^ 32) 8080] info) ∧
    ∃ info, loadRendezvousInfo scalars knownAddress [addressOnly] = .ok info ∧
      info.toInterpreted scalars .device = .err .serdeCborError ∧
      info.toInterpreted scalars .owner = .err .serdeCborError ∧
      ¬ Usable scalars knownAddress [addressOnly] info := by
  have hunusable : ∀ {rvs info}, RendezvousInfo.toInterpreted scalars .device info = .err .serdeCborError →
      ¬ Usable scalars knownAddress rvs info := by
    intro rvs info herr husable
    obtain ⟨directives, hok, _⟩ := husable .device
    rw [herr] at hok
    cases hok
  exact ⟨⟨_, rfl, rfl, hunusable rfl⟩, _, rfl, rfl, rfl, hunusable rfl⟩

end FidoOnboard.RendezvousConfiguration
