import FidoOnboard.Base.Runs
import FidoOnboard.Client.Main
import FidoOnboard.Protocol.Redirection

/-!
# Boots of one device

Whatever a device meets over its boots, it is onboarded at most once, as long as they all
look for the same marker.
-/
namespace FidoOnboard.Client
open Attempt

variable {P : Platform} {M : Machine}

/-- The credential is read back, and a re-encryption leaves the marker. -/
structure Device.Laws (d : Device P M) (marker : String) : Prop where
  codec : d.disk.codec.Faithful
  reencrypts : ∀ s, d.disk.fileExists marker (d.reencrypts s).1 = d.disk.fileExists marker s

/-- The boot looks for this marker, and its credentials are kept in other files than that. -/
structure Device.Uses (d : Device P M) (marker : String) (b : Boot) : Prop where
  named : b.marker = marker
  files : ∀ s l, find d.disk b.env s = some (.ok l) → (l.files d.disk marker).Laws

/-! ## How TO2 ends on the device -/

section

variable {V : ServiceInfoValues P} {tools : DeviceTools P} {F : DeviceFiles M} {draws : DeviceDraws}
  {devcred : DeviceCredential} {to1d : COSESign P} {server : Peer} {client : ServiceClient server}
  {s s' : M.State} {rebootRequired : Bool}

theorem finish_ok (laws : F.Laws) (hcodec : F.codec.Faithful) {n : Negotiated server}
    (h : finish P F n s = (s', .ok rebootRequired)) : Finished P F n s s' ∧ rebootRequired = n.rebootRequired := by
  cases hmarked : (F.writeMarker s).2 with
  | false =>
      rcases hwrite : F.writeMarker s with ⟨s₁, _ | _⟩
      · simp [finish, hwrite] at h
      · rw [hwrite] at hmarked
        cases hmarked
  | true =>
      obtain ⟨hstate, -, hok⟩ := finish_marked (P := P) F n hmarked
      rw [h] at hstate hok
      obtain ⟨hdeactivate, hdone⟩ := hok rebootRequired rfl
      have hdeactivated := (deactivate_ok laws hcodec hdeactivate).before (laws.writeMarker_credential s)
      have hmarker : F.marker (deactivate F (F.writeMarker s).1).1 = true := by
        rw [deactivate_marker laws]
        exact laws.writeMarker_marker s hmarked
      rw [← hstate] at hdeactivated hmarker
      refine ⟨⟨performDone_ok hdone, hmarker, hdeactivated⟩, ?_⟩
      rcases hwrite : F.writeMarker s with ⟨s₁, _ | _⟩
      · rw [hwrite] at hmarked
        cases hmarked
      · rw [hwrite] at hdeactivate
        rcases hleft : deactivate F s₁ with ⟨s₂, result⟩
        rw [hleft] at hdeactivate
        obtain rfl : result = .ok () := hdeactivate
        simp only [finish, hwrite, hleft, hdone] at h
        exact (Outcome.ok.inj (Prod.mk.inj h).2).symm

theorem performTo2_ok (laws : F.Laws) (hcodec : F.codec.Faithful)
    (h : performTo2 V tools F draws devcred to1d client s = (s', .ok rebootRequired)) :
    ∃ s₁ n, negotiate V tools draws devcred to1d client s = (s₁, .ok n) ∧ Finished P F n s₁ s' ∧
      rebootRequired = n.rebootRequired := by
  unfold performTo2 at h
  rcases hnegotiate : negotiate V tools draws devcred to1d client s with ⟨s₁, n | e | _⟩
  · rw [hnegotiate] at h
    exact ⟨s₁, n, rfl, finish_ok laws hcodec h⟩
  · rw [hnegotiate] at h
    cases (Prod.mk.inj h).2
  · rw [hnegotiate] at h
    cases (Prod.mk.inj h).2

end

/-! ## How a boot ends -/

namespace Device

variable (d : Device P M)

def step (s : M.State) (b : Boot) : M.State := (d.main b s).1.1

def Onboards (m : M.State × Boot) : Prop := ∃ rebootRequired, (d.main m.2 m.1).2 = .ok (.onboarded rebootRequired)

/-- The boot asks nobody, and does at most what is left of a re-encryption. -/
structure Quiet (m : M.State × Boot) : Prop where
  left : (d.main m.2 m.1).1 = (m.1, 0) ∨ (d.main m.2 m.1).1 = ((d.reencrypts m.1).1, 0)
  skips : ¬ d.Onboards m

/-- What a boot finds before it asks anybody. -/
structure Starts (m : M.State × Boot) (l : FileSystemPath) (dc : DeviceCredential)
    (rvInfo : List RendezvousInterpretedDirective) : Prop where
  kdf : d.interoperableKdfAvailable = true ∨ m.2.allowNoninteroperableKdf = true
  marker : d.disk.fileExists m.2.marker m.1 = false
  location : find d.disk m.2.env m.1 = some (.ok l)
  credential : ∃ fdc, l.readCredential d.disk m.1 = .ok fdc ∧ fdc.active = true ∧
    d.protocolVersion fdc.rest = .version1_1 ∧ dc = d.devcred fdc.rest ∧
    getRvInfo (d.directives fdc.rest) d.cborValue = .ok rvInfo

/-- The attempt that onboards: the address comes from the blob a rendezvous server has for the device. -/
structure Succeeds (b : Boot) (l : FileSystemPath) (dc : DeviceCredential)
    (rvInfo : List RendezvousInterpretedDirective) (s' : M.State) (rebootRequired : Bool) : Prop where
  attempt : ∃ rvEntry ∈ rvInfo, ∃ asked calls clientList to1d to1dPayload, ∃ to2Address ∈ getTo2Urls
      (d.to2Addresses to1dPayload.to2Addresses), ∃ s,
    getClientList d.interoperableKdfAvailable (b.network asked).rendezvous rvEntry = .ok clientList ∧
    getTo1d d.tools dc clientList = .ok to1d ∧
    to1d.getPayloadUnverified (TO1DataPayload.deserializeData P) = .ok to1dPayload ∧
    performTo2 d.values d.tools (l.files d.disk b.marker) (b.network calls).draws dc to1d
      (ServiceClient.new d.interoperableKdfAvailable ((b.network calls).owner to2Address).peer :
        ServiceClient ((b.network calls).owner to2Address).server) s = (s', .ok rebootRequired)

variable {d} {b : Boot} {l : FileSystemPath} {dc : DeviceCredential} {rvInfo : List RendezvousInterpretedDirective}

theorem tryAddress_success {to1d : COSESign P} {to2Address : List Char} {s s' : M.State × Nat} {rebootRequired : Bool}
    (h : d.tryAddress b l dc to1d to2Address s = (s', .success rebootRequired)) :
    performTo2 d.values d.tools (l.files d.disk b.marker) (b.network s.2).draws dc to1d
      (ServiceClient.new d.interoperableKdfAvailable ((b.network s.2).owner to2Address).peer :
        ServiceClient ((b.network s.2).owner to2Address).server) s.1 = (s'.1, .ok rebootRequired) := by
  obtain ⟨state, calls⟩ := s
  unfold tryAddress at h
  dsimp only at h ⊢
  rcases hperform : performTo2 d.values d.tools (l.files d.disk b.marker) (b.network calls).draws dc to1d
      (ServiceClient.new d.interoperableKdfAvailable ((b.network calls).owner to2Address).peer :
        ServiceClient ((b.network calls).owner to2Address).server) state with ⟨left, r | e | _⟩
  · rw [hperform] at h
    cases h
    rfl
  · rw [hperform] at h
    cases h
  · rw [hperform] at h
    cases h

theorem tryEntry_success {rvEntry : RendezvousInterpretedDirective} {s s' : M.State × Nat} {rebootRequired : Bool}
    (hentry : rvEntry ∈ rvInfo) (h : d.tryEntry b l dc rvEntry s = (s', .success rebootRequired)) :
    d.Succeeds b l dc rvInfo s'.1 rebootRequired := by
  obtain ⟨state, calls⟩ := s
  unfold tryEntry at h
  dsimp only at h
  cases hclients : getClientList d.interoperableKdfAvailable (b.network calls).rendezvous rvEntry with
  | err e =>
      rw [hclients] at h
      cases h
  | panic =>
      rw [hclients] at h
      cases h
  | ok clientList =>
      rw [hclients] at h
      dsimp only at h
      cases hto1d : getTo1d d.tools dc clientList with
      | err e =>
          rw [hto1d] at h
          cases h
      | panic =>
          rw [hto1d] at h
          cases h
      | ok to1d =>
          rw [hto1d] at h
          dsimp only at h
          cases hpayload : to1d.getPayloadUnverified (TO1DataPayload.deserializeData P) with
          | err e =>
              rw [hpayload] at h
              cases h
          | panic =>
              rw [hpayload] at h
              cases h
          | ok to1dPayload =>
              rw [hpayload] at h
              dsimp only at h
              apply search_establishes (Q := fun s' reboot => d.Succeeds b l dc rvInfo s'.1 reboot) h
              intro attempt hattempt s₁ s₂ value hvalue
              obtain ⟨to2Address, haddress, rfl⟩ := List.mem_map.mp hattempt
              exact ⟨rvEntry, hentry, calls, s₁.2, clientList, to1d, to1dPayload, to2Address, haddress, s₁.1, hclients,
                hto1d, hpayload, tryAddress_success hvalue⟩

theorem loop_success {s s' : M.State × Nat} {rebootRequired : Bool}
    (h : d.loop b l dc rvInfo s = (s', .success rebootRequired)) : d.Succeeds b l dc rvInfo s'.1 rebootRequired := by
  apply search_establishes (Q := fun s' reboot => d.Succeeds b l dc rvInfo s'.1 reboot) h
  intro attempt hattempt s₁ s₂ value hvalue
  rw [List.eq_of_mem_replicate hattempt] at hvalue
  apply search_establishes (Q := fun s' reboot => d.Succeeds b l dc rvInfo s'.1 reboot) hvalue
  intro entry hentry s₃ s₄ value' hvalue'
  obtain ⟨rvEntry, hmem, rfl⟩ := List.mem_map.mp hentry
  exact tryEntry_success hmem hvalue'

variable {m : M.State × Boot}

theorem usableCredential_some {s : M.State} (h : d.usableCredential b s = .ok (some (l, dc, rvInfo))) :
    find d.disk b.env s = some (.ok l) ∧ ∃ fdc, l.readCredential d.disk s = .ok fdc ∧ fdc.active = true ∧
      d.protocolVersion fdc.rest = .version1_1 ∧ dc = d.devcred fdc.rest ∧
      getRvInfo (d.directives fdc.rest) d.cborValue = .ok rvInfo := by
  unfold usableCredential at h
  cases hfind : find d.disk b.env s with
  | none =>
      rw [hfind] at h
      cases h
  | some found =>
      rw [hfind] at h
      obtain ⟨l', hl, h₁⟩ := Outcome.bind_eq_ok.mp h
      obtain ⟨fdc, hread, h₂⟩ := Outcome.bind_eq_ok.mp h₁
      cases hactive : fdc.active with
      | false =>
          rw [hactive] at h₂
          cases h₂
      | true =>
          rw [hactive] at h₂
          obtain ⟨_, hversion, h₃⟩ := Outcome.bind_eq_ok.mp h₂
          obtain ⟨rvInfo', hdirectives, h₄⟩ := Outcome.bind_eq_ok.mp h₃
          cases Outcome.ok.inj h₄
          rw [Outcome.mapErr_eq_ok.mp hl]
          exact ⟨rfl, fdc, Outcome.mapErr_eq_ok.mp hread, hactive, Outcome.check_eq_ok.mp hversion, rfl, hdirectives⟩

/-- A device with a marker, or with no credential it may use, does nothing. -/
theorem main_cases (m : M.State × Boot) : d.Quiet m ∨ ∃ l dc rvInfo, d.Starts m l dc rvInfo ∧
    d.main m.2 m.1 = match d.loop m.2 l dc rvInfo (m.1, 0) with
      | (left, .success rebootRequired) => (left, .ok (.onboarded rebootRequired))
      | (left, .failure) => (left, .ok .waiting)
      | (left, .stop) => (left, .panic) := by
  have quiet : ∀ left result, d.main m.2 m.1 = (left, result) →
      (left = (m.1, 0) ∨ left = ((d.reencrypts m.1).1, 0)) → (∀ reboot, result ≠ .ok (.onboarded reboot)) →
        d.Quiet m := by
    intro left result hmain hleft hresult
    refine ⟨by rw [hmain]; exact hleft, ?_⟩
    rintro ⟨reboot, hreboot⟩
    rw [hmain] at hreboot
    exact hresult reboot hreboot
  unfold main
  unfold main at quiet
  split
  case isFalse hkdf =>
    rw [if_neg hkdf] at quiet
    exact .inl (quiet _ _ rfl (.inl rfl) fun reboot h => by cases h)
  case isTrue hkdf =>
    rw [if_pos hkdf] at quiet
    split
    case isTrue hmarker =>
      rw [if_pos hmarker] at quiet
      rcases hreencrypts : d.reencrypts m.1 with ⟨left, _ | _⟩
      · rw [hreencrypts] at quiet
        exact .inl (quiet _ _ rfl (.inr rfl) fun reboot h => by cases h)
      · rw [hreencrypts] at quiet
        exact .inl (quiet _ _ rfl (.inr rfl) fun reboot h => by cases h)
    case isFalse hmarker =>
      rw [if_neg hmarker] at quiet
      cases husable : d.usableCredential m.2 m.1 with
      | err e =>
          rw [husable] at quiet
          exact .inl (quiet _ _ rfl (.inl rfl) fun reboot h => by cases h)
      | panic =>
          rw [husable] at quiet
          exact .inl (quiet _ _ rfl (.inl rfl) fun reboot h => by cases h)
      | ok usable =>
          cases usable with
          | none =>
              rw [husable] at quiet
              exact .inl (quiet _ _ rfl (.inl rfl) fun reboot h => by cases h)
          | some start =>
              obtain ⟨l, dc, rvInfo⟩ := start
              obtain ⟨hlocation, hcredential⟩ := usableCredential_some husable
              refine .inr ⟨l, dc, rvInfo, ⟨?_, ?_, hlocation, hcredential⟩, rfl⟩
              · simpa using hkdf
              · simpa using hmarker

theorem onboards_ended {rebootRequired : Bool} (h : (d.main m.2 m.1).2 = .ok (.onboarded rebootRequired)) :
    ∃ l dc rvInfo, d.Starts m l dc rvInfo ∧
      d.Succeeds m.2 l dc rvInfo (d.step m.1 m.2) rebootRequired := by
  rcases main_cases (d := d) m with hquiet | ⟨l, dc, rvInfo, hstarts, hmain⟩
  · exact absurd ⟨rebootRequired, h⟩ hquiet.skips
  · rcases hloop : d.loop m.2 l dc rvInfo (m.1, 0) with ⟨left, value | _ | _⟩
    · rw [hloop] at hmain
      rw [hmain] at h
      cases h
      refine ⟨l, dc, rvInfo, hstarts, ?_⟩
      have hstep : d.step m.1 m.2 = left.1 := congrArg (fun r => r.1.1) hmain
      rw [hstep]
      exact loop_success hloop
    · rw [hloop] at hmain
      rw [hmain] at h
      cases h
    · rw [hloop] at hmain
      rw [hmain] at h
      cases h

/-- A boot of a device with a marker. -/
theorem marked_quiet (hmarker : d.disk.fileExists m.2.marker m.1 = true) : d.Quiet m := by
  rcases main_cases (d := d) m with hquiet | ⟨l, dc, rvInfo, hstarts, _⟩
  · exact hquiet
  · rw [hstarts.marker] at hmarker
    cases hmarker

/-! ## Many boots -/

variable {marker : String}

/-- The marker is there once the device was onboarded, and stays. -/
theorem Succeeds.marked (laws : (l.files d.disk b.marker).Laws) (hcodec : d.disk.codec.Faithful) {s' : M.State}
    {rebootRequired : Bool} (h : d.Succeeds b l dc rvInfo s' rebootRequired) :
    d.disk.fileExists b.marker s' = true := by
  obtain ⟨_, _, _, _, _, _, _, _, _, _, _, _, _, hperform⟩ := h.attempt
  obtain ⟨_, _, _, hfinished, _⟩ := performTo2_ok laws hcodec hperform
  exact hfinished.marker

theorem step_marker (laws : d.Laws marker) (hboot : m.2.marker = marker)
    (hmarker : d.disk.fileExists marker m.1 = true) : d.disk.fileExists marker (d.step m.1 m.2) = true := by
  have hmarked : d.disk.fileExists m.2.marker m.1 = true := by rwa [hboot]
  rcases (marked_quiet hmarked).left with hleft | hleft
  · rw [step, hleft]
    exact hmarker
  · rw [step, hleft, laws.reencrypts]
    exact hmarker

/-- What the boots of a device come to, the latest first. -/
structure OnboardedOnce (d : Device P M) (marker : String) (past : List (M.State × Boot)) : Prop where
  once : past.Pairwise fun later earlier => ¬ (d.Onboards later ∧ d.Onboards earlier)
  quiet : past.Pairwise fun later earlier =>
    d.disk.fileExists marker (d.step earlier.1 earlier.2) = true → d.Quiet later
  ended : ∀ m ∈ past, ∀ rebootRequired, (d.main m.2 m.1).2 = .ok (.onboarded rebootRequired) →
    d.disk.fileExists marker (d.step m.1 m.2) = true ∧ ∃ l dc rvInfo, d.Starts m l dc rvInfo ∧
      d.Succeeds m.2 l dc rvInfo (d.step m.1 m.2) rebootRequired

/-- A device whose boots use one marker is onboarded at most once, whoever answers it over however many of them; and
a boot that leaves the marker is the last one that asks anybody. -/
theorem boots_onboard_once (laws : d.Laws marker) {past : List (M.State × Boot)} {s : M.State}
    (run : Run (fun _ => True) (fun _ _ b => d.Uses marker b) d.step past s) : d.OnboardedOnce marker past := by
  have uses : ∀ m ∈ past, d.Uses marker m.2 := by
    intro m hm
    obtain ⟨_, _, huses, _⟩ := run.of_mem hm
    exact huses
  have kept : ∀ {past s}, Run (fun _ => True) (fun _ _ b => d.Uses marker b) d.step past s →
      ∀ m ∈ past, d.disk.fileExists marker (d.step m.1 m.2) = true → d.disk.fileExists marker s = true := by
    intro past s run
    apply run.since (I := fun _ _ => True) (R := fun m s => d.disk.fileExists marker (d.step m.1 m.2) = true →
      d.disk.fileExists marker s = true)
    · intro _ _ _
      trivial
    · intro _ s b _ _ h
      exact h
    · intro _ s b _ huses m _ ih h
      exact step_marker (m := (s, b)) laws huses.named (ih h)
  have ended : ∀ m ∈ past, ∀ rebootRequired, (d.main m.2 m.1).2 = .ok (.onboarded rebootRequired) →
      d.disk.fileExists marker (d.step m.1 m.2) = true ∧ ∃ l dc rvInfo, d.Starts m l dc rvInfo ∧
        d.Succeeds m.2 l dc rvInfo (d.step m.1 m.2) rebootRequired := by
    intro m hm rebootRequired h
    obtain ⟨l, dc, rvInfo, hstarts, hsucceeds⟩ := onboards_ended h
    have huses := uses m hm
    have hfiles := huses.files _ _ hstarts.location
    rw [← huses.named] at hfiles ⊢
    exact ⟨hsucceeds.marked hfiles laws.codec, l, dc, rvInfo, hstarts, hsucceeds⟩
  have quiet : past.Pairwise fun later earlier =>
      d.disk.fileExists marker (d.step earlier.1 earlier.2) = true → d.Quiet later := by
    clear uses ended
    induction run with
    | start _ => exact .nil
    | next run huses ih =>
        refine .cons ?_ ih
        intro m hm hmarker
        have hfound := kept run m hm hmarker
        rw [← huses.named] at hfound
        exact marked_quiet (m := (_, _)) hfound
  have hboth := List.Pairwise.and_mem.mp quiet
  refine ⟨hboth.imp ?_, quiet, ended⟩
  rintro later earlier ⟨-, hearlierMem, hquiet⟩ ⟨hlater, reboot, hearlier⟩
  exact (hquiet (ended earlier hearlierMem reboot hearlier).1).skips hlater

/-! ## A device that is onboarded when it boots first -/

open Reference VoucherChain

def sampleMarker : String := "/var/lib/fdo/onboarded"

/-- Two files, and no other can be written. -/
def sampleDisk : Disk sampleMachine where
  Rest := Unit
  codec := sampleDeviceFiles.codec
  fileExists path s := if path = sampleMarker then s.1 else path == "/etc/device-credentials" && s.2.isSome
  read path s := if path = sampleMarker then if s.1 then some [] else none
    else if path = "/etc/device-credentials" then s.2 else none
  write path s data := if path = sampleMarker then ((true, s.2), true)
    else if path = "/etc/device-credentials" then ((s.1, some data), true) else (s, false)
  remove path s := if path = sampleMarker then ((false, s.2), true)
    else if path = "/etc/device-credentials" then ((s.1, none), true) else (s, false)

/-- Its one directive names the server `a`, its owner is at `owner`. -/
def sample (devcred : DeviceCredential) : Device (reference .release) sampleMachine where
  values := sampleValues
  tools := sampleTools
  disk := sampleDisk
  protocolVersion _ := .version1_1
  devcred _ := devcred
  directives _ := OwnerServer.Report.readDirectives [[[5, 0x61, 0x61], [12, 0x01]]]
  cborValue := RendezvousConfiguration.scalars
  to2Addresses _ := [⟨none, some "owner".toList, 8080, .http⟩]
  interoperableKdfAvailable := true
  reencrypts s := (s, true)

theorem sample_laws (devcred : DeviceCredential) : (sample devcred).Laws sampleMarker where
  codec := sampleDeviceFiles_codec
  reencrypts _ := rfl

/-- The rendezvous server has the blob, the owner the voucher. -/
def sampleBoot (v : OwnershipVoucher (reference .release)) (to1d : COSESign (reference .release)) : Boot where
  executedMarkerFilePath := some sampleMarker
  env := ⟨none, false, false⟩
  allowNoninteroperableKdf := false
  network _ := ⟨fun _ => ⟨_, (Redirection.sampleDevice 0 (Redirection.sampleKnown to1d)).peer⟩,
    fun _ => ⟨samplePeer false, (0, OwnerServer.sampleServer v)⟩, sampleDeviceDraws⟩
  rounds := 2

/-- The credential, the voucher, and the blob that leads to its owner. -/
def sampleFirst : Outcome Error
    (DeviceCredential × OwnershipVoucher (reference .release) × COSESign (reference .release)) := do
  let v ← sampleVoucher
  let devcred ← sampleCredential v
  let payload ← TO1DataPayload.serializeData (P := reference .release) ⟨[[10, 0, 0, 1]], ⟨.sha384, [1]⟩⟩
  let to1d ← COSESign.new (reference .release) payload [] [3, 1]
  .ok (devcred, v, to1d)

def sampleEnding : Outcome Error Bool := do
  let (devcred, v, to1d) ← sampleFirst
  match ((sample devcred).main (sampleBoot v to1d) (false, some [1])).2 with
  | .ok (.onboarded rebootRequired) => .ok rebootRequired
  | _ => .err .cose

theorem sampleEnding_isOk : sampleEnding.isOk = true := by decide +kernel

theorem sample_uses (devcred : DeviceCredential) (v : OwnershipVoucher (reference .release))
    (to1d : COSESign (reference .release)) : (sample devcred).Uses sampleMarker (sampleBoot v to1d) where
  named := rfl
  files s l hfind := by
    have hpath : l.path = "/etc/device-credentials" := by
      simp [find, resolveEnv, FileSystemPath.resolve, sampleBoot, sample, sampleDisk, sampleMarker] at hfind
      rw [← hfind.2]
    have hother : "/etc/device-credentials" ≠ sampleMarker := by decide
    exact
      { writeMarker_marker := fun _ _ => by simp [FileSystemPath.files, sample, sampleDisk]
        writeMarker_credential := fun _ => by simp [FileSystemPath.files, sample, sampleDisk, hother, hpath]
        writeCredential_credential := fun _ _ _ => by simp [FileSystemPath.files, sample, sampleDisk, hother, hpath]
        writeCredential_marker := fun _ _ => by simp [FileSystemPath.files, sample, sampleDisk, hother, hpath]
        removeCredential_credential := fun _ _ => by simp [FileSystemPath.files, sample, sampleDisk, hother, hpath]
        removeCredential_marker := fun _ => by simp [FileSystemPath.files, sample, sampleDisk, hother, hpath] }

theorem boots_onboard_once_sample : ∃ devcred v to1d, sampleFirst = .ok (devcred, v, to1d) ∧
    (sample devcred).Onboards ((false, some [1]), sampleBoot v to1d) ∧
    (sample devcred).OnboardedOnce sampleMarker
      [((sample devcred).step (false, some [1]) (sampleBoot v to1d), sampleBoot v to1d),
        ((false, some [1]), sampleBoot v to1d)] := by
  obtain ⟨ending, h⟩ := Outcome.isOk_iff.mp sampleEnding_isOk
  obtain ⟨⟨devcred, v, to1d⟩, hfirst, hending⟩ := Outcome.bind_eq_ok.mp h
  have huses := sample_uses devcred v to1d
  refine ⟨devcred, v, to1d, hfirst, ?_, boots_onboard_once (sample_laws devcred)
    (.next (.next (.start trivial) huses) huses)⟩
  dsimp only at hending
  split at hending
  next rebootRequired hmain => exact ⟨rebootRequired, hmain⟩
  next => cases hending

end Device
end FidoOnboard.Client
