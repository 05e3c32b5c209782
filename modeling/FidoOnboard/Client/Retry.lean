import FidoOnboard.Client.Onboarding
import FidoOnboard.DataFormats.ReferenceJson
import FidoOnboard.Protocol.VoucherTransfer

/-!
# TO2 again after a failure

The marker and the credential say that a device is onboarded. They are written
before the owner is told, so not every run that fails leaves them alone.
-/
namespace FidoOnboard.Client

variable {P : Platform} {M : Machine} {server : Peer}

/-- The marker is not new, and the credential is what it was. -/
structure Retryable (F : DeviceFiles M) (s s' : M.State) : Prop where
  marker : F.marker s = false → F.marker s' = false
  credential : F.credential s' = F.credential s

/-- What the method of the location makes of the credential; what was written is read as inactive. -/
def Deactivated (F : DeviceFiles M) (s s' : M.State) : Prop :=
  match F.method with
  | .none => F.credential s' = F.credential s
  | .delete => F.credential s' = none
  | .deactivate => ∃ contents fdc data, F.credential s = some contents ∧ F.codec.fromSlice contents = some fdc ∧
    F.credential s' = some data ∧ F.codec.fromSlice data = some { fdc with active := false }

/-- Done2 comes back with the nonce of the device. -/
def Answered (P : Platform) (n : Negotiated server) : Prop :=
  ∃ client, n.client.sendRequest P To2.done To2.done2 (P.oneNonce.serializeData n.nonce6.value)
    (OwnerServer.oneNonce P) none = .ok (n.nonce7, client)

/-- The device is onboarded; `s` is the state after the service info. -/
structure Finished (P : Platform) (F : DeviceFiles M) (n : Negotiated server) (s s' : M.State) : Prop where
  answered : Answered P n
  marker : F.marker s' = true
  deactivated : Deactivated F s s'

section

variable (V : ServiceInfoValues P) (tools : DeviceTools P) (F : DeviceFiles M) (draws : DeviceDraws)
  (devcred : DeviceCredential) (to1d : COSESign P) (client : ServiceClient server) (s : M.State)

/-- A run that fails can be repeated, and one that does not has done everything. -/
def FailsSafe : Prop :=
  match performTo2 V tools F draws devcred to1d client s with
  | (s', .ok _) => ∃ s₁ n, negotiate V tools draws devcred to1d client s = (s₁, .ok n) ∧ Finished P F n s₁ s'
  | (s', .err _) => Retryable F s s'
  | (_, .panic) => True

/-- Nothing fails once the marker is written. -/
structure Uninterrupted : Prop where
  /-- The owner has touched neither file, if the run ends with its service info. -/
  untouched : ∀ s₁ e, negotiate V tools draws devcred to1d client s = (s₁, .err e) → Retryable F s s₁
  /-- A marker that could not be written is not there. -/
  refused : ∀ s₁ n, negotiate V tools draws devcred to1d client s = (s₁, .ok n) →
    (F.writeMarker s₁).2 = false →
      (F.marker s = false → F.marker (F.writeMarker s₁).1 = false) ∧ F.credential s₁ = F.credential s
  /-- Deactivation succeeds and Done is answered as it should be, unless the marker was there
  before and the credential is not changed. -/
  completed : ∀ s₁ n, negotiate V tools draws devcred to1d client s = (s₁, .ok n) →
    (F.writeMarker s₁).2 = true →
      ((∀ e, (deactivate F (F.writeMarker s₁).1).2 ≠ .err e) ∧
        ((deactivate F (F.writeMarker s₁).1).2 = .ok () → ∀ e, performDone P n.nonce7 n.nonce6 n.client ≠ .err e)) ∨
      (F.marker s = true ∧ F.credential (deactivate F (F.writeMarker s₁).1).1 = F.credential s)

end

/-! ## The end of a run -/

theorem performDone_ok {n : Negotiated server} (h : performDone P n.nonce7 n.nonce6 n.client = .ok ()) :
    Answered P n := by
  obtain ⟨⟨done2, client⟩, hsend, h₁⟩ := Outcome.bind_eq_ok.mp h
  obtain ⟨nonceMatches, heq, hcheck⟩ := Outcome.bind_eq_ok.mp h₁
  obtain rfl := Outcome.check_eq_ok.mp hcheck
  rw [Outcome.unwrap_eq_ok] at heq
  have hvalue : n.nonce7.value = done2.value := memcmpEq_eq_true.mp heq
  have hsame : done2 = n.nonce7 := by
    cases done2
    cases hn : n.nonce7
    simp_all
  exact ⟨client, by rw [← hsame]; exact orResponse_eq_ok.mp hsend⟩

theorem deactivate_ok {F : DeviceFiles M} (laws : F.Laws) (hcodec : F.codec.Faithful) {s : M.State}
    (h : (deactivate F s).2 = .ok ()) : Deactivated F s (deactivate F s).1 := by
  unfold deactivate at h ⊢
  unfold Deactivated
  cases hmethod : F.method with
  | none => rfl
  | delete =>
      simp only [hmethod] at h ⊢
      have hremoved := laws.removeCredential_credential s
      rcases hremove : F.removeCredential s with ⟨s', _ | _⟩
      · simp [hremove] at h
      · rw [hremove] at hremoved
        exact hremoved rfl
  | deactivate =>
      simp only [hmethod] at h ⊢
      unfold performDeactivation at h ⊢
      cases hcredential : F.credential s with
      | none => simp [hcredential] at h
      | some contents =>
          simp only [hcredential] at h ⊢
          cases hfdc : F.codec.fromSlice contents with
          | none => simp [hfdc] at h
          | some fdc =>
              simp only [hfdc] at h ⊢
              cases hdata : F.codec.intoWriter { fdc with active := false } with
              | none => simp [hdata] at h
              | some data =>
                  simp only [hdata] at h ⊢
                  have hwritten := laws.writeCredential_credential s data
                  rcases hwrite : F.writeCredential s data with ⟨s', _ | _⟩
                  · simp [hwrite] at h
                  · rw [hwrite] at hwritten
                    exact ⟨contents, fdc, data, rfl, hfdc, hwritten rfl, hcodec _ _ hdata⟩

theorem deactivate_marker {F : DeviceFiles M} (laws : F.Laws) (s : M.State) :
    F.marker (deactivate F s).1 = F.marker s := by
  unfold deactivate
  cases F.method with
  | none => rfl
  | delete =>
      have hkept := laws.removeCredential_marker s
      rcases hremove : F.removeCredential s with ⟨s', _ | _⟩ <;> rw [hremove] at hkept <;> exact hkept
  | deactivate =>
      simp only [performDeactivation]
      cases F.credential s with
      | none => rfl
      | some contents =>
          cases hfdc : F.codec.fromSlice contents with
          | none => simp only [hfdc]
          | some fdc =>
              simp only [hfdc]
              cases hdata : F.codec.intoWriter { fdc with active := false } with
              | none => rfl
              | some data =>
                  have hkept := laws.writeCredential_marker s data
                  rcases hwrite : F.writeCredential s data with ⟨s', _ | _⟩
                  · simp only [hwrite] at hkept ⊢
                    exact hkept
                  · simp only [hwrite] at hkept ⊢
                    exact hkept

theorem Deactivated.before {F : DeviceFiles M} {s₁ s₂ s' : M.State} (hsame : F.credential s₂ = F.credential s₁)
    (h : Deactivated F s₂ s') : Deactivated F s₁ s' := by
  unfold Deactivated at h ⊢
  rw [← hsame]
  exact h

/-- The ends of `finish`, once the marker is there. -/
theorem finish_marked (F : DeviceFiles M) (n : Negotiated server) {s : M.State}
    (hmarked : (F.writeMarker s).2 = true) :
    (finish P F n s).1 = (deactivate F (F.writeMarker s).1).1 ∧
    ((∀ e, (finish P F n s).2 ≠ .err e) ↔ (∀ e, (deactivate F (F.writeMarker s).1).2 ≠ .err e) ∧
      ((deactivate F (F.writeMarker s).1).2 = .ok () → ∀ e, performDone P n.nonce7 n.nonce6 n.client ≠ .err e)) ∧
    (∀ r, (finish P F n s).2 = .ok r → (deactivate F (F.writeMarker s).1).2 = .ok () ∧
      performDone P n.nonce7 n.nonce6 n.client = .ok ()) := by
  unfold finish
  rcases hwrite : F.writeMarker s with ⟨s₂, _ | _⟩
  · rw [hwrite] at hmarked
    cases hmarked
  · rcases hdeactivate : deactivate F s₂ with ⟨s₃, ⟨⟩ | e | _⟩
    · cases performDone P n.nonce7 n.nonce6 n.client with
      | ok u => simp [hdeactivate]
      | err e => simp [hdeactivate]
      | panic => simp [hdeactivate]
    · simp [hdeactivate]
    · simp [hdeactivate]

section

variable {V : ServiceInfoValues P} {tools : DeviceTools P} {F : DeviceFiles M} {draws : DeviceDraws}
  {devcred : DeviceCredential} {to1d : COSESign P} {client : ServiceClient server} {s : M.State}

/-- A run whose marker could not be written. -/
theorem refused_iff (laws : F.Laws) {s₁ : M.State} {n : Negotiated server}
    (hnegotiate : negotiate V tools draws devcred to1d client s = (s₁, .ok n))
    (hmarked : (F.writeMarker s₁).2 = false) :
    Uninterrupted V tools F draws devcred to1d client s ↔ Retryable F s (F.writeMarker s₁).1 := by
  constructor
  · intro h
    obtain ⟨hmarker, hcredential⟩ := h.refused s₁ n hnegotiate hmarked
    exact ⟨hmarker, (laws.writeMarker_credential s₁).trans hcredential⟩
  · refine fun h => ⟨fun s' e heq => ?_, fun s' n' heq _ => ?_, fun s' n' heq hmarked' => ?_⟩
    · cases hnegotiate.symm.trans heq
    · cases hnegotiate.symm.trans heq
      exact ⟨h.marker, (laws.writeMarker_credential s₁).symm.trans h.credential⟩
    · cases hnegotiate.symm.trans heq
      rw [hmarked] at hmarked'
      cases hmarked'

/-- A run whose marker was written. -/
theorem marked_iff {s₁ : M.State} {n : Negotiated server}
    (hnegotiate : negotiate V tools draws devcred to1d client s = (s₁, .ok n))
    (hmarked : (F.writeMarker s₁).2 = true) :
    Uninterrupted V tools F draws devcred to1d client s ↔
      (∀ e, (finish P F n s₁).2 ≠ .err e) ∨
      (F.marker s = true ∧ F.credential (finish P F n s₁).1 = F.credential s) := by
  obtain ⟨hstate, herr, -⟩ := finish_marked (P := P) F n hmarked
  rw [herr, hstate]
  constructor
  · exact fun h => h.completed s₁ n hnegotiate hmarked
  · refine fun h => ⟨fun s' e heq => ?_, fun s' n' heq hmarked' => ?_, fun s' n' heq _ => ?_⟩
    · cases hnegotiate.symm.trans heq
    · cases hnegotiate.symm.trans heq
      rw [hmarked] at hmarked'
      cases hmarked'
    · cases hnegotiate.symm.trans heq
      exact h

/-- A run fails safe exactly if nothing fails after the marker was written. -/
theorem failsSafe_iff_uninterrupted (laws : F.Laws) (hcodec : F.codec.Faithful) :
    FailsSafe V tools F draws devcred to1d client s ↔ Uninterrupted V tools F draws devcred to1d client s := by
  unfold FailsSafe
  rcases hnegotiate : negotiate V tools draws devcred to1d client s with ⟨s₁, n | e | _⟩
  · have hperform : performTo2 V tools F draws devcred to1d client s = finish P F n s₁ := by
      simp only [performTo2, hnegotiate]
    rw [hperform]
    cases hmarked : (F.writeMarker s₁).2 with
    | false =>
        rw [refused_iff laws hnegotiate hmarked]
        rcases hwrite : F.writeMarker s₁ with ⟨s₂, _ | _⟩
        · simp only [finish, hwrite]
        · rw [hwrite] at hmarked
          cases hmarked
    | true =>
        rw [marked_iff hnegotiate hmarked]
        obtain ⟨hstate, -, hok⟩ := finish_marked (P := P) F n hmarked
        have hmarker : F.marker (finish P F n s₁).1 = true := by
          rw [hstate, deactivate_marker laws]
          exact laws.writeMarker_marker s₁ hmarked
        rcases hfinish : finish P F n s₁ with ⟨s', r | e | _⟩
        · rw [hfinish] at hstate hmarker hok
          obtain ⟨hdeactivate, hdone⟩ := hok r rfl
          refine iff_of_true ⟨s₁, n, rfl, performDone_ok hdone, hmarker, ?_⟩ (.inl (by simp))
          have hdeactivated := (deactivate_ok laws hcodec hdeactivate).before (laws.writeMarker_credential s₁)
          rwa [← hstate] at hdeactivated
        · rw [hfinish] at hmarker
          constructor
          · refine fun h => .inr ⟨?_, h.credential⟩
            by_contra hnot
            have hfresh := h.marker (by simpa using hnot)
            rw [hmarker] at hfresh
            cases hfresh
          · rintro (hnone | ⟨hbefore, hcredential⟩)
            · exact absurd rfl (hnone e)
            · exact ⟨fun h => (by rw [hbefore] at h; cases h), hcredential⟩
        · exact iff_of_true trivial (.inl (by simp))
  · have hperform : performTo2 V tools F draws devcred to1d client s = (s₁, .err e) := by
      simp only [performTo2, hnegotiate]
    rw [hperform]
    constructor
    · refine fun h => ⟨fun s' e' heq => ?_, fun s' n heq => ?_, fun s' n heq => ?_⟩
      · cases hnegotiate.symm.trans heq
        exact h
      · cases hnegotiate.symm.trans heq
      · cases hnegotiate.symm.trans heq
    · exact fun h => h.untouched s₁ e hnegotiate
  · have hperform : performTo2 V tools F draws devcred to1d client s = (s₁, .panic) := by
      simp only [performTo2, hnegotiate]
    rw [hperform]
    refine iff_of_true trivial ⟨fun s' e' heq => ?_, fun s' n heq => ?_, fun s' n heq => ?_⟩
    · cases hnegotiate.symm.trans heq
    · cases hnegotiate.symm.trans heq
    · cases hnegotiate.symm.trans heq

end

/-! ## A run with an answer to Done, and one without -/

open Reference OwnerServer VoucherChain

/-- A system of which only the two files are looked at. -/
def sampleMachine : Machine where
  State := Bool × Option Bytes
  createFile s _ _ _ := (s, true)
  output s _ _ := (s, none)
  setup s _ := (s, .ok ())

/-- A credential that is one byte, and is deactivated in place. -/
def sampleDeviceFiles : DeviceFiles sampleMachine where
  Rest := Unit
  codec :=
    { fromSlice := fun data => if data = [1] then some ⟨true, ()⟩ else if data = [0] then some ⟨false, ()⟩ else none
      intoWriter := fun fdc => some [if fdc.active then 1 else 0] }
  method := .deactivate
  marker s := s.1
  credential s := s.2
  writeMarker s := ((true, s.2), true)
  writeCredential s data := ((s.1, some data), true)
  removeCredential s := ((s.1, none), true)

theorem sampleDeviceFiles_laws : sampleDeviceFiles.Laws where
  writeMarker_marker _ _ := rfl
  writeMarker_credential _ := rfl
  writeCredential_credential _ _ _ := rfl
  writeCredential_marker _ _ := rfl
  removeCredential_credential _ _ := rfl
  removeCredential_marker _ := rfl

theorem sampleDeviceFiles_codec : sampleDeviceFiles.codec.Faithful := by
  rintro ⟨_ | _, ⟨⟩⟩ data h
  · obtain rfl := Option.some.inj h
    rfl
  · obtain rfl := Option.some.inj h
    rfl

def sampleTools : DeviceTools (reference .release) where
  getSigner
    | .plain _ privateKey => some privateKey
    | .tpm _ _ _ _ => none
  valueOfProveDevicePayload data := some (.array [.bytes data])
  count n := some ((Wire.head 0).write n)
  moduleItems n names := some (valueWire.write (.array ([.integer 0, .integer n] ++ names.map .text)))

def sampleDeviceDraws : DeviceDraws where
  nonce5 := some (.repeated 5)
  nonce7 := some (.repeated 0x79)
  kex := ⟨fun _ => some [0x77], fun _ => some [0x77], fun n => some (List.replicate n 0x78)⟩
  os := "linux"
  arch := "x86_64"
  prettyName := some (some "Sample")
  subscriptionManager := false
  clevis := false
  binaryfilePathPrefix := none

def sampleValues : ServiceInfoValues (reference .release) where
  json _ := ""
  cbor := valueCbor
  texts := (jsonValues .release).texts
  exitCode := (jsonValues .release).exitCode

/-- The owner server behind a connection that may lose every Done. -/
def samplePeer (losesDone : Bool) : Peer where
  State := (VoucherTransfer.ownerPeer sampleUd VoucherTransfer.sampleAmbient).State
  respond s req :=
    if losesDone && req.messageType == .to2Done then (s, none)
    else (VoucherTransfer.ownerPeer sampleUd VoucherTransfer.sampleAmbient).respond s req

structure SampleRun (losesDone : Bool) where
  devcred : DeviceCredential
  to1d : COSESign (reference .release)
  client : ServiceClient (samplePeer losesDone)

def sampleRun (losesDone : Bool) : Outcome Error (SampleRun losesDone) := do
  let v ← sampleVoucher
  let devcred ← sampleCredential v
  let to1d ← COSESign.new (reference .release) [] [] [3, 1]
  .ok ⟨devcred, to1d, ⟨none, .unencrypted, none, none, true, (0, sampleServer v)⟩⟩

def SampleRun.result {losesDone : Bool} (r : SampleRun losesDone) : (Bool × Option Bytes) × Outcome ClientError Bool :=
  performTo2 sampleValues sampleTools sampleDeviceFiles sampleDeviceDraws r.devcred r.to1d r.client
    (false, some [1])

/-- The run starts without a marker and with an active credential. -/
def SampleRun.FailsSafe {losesDone : Bool} (r : SampleRun losesDone) : Prop :=
  Client.FailsSafe sampleValues sampleTools sampleDeviceFiles sampleDeviceDraws r.devcred r.to1d r.client
    (false, some [1])

theorem failsSafe_sample : ∃ r : SampleRun false, sampleRun false = .ok r ∧
    r.result = ((true, some [0]), .ok false) ∧ r.FailsSafe := by
  have hrun : (do
      let r ← sampleRun false
      Outcome.check (r.result = ((true, some [0]), Outcome.ok false)) Error.cose).isOk = true := by
    decide +kernel
  obtain ⟨_, h⟩ := Outcome.isOk_iff.mp hrun
  obtain ⟨r, hr, hcheck⟩ := Outcome.bind_eq_ok.mp h
  have hresult := Outcome.check_eq_ok.mp hcheck
  refine ⟨r, hr, hresult, (failsSafe_iff_uninterrupted sampleDeviceFiles_laws sampleDeviceFiles_codec).mpr ?_⟩
  unfold SampleRun.result performTo2 at hresult
  rcases hnegotiate : negotiate (M := sampleMachine) sampleValues sampleTools sampleDeviceDraws r.devcred r.to1d
    r.client (false, some [1]) with ⟨s₁, n | e | _⟩
  · simp only [hnegotiate] at hresult
    exact (marked_iff hnegotiate rfl).mpr (.inl (by simp [hresult]))
  · simp only [hnegotiate] at hresult
    cases (Prod.mk.inj hresult).2
  · simp only [hnegotiate] at hresult
    cases (Prod.mk.inj hresult).2

/-- Done is lost: the run fails, and leaves a marker and an inactive credential. -/
theorem lost_done : ∃ r : SampleRun true, sampleRun true = .ok r ∧
    r.result = ((true, some [0]), .err (.response ⟨.internalServerError, "Error sending Done2", .to2Done2⟩)) ∧
    ¬ r.FailsSafe := by
  have hrun : (do
      let r ← sampleRun true
      Outcome.check (r.result = ((true, some [0]),
        Outcome.err (ClientError.response ⟨.internalServerError, "Error sending Done2", .to2Done2⟩))) Error.cose).isOk = true := by
    decide +kernel
  obtain ⟨_, h⟩ := Outcome.isOk_iff.mp hrun
  obtain ⟨r, hr, hcheck⟩ := Outcome.bind_eq_ok.mp h
  have hresult := Outcome.check_eq_ok.mp hcheck
  refine ⟨r, hr, hresult, fun hsafe => ?_⟩
  unfold SampleRun.FailsSafe FailsSafe at hsafe
  unfold SampleRun.result at hresult
  rw [hresult] at hsafe
  exact absurd (hsafe.marker rfl) (by decide)

end FidoOnboard.Client
