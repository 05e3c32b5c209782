import FidoOnboard.Client.To2
import FidoOnboard.DataFormats.VoucherExtend
import FidoOnboard.OwnerServer.Invariant

/-!
# Sending a voucher entry by entry

The loop of the device against the handler of the owner. The device counts in 16
bits, asks in 8 bits and compares the answer in 16 bits.
-/
namespace FidoOnboard.VoucherTransfer
open CborParser CborGrammar CborCorrect VoucherChain VoucherExtend
open Client Server OwnerServer

variable {P : Platform}

/-- The owner server as the peer of a client. What it draws and what fails for its
`k`-th request is given; nobody else is connected. -/
def ownerPeer (ud : OwnerServiceUD P) (ambient : Nat → Surroundings × Draws P) : Peer where
  State := Nat × OwnerState P
  respond
    | (k, s), req =>
      let (s, response) := serve P ud.interoperableKdfAvailable (routes ud (ambient k).2)
        (ambient k).1 s req
      ((k + 1, s), response)

/-- The stores of the server do not fail. -/
def Working (ambient : Nat → Surroundings × Draws P) : Prop :=
  ∀ k, (ambient k).1.loadFails = false ∧ (ambient k).1.storeDataFails = false ∧
    (ambient k).1.storeMetadataFails = false ∧ (ambient k).2.loadDataFails = false

/-- Where GetOVNextEntry may follow. -/
def Fetching (last : Option MessageType) : Prop :=
  To2.getOVNextEntry.isValidPreviousMessage last = true

/-- The server holds a session for the token `hdr` that HelloDevice has opened for the
device of `v`, still in the clear. -/
structure Serving (s : OwnerState P) (hdr : String) (v : OwnershipVoucher P) (id : String)
    (ses : Session OwnerSession) (guid : Guid) : Prop where
  token : P.idFromCookieValue (bearerToken hdr) = some id
  session : s.sessions id = some ses
  named : ses.id = id
  last : Fetching ses.lastMessageType
  plain : ses.keys = .unencrypted
  device : ses.data.deviceGuid = some guid
  voucher : s.userData.vouchers guid = some v

/-- A client in such a session. -/
structure Connected {ud : OwnerServiceUD P} {ambient : Nat → Surroundings × Draws P}
    (client : ServiceClient (ownerPeer ud ambient)) (v : OwnershipVoucher P) : Prop where
  last : Fetching client.lastMessageType
  plain : client.encryptionKeys = .unencrypted
  serving : ∃ hdr id ses guid, client.authorizationToken = some hdr ∧
    Serving client.peer.2 hdr v id ses guid

/-! ## Tokens on the way -/

/-- A token that was read, as it is written again. -/
def rewritten (token : COSESign P) : Bytes := 0xd2 :: 0x84 :: token.contents.contents.flatten

theorem token_rewritten (token : COSESign P) : token.serializeData = .ok (rewritten token) := by
  rw [COSESign.serializeData_eq]
  exact token_serializeData token.tagged

/-- What it takes for bytes to be read as a token. -/
theorem token_inv {raw : Bytes} {token : COSESign P} (h : COSESign.deserializeData P raw = .ok token) :
    P.coseFromBytes (rewritten token) = some token.cachedInner ∧
      (∀ x ∈ token.contents.contents, WellFormed (.machine P.profile) x) ∧
      ∃ tagHead arrayHead rest, Head .tag cosesignTag tagHead ∧ Head .array 4 arrayHead ∧
        raw = tagHead ++ arrayHead ++ token.contents.contents.flatten ++ rest := by
  obtain ⟨array, hread, hof⟩ := Outcome.bind_eq_ok.mp h
  obtain ⟨⟨array₁, rest⟩, hreader, h₁⟩ := Outcome.bind_eq_ok.mp hread
  obtain rfl := Outcome.ok.inj h₁
  unfold COSESign.ofArray at hof
  split at hof
  · split at hof <;> cases hof
  · next htag =>
      obtain ⟨data, hdata, h₂⟩ := Outcome.bind_eq_ok.mp hof
      obtain ⟨inner, hinner, h₃⟩ := Outcome.bind_eq_ok.mp h₂
      obtain rfl := Outcome.ok.inj h₃
      have htag : array₁.tag = some cosesignTag := Decidable.not_not.mp htag
      obtain rfl := Outcome.ok.inj (hdata.symm.trans (token_serializeData htag))
      obtain ⟨tagHead, arrayHead, hraw, hfront, hhead, _, hitems⟩ :=
        deserializeFromReader_ok_iff.mp hreader
      rw [htag] at hfront
      rw [array₁.sized 4 rfl] at hhead
      cases hfront with
      | some hhead' =>
          exact ⟨Outcome.ofOption_eq_ok.mp hinner, hitems, tagHead, arrayHead, rest, hhead', hhead, hraw⟩

/-- The token after another reading: only the remembered header is new. -/
def reread (token : COSESign P) : COSESign P :=
  ⟨{ token.contents with header := some [0xd2, 0x84] }, token.cachedInner, token.tagged⟩

theorem ofArray_eq_ok {array : ParsedArray size4} (htag : array.tag = some cosesignTag)
    {inner : P.CoseSign1} (hinner : P.coseFromBytes (0xd2 :: 0x84 :: array.contents.flatten) = some inner) :
    COSESign.ofArray P array = .ok ⟨array, inner, htag⟩ := by
  rw [COSESign.ofArray, dif_neg (not_not.mpr htag)]
  simp only [token_serializeData htag, Outcome.ok_bind, hinner, Outcome.ofOption]

theorem token_reread {raw : Bytes} {token : COSESign P}
    (h : COSESign.deserializeData P raw = .ok token) :
    COSESign.deserializeData P (rewritten token) = .ok (reread token) := by
  obtain ⟨hinner, hitems, _⟩ := token_inv h
  have hlen : token.contents.contents.length = 4 := token.contents.sized 4 rfl
  have harray : tokenArray token.contents.contents hlen = (reread token).contents :=
    ParsedArray.ext token.tagged.symm rfl rfl
  have hread : ParsedArray.deserializeData P.profile size4 (rewritten token) =
      .ok (reread token).contents := by
    rw [← harray]
    exact token_deserializeData hlen hitems
  rw [COSESign.deserializeData, hread]
  exact @ofArray_eq_ok P (reread token).contents token.tagged _ hinner

theorem rewritten_wellFormed {raw : Bytes} {token : COSESign P}
    (h : COSESign.deserializeData P raw = .ok token) :
    WellFormed (.machine P.profile) (rewritten token) := by
  have harray : WellFormed (.machine P.profile) (0x84 :: token.contents.contents.flatten) :=
    .array head_array_four (token.contents.sized 4 rfl) (token_inv h).2.1
  exact .tag head_cose_tag harray

/-- An entry message is read back, with the number and the token it was made of. -/
theorem ovNextEntry_roundTrip (laws : TransferLaws P) {n : Nat} (hn : n < 2 ^ 16) {raw : Bytes}
    {token : COSESign P} (h : COSESign.deserializeData P raw = .ok token) :
    ∃ data, OVNextEntry.serializeData (P := P) ⟨n, token⟩ = .ok data ∧
      OVNextEntry.deserializeData P data = .ok ⟨n, reread token⟩ := by
  obtain ⟨c0, hc0, hwf, hback⟩ := laws.u16 n hn
  have hitems : ∀ x ∈ [c0, rewritten token], WellFormed (.machine P.profile) x := by
    intro x hx
    rcases List.mem_cons.mp hx with rfl | hx
    · exact CborExact.bounded_to_machine P.profile hwf
    · obtain rfl := List.mem_singleton.mp hx
      exact rewritten_wellFormed h
  have hsized : size2.Sized [c0, rewritten token] := sized_pair c0 (rewritten token)
  obtain ⟨tagHead, arrayHead, hser, _⟩ := CborRoundTrip.serializeData_ok
    (a := build size2 [c0, rewritten token] hsized) (by intro t ht; cases ht) (by decide : 2 < 2 ^ 16)
  obtain ⟨header, _, hread⟩ := CborRoundTrip.deserializeData_serializeData (p := P.profile)
    (a := build size2 [c0, rewritten token] hsized) (by intro t ht; cases ht)
    (by decide : 2 < 2 ^ 16) hitems hser
  have hwrite : OVNextEntry.serializeData (P := P) ⟨n, token⟩ =
      (build size2 [c0, rewritten token] hsized).serializeData := by
    simp only [OVNextEntry.serializeData, Codec.serializeData_eq_ok.mpr hc0, token_rewritten,
      Outcome.ok_bind]
  refine ⟨_, hwrite.trans hser, ?_⟩
  rw [OVNextEntry.deserializeData, hread]
  simp only [Outcome.ok_bind, ParsedArray.get, ParsedArray.getRaw, build, List.getElem?_cons_zero,
    List.getElem?_cons_succ, Codec.deserializeData_eq_ok.mpr hback, token_reread h]

/-! ## One question and its answer -/

section Exchange

variable {ud : OwnerServiceUD P} {ambient : Nat → Surroundings × Draws P} {s : OwnerState P}
  {hdr id : String} {v : OwnershipVoucher P} {ses : Session OwnerSession} {guid : Guid}

/-- The session after an answer. -/
def answeredState (s : OwnerState P) (ses : Session OwnerSession) : OwnerState P where
  sessions := Function.update s.sessions ses.id
    (some { ses with lastMessageType := some .to2OVNextEntry })
  userData := s.userData
  sessionTtls := Function.update s.sessionTtls ses.id (some sessionTtlSecs)

theorem Serving.answered (h : Serving s hdr v id ses guid) :
    Serving (answeredState s ses) hdr v id { ses with lastMessageType := some .to2OVNextEntry } guid where
  token := h.token
  session := by
    rw [← h.named]
    exact Function.update_self ..
  named := h.named
  last := by rfl
  plain := h.plain
  device := h.device
  voucher := h.voucher

/-- Up to the handler nothing goes wrong. -/
theorem Serving.receive (laws : TransferLaws P) (h : Serving s hdr v id ses guid)
    {around : Surroundings} (hload : around.loadFails = false) (draws : Draws P) (kdf : Bool)
    {body : Bytes} (hlen : body.length ≤ contentLengthLimit) {n : Nat}
    (hbody : P.getOVNextEntry.fromSlice body = some n) :
    ∃ reqHash, Server.receive P (handlerGetOvNextEntry draws) around s.sessions
      ⟨.to2GetOVNextEntry, some hdr, kdf, body⟩ = .ok (⟨ses, none, reqHash, kdf⟩, n) := by
  obtain ⟨digest, hdigest⟩ := laws.sha256 body
  have hopen : openSession P To2.getOVNextEntry around s.sessions (some hdr) = .ok (ses, none) := by
    simp only [openSession, h.token, Outcome.ofOption, Outcome.ok_bind, hload, Outcome.check, if_true,
      h.session]
  have hhash : Hash.fromData P .sha256 body = .ok ⟨.sha256, digest⟩ :=
    Hash.fromData_eq_ok.mpr ⟨rfl, .sha256, rfl, hdigest⟩
  have hparse : parseRequest P To2.getOVNextEntry P.getOVNextEntry.deserializeData body ses = .ok n := by
    have hkeys : ses.encryptionKeys.getD .unencrypted = .unencrypted := h.plain
    have hlast : To2.getOVNextEntry.isValidPreviousMessage ses.lastMessageType = true := h.last
    simp only [parseRequest, hlast, Outcome.check, if_true, Outcome.ok_bind, hkeys,
      EncryptionKeys.isSome_unencrypted, EncryptionKeys.decrypt_unencrypted, Outcome.mapErr_ok,
      Codec.deserializeData_eq_ok.mpr hbody]
    rfl
  refine ⟨⟨.sha256, digest⟩, ?_⟩
  refine Outcome.bind_eq_ok.mpr ⟨⟨⟩, Outcome.check_eq_ok.mpr hlen, ?_⟩
  refine Outcome.bind_eq_ok.mpr ⟨_, hopen, ?_⟩
  refine Outcome.bind_eq_ok.mpr ⟨_, Outcome.unwrap_eq_ok.mpr hhash, ?_⟩
  exact Outcome.bind_eq_ok.mpr ⟨n, hparse, rfl⟩

variable (ud) in
/-- An entry that can be read is sent. -/
theorem Serving.serve_entry (laws : TransferLaws P) (hworks : Working ambient)
    (h : Serving s hdr v id ses guid) (k : Nat) (kdf : Bool) {body : Bytes}
    (hlen : body.length ≤ contentLengthLimit) {n : Nat} (hn : n < 2 ^ 16)
    (hbody : P.getOVNextEntry.fromSlice body = some n) {token : COSESign P} {data : Bytes}
    (hentry : v.entry n = .ok token) (hdata : OVNextEntry.serializeData ⟨n, token⟩ = .ok data) :
    serve P ud.interoperableKdfAvailable (routes ud (ambient k).2) (ambient k).1 s
      ⟨.to2GetOVNextEntry, some hdr, kdf, body⟩ = (answeredState s ses,
        some ⟨true, .present .to2OVNextEntry, none, !ud.interoperableKdfAvailable, some data⟩) := by
  obtain ⟨hload, hstore, hmeta, hvoucher⟩ := hworks k
  obtain ⟨reqHash, hreceive⟩ := h.receive laws hload (ambient k).2 kdf hlen hbody
  have hrun : getOvNextEntry (ambient k).2 s.userData ⟨ses, none, reqHash, kdf⟩ n =
      .ok (⟨n, token⟩, ⟨ses, none, reqHash, kdf⟩) := by
    simp only [getOvNextEntry, h.device, require, Outcome.ofOption, Outcome.ok_bind, loadVoucher, hvoucher,
      Outcome.check, if_true, h.voucher, hentry, Outcome.unwrap, Nat.mod_eq_of_lt hn]
  have hroute : routes ud (ambient k).2 .to2GetOVNextEntry = some (handlerGetOvNextEntry (ambient k).2) := rfl
  have hconclude : conclude P ud.interoperableKdfAvailable (handlerGetOvNextEntry (ambient k).2) (ambient k).1
      s.sessions ⟨n, token⟩ ⟨ses, none, reqHash, kdf⟩ = _ :=
    conclude_plain hstore hmeta h.plain rfl hdata
  rw [serve_handled hroute hreceive (congrArg (Prod.mk s.userData) hrun), hconclude,
    storeSessionTtl_stored hstore hmeta]
  rfl

variable (ud) in
/-- One that cannot stops the request: nothing is sent. -/
theorem Serving.serve_noEntry (laws : TransferLaws P) (hworks : Working ambient)
    (h : Serving s hdr v id ses guid) (k : Nat) (kdf : Bool) {body : Bytes}
    (hlen : body.length ≤ contentLengthLimit) {n : Nat}
    (hbody : P.getOVNextEntry.fromSlice body = some n) (hentry : ∀ token, v.entry n ≠ .ok token) :
    (serve P ud.interoperableKdfAvailable (routes ud (ambient k).2) (ambient k).1 s
      ⟨.to2GetOVNextEntry, some hdr, kdf, body⟩).2 = none := by
  obtain ⟨hload, _, _, hvoucher⟩ := hworks k
  obtain ⟨reqHash, hreceive⟩ := h.receive laws hload (ambient k).2 kdf hlen hbody
  have hunwrap : ((v.entry n).unwrap : Outcome Rejection (COSESign P)) = .panic := by
    cases hresult : v.entry n with
    | ok token => exact absurd hresult (hentry token)
    | err e => rfl
    | panic => rfl
  have hrun : getOvNextEntry (ambient k).2 s.userData ⟨ses, none, reqHash, kdf⟩ n = .panic := by
    simp only [getOvNextEntry, h.device, require, Outcome.ofOption, Outcome.ok_bind, loadVoucher, hvoucher,
      Outcome.check, if_true, h.voucher, hunwrap, Outcome.panic_bind]
  have hroute : routes ud (ambient k).2 .to2GetOVNextEntry = some (handlerGetOvNextEntry (ambient k).2) := rfl
  rw [serve_panicked hroute hreceive (congrArg (Prod.mk s.userData) hrun)]

end Exchange

/-! ## One round of the loop -/

section Rounds

variable {ud : OwnerServiceUD P} {ambient : Nat → Surroundings × Draws P}
  {client client' : ServiceClient (ownerPeer ud ambient)} {v : OwnershipVoucher P}

theorem Connected.plainRequest (h : Connected client v) :
    client.Plain To2.getOVNextEntry To2.ovNextEntry :=
  ⟨h.last, rfl, h.plain, rfl, rfl⟩

/-- Asking for an entry that can be read gives that entry, under the number asked for. -/
theorem Connected.ask (laws : TransferLaws P) (hworks : Working ambient) (h : Connected client v)
    {n : Nat} (hn : n < 2 ^ 8) {token : COSESign P} (hentry : v.entry n = .ok token) :
    ∃ client', client.sendRequest P To2.getOVNextEntry To2.ovNextEntry (P.getOVNextEntry.serializeData n)
        (OVNextEntry.deserializeData P) none = .ok (⟨n, reread token⟩, client') ∧
      Connected client' v := by
  obtain ⟨hdr, id, ses, guid, htoken, hserving⟩ := h.serving
  obtain ⟨body, hbody, hlen, hread⟩ := laws.getOVNextEntry n hn
  obtain ⟨raw, _, hraw⟩ := get_eq_ok.mp hentry
  obtain ⟨data, hdata, hback⟩ := ovNextEntry_roundTrip laws (Nat.lt_of_lt_of_le hn (by decide)) hraw
  have hlimit : body.length ≤ contentLengthLimit := Nat.le_trans hlen (by decide)
  have hserve := hserving.serve_entry ud laws hworks client.peer.1
    (!client.interoperableKdfAvailable) hlimit (Nat.lt_of_lt_of_le hn (by decide)) hread hentry hdata
  have hrespond : (ownerPeer ud ambient).respond client.peer ⟨.to2GetOVNextEntry,
      client.authorizationToken, !client.interoperableKdfAvailable, body⟩ =
      ((client.peer.1 + 1, answeredState client.peer.2 ses), some ⟨true, .present .to2OVNextEntry, none,
        !ud.interoperableKdfAvailable, some data⟩) := by
    rw [htoken]
    exact congrArg (fun r => ((client.peer.1 + 1, r.1), r.2)) hserve
  exact ⟨_, ServiceClient.sendRequest_answered h.plainRequest (Codec.serializeData_eq_ok.mpr hbody)
    hrespond hback, rfl, h.plain, hdr, id, _, guid, htoken, hserving.answered⟩

/-- Asking for any other gives nothing. -/
theorem Connected.ask_fails (laws : TransferLaws P) (hworks : Working ambient) (h : Connected client v)
    {n : Nat} (hn : n < 2 ^ 8) (hentry : ∀ token, v.entry n ≠ .ok token) :
    client.sendRequest P To2.getOVNextEntry To2.ovNextEntry (P.getOVNextEntry.serializeData n)
      (OVNextEntry.deserializeData P) none = .err .request := by
  obtain ⟨hdr, id, ses, guid, htoken, hserving⟩ := h.serving
  obtain ⟨body, hbody, hlen, hread⟩ := laws.getOVNextEntry n hn
  have hlimit : body.length ≤ contentLengthLimit := Nat.le_trans hlen (by decide)
  have hserve := hserving.serve_noEntry ud laws hworks client.peer.1
    (!client.interoperableKdfAvailable) hlimit hread hentry
  have hrespond : (ownerPeer ud ambient).respond client.peer ⟨.to2GetOVNextEntry,
      client.authorizationToken, !client.interoperableKdfAvailable, body⟩ =
      (((ownerPeer ud ambient).respond client.peer ⟨.to2GetOVNextEntry, client.authorizationToken,
        !client.interoperableKdfAvailable, body⟩).1, none) := by
    rw [htoken]
    exact Prod.ext rfl hserve
  exact ServiceClient.sendRequest_unanswered h.plainRequest (Codec.serializeData_eq_ok.mpr hbody) hrespond

/-- A round below 256 appends the entry that was asked for. -/
theorem getOvEntry_ok (laws : TransferLaws P) (hworks : Working ambient) (h : Connected client v)
    {n : Nat} (hn : n < 2 ^ 8) {token : COSESign P} (hentry : v.entry n = .ok token)
    (entries : ParsedArray .dynamic) :
    ∃ client', getOvEntry P n entries client = .ok (entries.push (rewritten token), client') ∧
      Connected client' v := by
  obtain ⟨client', hask, hconnected⟩ := h.ask laws hworks hn hentry
  refine ⟨client', ?_, hconnected⟩
  have hrewritten : (reread token).serializeData = .ok (rewritten token) := token_rewritten (reread token)
  simp only [getOvEntry, Nat.mod_eq_of_lt hn, hask, Outcome.mapErr_ok, Outcome.ok_bind, Outcome.check,
    if_true, hrewritten]

/-- A round that succeeds was one of those: from 256 on the answer carries another number. -/
theorem getOvEntry_inv (laws : TransferLaws P) (hworks : Working ambient) (h : Connected client v)
    {n : Nat} {entries : ParsedArray .dynamic} {r : ParsedArray .dynamic × ServiceClient (ownerPeer ud ambient)}
    (hround : getOvEntry P n entries client = .ok r) :
    n < 2 ^ 8 ∧ ∃ token, v.entry n = .ok token := by
  have hmod : n % 2 ^ 8 < 2 ^ 8 := Nat.mod_lt _ (by decide)
  obtain ⟨⟨result, client₁⟩, hsend, h₁⟩ := Outcome.bind_eq_ok.mp hround
  obtain ⟨_, hcheck, _⟩ := Outcome.bind_eq_ok.mp h₁
  rw [Outcome.mapErr_eq_ok] at hsend
  rw [Outcome.check_eq_ok] at hcheck
  by_cases hentry : ∃ token, v.entry (n % 2 ^ 8) = .ok token
  · obtain ⟨token, htoken⟩ := hentry
    obtain ⟨client₂, hask, _⟩ := h.ask laws hworks hmod htoken
    rw [hask] at hsend
    have hresult : result.entryNum = n % 2 ^ 8 :=
      congrArg OVNextEntry.entryNum (Prod.mk.inj (Outcome.ok.inj hsend)).1.symm
    have hnum : n % 2 ^ 8 = n := hresult.symm.trans hcheck
    exact ⟨hnum ▸ hmod, token, by rwa [hnum] at htoken⟩
  · rw [h.ask_fails laws hworks hmod fun token htoken => hentry ⟨token, htoken⟩] at hsend
    cases hsend

end Rounds

/-! ## The whole loop -/

/-- Two encodings of a token with the same four elements, behind heads of their own. -/
def SameToken (p : Profile) (raw item : Bytes) : Prop :=
  ∃ (tagHead arrayHead : Bytes) (items : List Bytes), Head .tag cosesignTag tagHead ∧
    Head .array 4 arrayHead ∧ (∀ x ∈ items, WellFormed (.machine p) x) ∧ items.length = 4 ∧
    raw = tagHead ++ arrayHead ++ items.flatten ∧ item = 0xd2 :: 0x84 :: items.flatten

/-- What the device holds of an entry: the token that was read, written again. -/
def Sent (P : Platform) (raw item : Bytes) : Prop :=
  ∃ token, COSESign.deserializeData P raw = .ok token ∧ item = rewritten token

/-- All entries have arrived, in order. -/
def Delivered (v : OwnershipVoucher P) (entries : ParsedArray .dynamic) : Prop :=
  List.Forall₂ (SameToken P.profile) v.cachedEntries.contents entries.contents

/-- An entry of a stored voucher is the token and nothing behind it. -/
theorem sameToken_rewritten {raw : Bytes} {token : COSESign P}
    (h : COSESign.deserializeData P raw = .ok token) (hwf : WellFormed (.machine P.profile) raw) :
    SameToken P.profile raw (rewritten token) := by
  obtain ⟨_, hitems, tagHead, arrayHead, rest, htag, harray, hraw⟩ := token_inv h
  have hlen : token.contents.contents.length = 4 := token.contents.sized 4 rfl
  have hone : WellFormed (.machine P.profile) (tagHead ++ arrayHead ++ token.contents.contents.flatten) := by
    rw [List.append_assoc]
    exact .tag htag (.array harray hlen hitems)
  have hwhole : raw = tagHead ++ arrayHead ++ token.contents.contents.flatten :=
    (wellFormed_iff_items.mp hwf).prefix_unique (machine_below P.profile) (wellFormed_iff_items.mp hone)
      (r := []) (s := rest) (by rw [List.append_nil, hraw])
  exact ⟨tagHead, arrayHead, _, htag, harray, hitems, hlen, hwhole, rfl⟩

theorem sameToken_of_sent {raws items : List Bytes} (h : List.Forall₂ (Sent P) raws items)
    (hwf : ∀ x ∈ raws, WellFormed (.machine P.profile) x) :
    List.Forall₂ (SameToken P.profile) raws items := by
  induction h with
  | nil => exact .nil
  | @cons raw item raws items hsent _ ih =>
      obtain ⟨token, hdecode, rfl⟩ := hsent
      exact .cons (sameToken_rewritten hdecode (hwf raw List.mem_cons_self))
        (ih fun x hx => hwf x (List.mem_cons_of_mem _ hx))

section Loop

variable {ud : OwnerServiceUD P} {ambient : Nat → Surroundings × Draws P}
  {client : ServiceClient (ownerPeer ud ambient)} {v : OwnershipVoucher P}

/-- The loop from `n` on appends the entries from `n` on. -/
theorem getOvEntriesFrom_ok (laws : TransferLaws P) (hworks : Working ambient) (h : Connected client v)
    {n remaining : Nat} (hsum : n + remaining = v.cachedEntries.len) (hfits : v.cachedEntries.len ≤ 2 ^ 8)
    (hentries : ∀ i < v.cachedEntries.len, ∃ token, v.entry i = .ok token)
    (entries : ParsedArray .dynamic) :
    ∃ items client', getOvEntriesFrom P n remaining entries client =
        .ok ({ entries with
          contents := entries.contents ++ items, sized := ParsedArraySize.sized_of_none rfl _ }, client') ∧
      List.Forall₂ (Sent P) (v.cachedEntries.contents.drop n) items := by
  induction remaining generalizing n entries client with
  | zero =>
      refine ⟨[], client, ?_, ?_⟩
      · simp only [getOvEntriesFrom, List.append_nil]
      · rw [List.drop_eq_nil_of_le (by simp only [ParsedArray.len] at hsum; omega)]
        exact .nil
  | succ remaining ih =>
      obtain ⟨token, hentry⟩ := hentries n (by omega)
      obtain ⟨raw, hraw, hdecode⟩ := get_eq_ok.mp hentry
      obtain ⟨client₁, hround, hconnected⟩ := getOvEntry_ok laws hworks h (by omega) hentry entries
      obtain ⟨items, client', hrest, hsent⟩ :=
        ih hconnected (n := n + 1) (by omega) (entries.push (rewritten token))
      obtain ⟨hlt, hget⟩ := List.getElem?_eq_some_iff.mp hraw
      refine ⟨rewritten token :: items, client', ?_, ?_⟩
      · simp only [getOvEntriesFrom, hround, Outcome.ok_bind, hrest]
        simp only [ParsedArray.push, List.append_assoc, List.singleton_append]
      · rw [List.drop_eq_getElem_cons hlt, hget]
        exact .cons ⟨token, hdecode, rfl⟩ hsent

/-- A loop that comes to its end has had no bad round. -/
theorem getOvEntriesFrom_inv (laws : TransferLaws P) (hworks : Working ambient) (h : Connected client v)
    {n remaining : Nat} {entries : ParsedArray .dynamic}
    {r : ParsedArray .dynamic × ServiceClient (ownerPeer ud ambient)}
    (hloop : getOvEntriesFrom P n remaining entries client = .ok r) :
    ∀ i, n ≤ i → i < n + remaining → i < 2 ^ 8 ∧ ∃ token, v.entry i = .ok token := by
  induction remaining generalizing n entries client with
  | zero =>
      intro i hle hlt
      omega
  | succ remaining ih =>
      intro i hle hlt
      obtain ⟨⟨entries₁, client₁⟩, hround, hrest⟩ := Outcome.bind_eq_ok.mp hloop
      obtain ⟨hn, token, hentry⟩ := getOvEntry_inv laws hworks h hround
      obtain ⟨client₂, hround₂, hconnected⟩ := getOvEntry_ok laws hworks h hn hentry entries
      obtain ⟨rfl, rfl⟩ := Prod.mk.inj (Outcome.ok.inj (hround.symm.trans hround₂))
      rcases Nat.eq_or_lt_of_le hle with rfl | hlt'
      · exact ⟨hn, token, hentry⟩
      · exact ih hconnected hrest i hlt' (by omega)

theorem numEntries_eq (hlen : v.cachedEntries.len < 2 ^ 16) : v.numEntries = v.cachedEntries.len :=
  Nat.mod_eq_of_lt hlen

/-- More than 256 entries are never sent. -/
theorem getOvEntries_le (laws : TransferLaws P) (hworks : Working ambient) (h : Connected client v)
    (hlen : v.cachedEntries.len < 2 ^ 16) {r : ParsedArray .dynamic × ServiceClient (ownerPeer ud ambient)}
    (hloop : getOvEntries P client v.numEntries = .ok r) : v.cachedEntries.len ≤ 2 ^ 8 := by
  rw [numEntries_eq hlen] at hloop
  by_contra hgt
  have hround := (getOvEntriesFrom_inv laws hworks h hloop (2 ^ 8) (Nat.zero_le _) (by omega)).1
  omega

/-- The device gets the entries of the voucher exactly when there are at most 256 of
them and the server can read each. -/
theorem getOvEntries_delivers (laws : TransferLaws P) (hworks : Working ambient) (hv : Ready v)
    (h : Connected client v) (hlen : v.cachedEntries.len < 2 ^ 16) :
    (∃ entries client', getOvEntries P client v.numEntries = .ok (entries, client') ∧
      Delivered v entries) ↔
    v.cachedEntries.len ≤ 2 ^ 8 ∧ ∀ i < v.cachedEntries.len, ∃ token, v.entry i = .ok token := by
  constructor
  · rintro ⟨entries, client', hloop, _⟩
    refine ⟨getOvEntries_le laws hworks h hlen hloop, fun i hi => ?_⟩
    rw [numEntries_eq hlen] at hloop
    exact (getOvEntriesFrom_inv laws hworks h hloop i (Nat.zero_le _) (by omega)).2
  · rintro ⟨hfits, hentries⟩
    obtain ⟨items, client', hloop, hsent⟩ := getOvEntriesFrom_ok laws hworks h (Nat.zero_add _) hfits
      hentries ParsedArray.newEmpty
    rw [numEntries_eq hlen]
    exact ⟨_, client', hloop, sameToken_of_sent hsent hv.entries_wellFormed.2⟩

end Loop

/-! ## A device that fetches two entries, and one that would need 257 -/

open Reference

def sampleAmbient (k : Nat) : Surroundings × Draws (reference .release) :=
  (⟨"a", 0, false, false, false⟩, sampleDraws (UInt8.ofNat k))

theorem sampleAmbient_working : Working sampleAmbient := fun _ => ⟨rfl, rfl, rfl, rfl⟩

abbrev SampleClient := ServiceClient (ownerPeer sampleUd sampleAmbient)

/-- A device that has not said anything yet. -/
def sampleDevice (v : OwnershipVoucher (reference .release)) : SampleClient :=
  ⟨none, .unencrypted, none, none, true, (0, sampleServer v)⟩

/-- HelloDevice, as the device of the sample voucher sends it. -/
def sampleHello : Outcome ClientError SampleClient := do
  let v ← sampleVoucher.unwrap
  let devcred ← (sampleCredential v).unwrap
  let (_, client) ← performHellodevice (reference .release) devcred (sampleDevice v) sampleNonce5
    .stSECP384R1 .ecdh256 .a128Gcm
  .ok client

theorem getOvEntries_delivers_sample : ∃ (client : SampleClient) (v : OwnershipVoucher (reference .release)),
    sampleHello = .ok client ∧ Connected client v ∧ v.cachedEntries.len = 2 ∧
    ∃ entries client', getOvEntries (reference .release) client v.numEntries = .ok (entries, client') ∧
      Delivered v entries := by
  have hrun : (do
      let client ← sampleHello
      let v ← (Outcome.ofOption Error.cose
        (client.peer.2.userData.vouchers ⟨List.replicate 16 7⟩)).unwrap
      let ses ← (Outcome.ofOption Error.cose (client.peer.2.sessions "a")).unwrap
      (Outcome.check (client.lastMessageType = some MessageType.to2ProveOVHdr ∧
        client.encryptionKeys = .unencrypted ∧ client.authorizationToken = some "Bearer a") Error.cose).unwrap
      (Outcome.check (ses.id = "a" ∧ ses.lastMessageType = some MessageType.to2ProveOVHdr ∧
        ses.keys = .unencrypted ∧ ses.data.deviceGuid = some ⟨List.replicate 16 7⟩) Error.cose).unwrap
      (Outcome.check (v.header.hdrInfo.isOk = true ∧ v.hdrBytes.isOk = true ∧
        v.contents.get (ParsedArray.deserializeData .release .dynamic) 4 = .ok v.cachedEntries) Error.cose).unwrap
      (Outcome.check (v.cachedEntries.len = 2 ∧ ∀ i : Fin 2, (v.entry i).isOk = true)
        Error.cose).unwrap : Outcome ClientError PUnit).isOk = true := by
    decide +kernel
  obtain ⟨_, h⟩ := Outcome.isOk_iff.mp hrun
  obtain ⟨client, hclient, h₁⟩ := Outcome.bind_eq_ok.mp h
  obtain ⟨v, hv, h₂⟩ := Outcome.bind_eq_ok.mp h₁
  obtain ⟨ses, hses, h₃⟩ := Outcome.bind_eq_ok.mp h₂
  obtain ⟨_, hstate, h₄⟩ := Outcome.bind_eq_ok.mp h₃
  obtain ⟨_, hsession, h₅⟩ := Outcome.bind_eq_ok.mp h₄
  obtain ⟨_, hready, hentries⟩ := Outcome.bind_eq_ok.mp h₅
  rw [Outcome.unwrap_eq_ok] at hv hses hstate hsession hready hentries
  rw [Outcome.ofOption_eq_ok] at hv hses
  obtain ⟨hlast, hplain, htoken⟩ := Outcome.check_eq_ok.mp hstate
  obtain ⟨hid, hseslast, hkeys, hguid⟩ := Outcome.check_eq_ok.mp hsession
  obtain ⟨hinfo, hbytes, harray⟩ := Outcome.check_eq_ok.mp hready
  obtain ⟨hlen, hread⟩ := Outcome.check_eq_ok.mp hentries
  have hconnected : Connected client v := by
    refine ⟨by rw [hlast]; rfl, hplain, "Bearer a", "a", ses, ⟨List.replicate 16 7⟩, htoken, ?_⟩
    exact ⟨by decide, hses, hid, by rw [hseslast]; rfl, hkeys, hguid, hv⟩
  refine ⟨client, v, hclient, hconnected, hlen, ?_⟩
  exact (getOvEntries_delivers (transferLaws .release) sampleAmbient_working
    ⟨Outcome.isOk_iff.mp hinfo, Outcome.isOk_iff.mp hbytes, harray⟩ hconnected (by omega)).mpr
    ⟨by omega, fun i hi => Outcome.isOk_iff.mp (hread ⟨i, by omega⟩)⟩

/-- Key 1 hands the voucher on to itself. -/
def sampleHandover : Handover (reference .release) := ⟨[1, 1], none, sampleKey 1⟩

theorem sampleHandovers_authorised (version : ProtocolVersion) (n : Nat) :
    Authorised version (sampleKey 1) (List.replicate n sampleHandover) := by
  induction n with
  | zero => trivial
  | succ n ih =>
      exact ⟨signsFor _ _, ⟨by simp [sampleHandover, ExtraKeysFit], by decide, sampleKey_reparses 1⟩,
        .inl rfl, ih⟩

theorem finalOwner_sampleHandovers (n : Nat) :
    finalOwner (sampleKey 1) (List.replicate n sampleHandover) = sampleKey 1 := by
  induction n with
  | zero => rfl
  | succ n ih => exact ih

/-- Valid vouchers come in every length. -/
theorem exists_voucher {n : Nat} (hn : n < 2 ^ 16) : ∃ v : OwnershipVoucher (reference .release),
    Ready v ∧ Owner v (sampleKey 1) ∧ v.cachedEntries.len = n := by
  obtain ⟨v, _, hobtained, howner, _, hentries⟩ := sampleBlank_owner
  have hempty : v.cachedEntries.len = 0 := by rw [hentries]; rfl
  obtain ⟨v', _, _, hready, hlen, howner'⟩ := extendAll_ok (voucherLaws .release) (coseLaws .release)
    (hobtained.ready (voucherLaws .release)) howner (sampleHandovers_authorised _ n)
    (by rw [hentries]; simp [CborRoundTrip.TagFits, ParsedArray.newEmpty])
    (by rw [hempty, List.length_replicate]; omega)
  rw [finalOwner_sampleHandovers] at howner'
  exact ⟨v', hready, howner', by rw [hlen, hempty, List.length_replicate, Nat.zero_add]⟩

/-- The session as HelloDevice leaves it. -/
def sampleSession : Session OwnerSession where
  id := "a"
  lastMessageType := some .to2ProveOVHdr
  encryptionKeys := none
  data :=
    { (default : OwnerSession) with
      deviceGuid := some ⟨List.replicate 16 7⟩
      nonce6 := some ⟨List.replicate 16 0⟩
      ciphersuite := some .a128Gcm
      aKeyExchange := some (.ecdh .ecdh256 [0] (List.replicate 16 0)) }

/-- A device that has been told how many entries there are. -/
def sampleFetching (v : OwnershipVoucher (reference .release)) : SampleClient :=
  ⟨some "Bearer a", .unencrypted, some .to2ProveOVHdr, some false, true,
    (1, { sampleServer v with sessions := fun id => if id = "a" then some sampleSession else none })⟩

theorem sampleFetching_connected (v : OwnershipVoucher (reference .release)) :
    Connected (sampleFetching v) v := by
  refine ⟨rfl, rfl, "Bearer a", "a", sampleSession, ⟨List.replicate 16 7⟩, rfl, ?_⟩
  exact ⟨by decide, by simp [sampleFetching], rfl, rfl, rfl, rfl, by simp [sampleFetching, sampleServer]⟩

/-- A valid voucher with 257 entries does not get through. -/
theorem getOvEntries_fails_257 : ∃ v : OwnershipVoucher (reference .release),
    Ready v ∧ Owner v (sampleKey 1) ∧ v.cachedEntries.len = 257 ∧ Connected (sampleFetching v) v ∧
    ¬ ∃ entries client', getOvEntries (reference .release) (sampleFetching v) v.numEntries =
      .ok (entries, client') ∧ Delivered v entries := by
  obtain ⟨v, hready, howner, hlen⟩ := exists_voucher (n := 257) (by decide)
  refine ⟨v, hready, howner, hlen, sampleFetching_connected v, ?_⟩
  rintro ⟨entries, client', hloop, _⟩
  have hle := getOvEntries_le (transferLaws .release) sampleAmbient_working (sampleFetching_connected v)
    (by omega) hloop
  omega

end FidoOnboard.VoucherTransfer
