import FidoOnboard.Base.FormUrlencoded
import FidoOnboard.ServiceInfoApiServer.Handlers
import FidoOnboard.Store.Calls
import Mathlib.Algebra.Order.BigOperators.Group.List

/-!
# The query between the owner and the service info API

`JsonClient::send_get` puts keys and values into the query as they are, and
`perform_service_info` joins the module names with commas.
-/
namespace FidoOnboard.ServiceInfoApiServer
open FormUrlencoded Splitting Utf8
open Stores (GuidKey)

/-! ## The owner -/

/-- The query of `JsonClient::send_get`. -/
def sendGet (query : List (List Char × List Char)) : Bytes :=
  setQuery (['&'].intercalate (query.map fun (k, v) => k ++ '=' :: v))

/-- The query of `perform_service_info`, with the module list in the order its set is walked in. -/
def serviceInfoQuery (deviceGuid : GuidKey) (moduleList : List String) : Bytes :=
  sendGet [("serviceinfo_api_version".toList, "1".toList), ("device_guid".toList, deviceGuid.toText),
    ("modules".toList, [','].intercalate (moduleList.map String.toList))]

/-! ## The server -/

/-- `u32::from_str`. -/
def u32FromStr : List Char → Option Nat := u32FromStrRadix 10

/-- `Uuid::from_str` reads the form that `Display` writes. -/
structure UuidFromStr where
  fromStr : List Char → Option Bytes
  hyphenated : ∀ key : GuidKey, fromStr key.toText = some key.guid.value

/-- The names of the fields of `QueryInfo`. -/
def apiVersionName : List Char := "serviceinfo_api_version".toList

def deviceGuidName : List Char := "device_guid".toList

def modulesName : List Char := "modules".toList

/-- The fields that have been met. -/
structure QueryFields where
  apiVersion : Option Nat
  deviceGuid : Option Guid
  modules : Option (List ServiceInfoModule)

def deserializeFromCommaSeparatedStrings (s : List Char) : List ServiceInfoModule :=
  ((s.splitOn ',').map fun s => .fromStr (String.ofList s)).eraseDups

/-- A field may be met once; other names are passed over. -/
def visitField (U : UuidFromStr) (fields : QueryFields) (pair : List Char × List Char) : Option QueryFields :=
  if pair.1 = apiVersionName then
    match fields.apiVersion with
    | some _ => none
    | none => (u32FromStr pair.2).map fun version => { fields with apiVersion := some version }
  else if pair.1 = deviceGuidName then
    match fields.deviceGuid with
    | some _ => none
    | none => (U.fromStr pair.2).map fun guid => { fields with deviceGuid := some ⟨guid⟩ }
  else if pair.1 = modulesName then
    match fields.modules with
    | some _ => none
    | none => some { fields with modules := some (deserializeFromCommaSeparatedStrings pair.2) }
  else some fields

/-- No field may be missing. -/
def deserializeQueryInfo (U : UuidFromStr) (query : Bytes) : Option QueryInfo := do
  let fields ← (parse query).foldlM (visitField U) ⟨none, none, none⟩
  let apiVersion ← fields.apiVersion
  let deviceGuid ← fields.deviceGuid
  let modules ← fields.modules
  some ⟨apiVersion, deviceGuid, modules⟩

theorem decode_toText (key : GuidKey) :
    Hex.decode (key.toText.filter (· ≠ '-')) = some key.guid.value := by
  rw [GuidKey.toText, Stores.filter_uuidText, Hex.decode_encode]

/-- Text without its hyphens as hexadecimal digits. -/
def plainUuid : UuidFromStr where
  fromStr text := Hex.decode (text.filter (· ≠ '-'))
  hyphenated := decode_toText

/-! ## What the server reads -/

theorem mem_toText {key : GuidKey} {c : Char} (h : c ∈ key.toText) :
    c ∉ ['&', '=', '+', '%'] ∧ isTabOrNewline c = false := by
  have hdigit : ∀ n < 16, Hex.digit n ∉ ['&', '=', '+', '%'] ∧
      isTabOrNewline (Hex.digit n) = false := by decide
  have hhex : ∀ {v : Bytes}, c ∈ Hex.encode v → c ∉ ['&', '=', '+', '%'] ∧ isTabOrNewline c = false := by
    intro v hc
    obtain ⟨n, hn, rfl⟩ := Hex.mem_encode hc
    exact hdigit n hn
  simp only [GuidKey.toText, Stores.uuidText, List.mem_append, List.mem_cons] at h
  rcases h with h | rfl | h | rfl | h | rfl | h | rfl | h
  all_goals first | exact hhex h | decide

theorem decodeText_toText (key : GuidKey) : decodeText key.toText = key.toText := by
  refine decodeText_plain (fun h => ?_) (hasEscape_eq_false fun h => ?_)
  · exact absurd (mem_toText h).1 (by decide)
  · exact absurd (mem_toText ((toUInt8_mem_encode (show isAscii '%' by decide)).mp h)).1 (by decide)

/-- The value of `modules` without tabs and line breaks, cut at its ampersands. -/
def moduleSegments (moduleList : List String) : List (List Char) :=
  (([','].intercalate (moduleList.map String.toList)).filter fun c => !isTabOrNewline c).splitOn '&'

theorem parse_serviceInfoQuery {key : GuidKey} {moduleList : List String} {head : List Char}
    {rest : List (List Char)} (h : moduleSegments moduleList = head :: rest) :
    parse (serviceInfoQuery key moduleList) =
      (apiVersionName, "1".toList) :: (deviceGuidName, key.toText) ::
        (modulesName, decodeText head) :: (rest.filter (· ≠ [])).map (pair ∘ encode) := by
  have hguid : key.toText.filter (fun c => !isTabOrNewline c) = key.toText := by
    refine List.filter_eq_self.mpr fun c hc => ?_
    simp [(mem_toText hc).2]
  have hnone : '&' ∉ "device_guid=".toList ++ key.toText := by
    rw [List.mem_append]
    rintro (hc | hc)
    · exact absurd hc (by decide)
    · exact absurd (mem_toText hc).1 (by decide)
  have htext : (['&'].intercalate ([("serviceinfo_api_version".toList, "1".toList),
        ("device_guid".toList, key.toText),
        ("modules".toList, [','].intercalate (moduleList.map String.toList))].map
          fun (k, v) => k ++ '=' :: v)).filter (fun c => !isTabOrNewline c) =
      "serviceinfo_api_version=1".toList ++ '&' :: (("device_guid=".toList ++ key.toText) ++ '&' ::
        ("modules=".toList ++
          ([','].intercalate (moduleList.map String.toList)).filter fun c => !isTabOrNewline c)) := by
    have hjoin : ∀ a b c : List Char, ['&'].intercalate [a, b, c] = a ++ '&' :: (b ++ '&' :: c) := by
      intro a b c
      simp [List.intercalate]
    rw [List.map_cons, List.map_cons, List.map_cons, List.map_nil, hjoin]
    simp only [List.filter_append, List.filter_cons, hguid]
    rfl
  have hversion : pair (encode "serviceinfo_api_version=1".toList) = (apiVersionName, "1".toList) := by
    decide +kernel
  have hdevice : pair (encode ("device_guid=".toList ++ key.toText)) = (deviceGuidName, key.toText) := by
    have hname : decodeText deviceGuidName = deviceGuidName := by decide +kernel
    have hpair : pair (encode (deviceGuidName ++ '=' :: key.toText)) = (decodeText _, decodeText _) :=
      pair_encode (by decide)
    rw [hname, decodeText_toText] at hpair
    exact hpair
  have hmodules : pair (encode ("modules=".toList ++ head)) = (modulesName, decodeText head) := by
    have hname : decodeText modulesName = modulesName := by decide +kernel
    have hpair : pair (encode (modulesName ++ '=' :: head)) = (decodeText _, decodeText _) :=
      pair_encode (by decide)
    rw [hname] at hpair
    exact hpair
  rw [serviceInfoQuery, sendGet, parse_setQuery, htext,
    List.splitOn_append_cons_self_of_not_mem (by decide), List.splitOn_append_cons_self_of_not_mem hnone,
    splitOn_append_of_not_mem (by decide)]
  change List.map _ (List.filter _ (_ :: _ :: List.modifyHead _ (moduleSegments moduleList))) = _
  rw [h, List.modifyHead_cons, List.filter_cons_of_pos (by decide), List.filter_cons_of_pos (by simp),
    List.filter_cons_of_pos (by simp), List.map_cons, List.map_cons, List.map_cons, Function.comp_apply,
    Function.comp_apply, Function.comp_apply, hversion, hdevice, hmodules]

/-! ## What the device cannot choose -/

/-- Once all fields are there, another pair can only make the reading fail. -/
theorem foldlM_visitField (U : UuidFromStr) {version : Nat} {guid : Guid} {modules : List ServiceInfoModule}
    {fields : QueryFields} {pairs : List (List Char × List Char)}
    (h : pairs.foldlM (visitField U) ⟨some version, some guid, some modules⟩ = some fields) :
    fields = ⟨some version, some guid, some modules⟩ := by
  induction pairs with
  | nil =>
      cases h
      rfl
  | cons pair pairs ih =>
      rw [List.foldlM_cons, Option.bind_eq_bind, Option.bind_eq_some_iff] at h
      obtain ⟨next, hnext, hrest⟩ := h
      have hsame : next = ⟨some version, some guid, some modules⟩ := by
        unfold visitField at hnext
        split_ifs at hnext
        cases hnext
        rfl
      subst hsame
      exact ih hrest

theorem foldlM_serviceInfoQuery (U : UuidFromStr) {key : GuidKey} {moduleList : List String} {head : List Char}
    {rest : List (List Char)} (h : moduleSegments moduleList = head :: rest) :
    (parse (serviceInfoQuery key moduleList)).foldlM (visitField U) ⟨none, none, none⟩ =
      ((rest.filter (· ≠ [])).map (pair ∘ encode)).foldlM (visitField U)
        ⟨some 1, some key.guid, some (deserializeFromCommaSeparatedStrings (decodeText head))⟩ := by
  have hversion : visitField U ⟨none, none, none⟩ (apiVersionName, "1".toList) = some ⟨some 1, none, none⟩ := by
    have hone : u32FromStr "1".toList = some 1 := by decide
    rw [visitField, if_pos rfl]
    simp only [hone, Option.map_some]
  have hdevice : visitField U ⟨some 1, none, none⟩ (deviceGuidName, key.toText) =
      some ⟨some 1, some key.guid, none⟩ := by
    have hother : deviceGuidName ≠ apiVersionName := by decide
    rw [visitField, if_neg hother, if_pos rfl]
    simp only [U.hyphenated, Option.map_some]
  have hmodules : visitField U ⟨some 1, some key.guid, none⟩ (modulesName, decodeText head) =
      some ⟨some 1, some key.guid, some (deserializeFromCommaSeparatedStrings (decodeText head))⟩ := by
    have hother : modulesName ≠ apiVersionName := by decide
    have hother' : modulesName ≠ deviceGuidName := by decide
    rw [visitField, if_neg hother, if_neg hother', if_pos rfl]
  rw [parse_serviceInfoQuery h, List.foldlM_cons, hversion, Option.bind_eq_bind, Option.bind_some,
    List.foldlM_cons, hdevice, Option.bind_eq_bind, Option.bind_some, List.foldlM_cons, hmodules,
    Option.bind_eq_bind, Option.bind_some]

/-- Whatever the device sends, what is read is about the session's own guid. -/
theorem deserializeQueryInfo_session (U : UuidFromStr) {key : GuidKey} {moduleList : List String} {head : List Char}
    {rest : List (List Char)} (h : moduleSegments moduleList = head :: rest) {info : QueryInfo}
    (hinfo : deserializeQueryInfo U (serviceInfoQuery key moduleList) = some info) :
    info = ⟨1, key.guid, deserializeFromCommaSeparatedStrings (decodeText head)⟩ := by
  rw [deserializeQueryInfo, foldlM_serviceInfoQuery U h, Option.bind_eq_bind, Option.bind_eq_some_iff] at hinfo
  obtain ⟨fields, hfields, hread⟩ := hinfo
  rw [foldlM_visitField U hfields] at hread
  cases hread
  rfl

theorem deserializeQueryInfo_single (U : UuidFromStr) {key : GuidKey} {moduleList : List String} {head : List Char}
    (h : moduleSegments moduleList = [head]) :
    deserializeQueryInfo U (serviceInfoQuery key moduleList) =
      some ⟨1, key.guid, deserializeFromCommaSeparatedStrings (decodeText head)⟩ := by
  rw [deserializeQueryInfo, foldlM_serviceInfoQuery U h]
  rfl

/-! ## Which lists arrive as they were sent -/

/-- A name that neither side takes for more than text. -/
structure Inert (name : String) : Prop where
  characters : ∀ c ∈ name.toList, c ∉ ['&', ',', '+', '\t', '\n', '\r']
  escapes : hasEscape (encode name.toList) = false

theorem Inert.of_all {name : String}
    (hall : (name.toList.all fun c => decide (c ∉ ['&', ',', '+', '\t', '\n', '\r'])) = true)
    (hescape : hasEscape (encode name.toList) = false) : Inert name :=
  ⟨fun c hc => of_decide_eq_true (List.all_eq_true.mp hall c hc), hescape⟩

/-- The order in which a `HashSet` of the names is walked. -/
structure WalkOf (sent moduleList : List String) : Prop where
  nodup : moduleList.Nodup
  mem : ∀ name, name ∈ moduleList ↔ name ∈ sent

/-- The query is about the session's device and the modules that it sent. -/
def AsSent (U : UuidFromStr) (key : GuidKey) (sent moduleList : List String) : Prop :=
  ∃ info, deserializeQueryInfo U (serviceInfoQuery key moduleList) = some info ∧ info.apiVersion = 1 ∧
    info.deviceGuid = key.guid ∧ ∀ m, m ∈ info.modules ↔ m ∈ sent.map ServiceInfoModule.fromStr

theorem mem_deserialize {s : List Char} {name : String} :
    ServiceInfoModule.fromStr name ∈ deserializeFromCommaSeparatedStrings s ↔ name.toList ∈ s.splitOn ',' := by
  rw [deserializeFromCommaSeparatedStrings, List.mem_eraseDups, List.mem_map]
  constructor
  · rintro ⟨piece, hpiece, heq⟩
    rw [← ServiceInfoModule.fromStr_injective heq, String.toList_ofList]
    exact hpiece
  · intro hname
    exact ⟨name.toList, hname, by rw [String.ofList_toList]⟩

theorem fromStr_of_mem_deserialize {s : List Char} {m : ServiceInfoModule}
    (h : m ∈ deserializeFromCommaSeparatedStrings s) : ∃ name, m = ServiceInfoModule.fromStr name := by
  rw [deserializeFromCommaSeparatedStrings, List.mem_eraseDups, List.mem_map] at h
  obtain ⟨piece, -, rfl⟩ := h
  exact ⟨_, rfl⟩

/-- The two lists of names have the same members. -/
theorem modules_iff {s : List Char} {sent : List String} :
    (∀ m, m ∈ deserializeFromCommaSeparatedStrings s ↔ m ∈ sent.map ServiceInfoModule.fromStr) ↔
      ∀ name : String, name.toList ∈ s.splitOn ',' ↔ name ∈ sent := by
  constructor
  · intro h name
    rw [← mem_deserialize, h, List.mem_map]
    constructor
    · rintro ⟨other, hother, heq⟩
      exact ServiceInfoModule.fromStr_injective heq ▸ hother
    · intro hname
      exact ⟨name, hname, rfl⟩
  · intro h m
    constructor
    · intro hm
      obtain ⟨name, rfl⟩ := fromStr_of_mem_deserialize hm
      exact List.mem_map_of_mem ((h name).mp (mem_deserialize.mp hm))
    · intro hm
      obtain ⟨name, hname, rfl⟩ := List.mem_map.mp hm
      exact mem_deserialize.mpr ((h name).mpr hname)

/-! ## The joined names -/

def asciiLength (s : List Char) : Nat := (asciiOf s).length

theorem asciiLength_append (s t : List Char) : asciiLength (s ++ t) = asciiLength s + asciiLength t := by
  simp [asciiLength, asciiOf_append]

theorem asciiLength_separator {c : Char} (h : isAscii c) (s t : List Char) :
    asciiLength (s ++ c :: t) = asciiLength s + asciiLength t + 1 := by
  have hcons : asciiLength (c :: t) = asciiLength t + 1 := by
    simp [asciiLength, asciiOf, h]
  rw [asciiLength_append, hcons, Nat.add_assoc]

theorem asciiLength_intercalate {pieces : List (List Char)} (h : pieces ≠ []) :
    asciiLength ([','].intercalate pieces) + 1 = (pieces.map fun piece => asciiLength piece + 1).sum := by
  induction pieces with
  | nil => exact absurd rfl h
  | cons piece pieces ih =>
      cases pieces with
      | nil => simp
      | cons next rest =>
          have hrest := ih (List.cons_ne_nil _ _)
          rw [List.intercalate_cons_cons, List.append_assoc, List.singleton_append,
            asciiLength_separator (by decide), List.map_cons, List.sum_cons, ← hrest]
          omega

theorem hasEscape_intercalate (pieces : List (List Char)) :
    hasEscape (encode ([','].intercalate pieces)) = pieces.any fun piece => hasEscape (encode piece) := by
  induction pieces with
  | nil => rfl
  | cons piece pieces ih =>
      cases pieces with
      | nil => simp
      | cons next rest =>
          have hcomma : String.utf8EncodeChar ',' = [0x2C] := by decide
          rw [List.intercalate_cons_cons, List.append_assoc, List.singleton_append, encode_append, encode_cons,
            hcomma, List.singleton_append, hasEscape_append (by decide) (by decide +kernel), ih]
          rfl

theorem mem_intercalate {pieces : List (List Char)} {c : Char} (hc : c ≠ ',') :
    c ∈ [','].intercalate pieces ↔ ∃ piece ∈ pieces, c ∈ piece := by
  induction pieces with
  | nil => simp
  | cons piece pieces ih =>
      cases pieces with
      | nil => simp
      | cons next rest =>
          rw [List.intercalate_cons_cons, List.append_assoc, List.mem_append, List.singleton_append, List.mem_cons, ih]
          simp [hc]

/-! ## One direction: plain names -/

theorem asSent_of_inert (U : UuidFromStr) (key : GuidKey) {sent moduleList : List String}
    (hwalk : WalkOf sent moduleList) (hne : sent ≠ []) (hinert : ∀ name ∈ sent, Inert name) :
    AsSent U key sent moduleList := by
  have hinert' : ∀ name ∈ moduleList, Inert name := fun name h => hinert name ((hwalk.mem name).mp h)
  have hmodules : moduleList.map String.toList ≠ [] := by
    obtain ⟨name, hname⟩ := List.exists_mem_of_ne_nil _ hne
    intro hnil
    rw [List.map_eq_nil_iff] at hnil
    have hmem := (hwalk.mem name).mpr hname
    rw [hnil] at hmem
    cases hmem
  have hclean : ∀ c ∈ ['&', '+', '\t', '\n', '\r'], c ∉ [','].intercalate (moduleList.map String.toList) := by
    intro c hc hmem
    have hcomma : c ≠ ',' := by
      rintro rfl
      exact absurd hc (by decide)
    obtain ⟨piece, hpiece, hin⟩ := (mem_intercalate hcomma).mp hmem
    obtain ⟨name, hname, rfl⟩ := List.mem_map.mp hpiece
    refine (hinert' name hname).characters c hin ?_
    simp only [List.mem_cons, List.not_mem_nil, or_false] at hc ⊢
    tauto
  have hkept : ([','].intercalate (moduleList.map String.toList)).filter (fun c => !isTabOrNewline c) =
      [','].intercalate (moduleList.map String.toList) := by
    refine List.filter_eq_self.mpr fun c hc => ?_
    simp only [isTabOrNewline, Bool.not_eq_true', Bool.or_eq_false_iff, beq_eq_false_iff_ne]
    refine ⟨⟨?_, ?_⟩, ?_⟩ <;> (rintro rfl; exact hclean _ (by decide) hc)
  have hescape : hasEscape (encode ([','].intercalate (moduleList.map String.toList))) = false := by
    rw [hasEscape_intercalate, List.any_eq_false]
    intro piece hpiece
    obtain ⟨name, hname, rfl⟩ := List.mem_map.mp hpiece
    simpa using (hinert' name hname).escapes
  have hsegments : moduleSegments moduleList = [[','].intercalate (moduleList.map String.toList)] := by
    rw [moduleSegments, hkept, List.splitOn_eq_singleton (hclean '&' (by decide))]
  refine ⟨_, deserializeQueryInfo_single U hsegments, rfl, rfl, modules_iff.mpr fun name => ?_⟩
  have hcut : ([','].intercalate (moduleList.map String.toList)).splitOn ',' = moduleList.map String.toList := by
    refine List.splitOn_intercalate ',' (fun piece hpiece hcomma => ?_) hmodules
    obtain ⟨other, hother, rfl⟩ := List.mem_map.mp hpiece
    exact (hinert' other hother).characters ',' hcomma (by decide)
  rw [decodeText_plain (hclean '+' (by decide)) hescape, hcut, List.mem_map, ← hwalk.mem]
  constructor
  · rintro ⟨other, hother, heq⟩
    exact String.toList_inj.mp heq ▸ hother
  · intro hname
    exact ⟨name, hname, rfl⟩

/-! ## The other: nothing is lost on the way -/

theorem asciiLength_head {s head : List Char} {rest : List (List Char)} (h : s.splitOn '&' = head :: rest) :
    asciiLength head ≤ asciiLength s ∧ (asciiLength s ≤ asciiLength head → rest = []) := by
  have hjoin : ['&'].intercalate (s.splitOn '&') = s := List.intercalate_splitOn '&'
  rw [h] at hjoin
  cases rest with
  | nil =>
      rw [List.intercalate_singleton] at hjoin
      simp [hjoin]
  | cons next rest =>
      rw [List.intercalate_cons_cons, List.append_assoc, List.singleton_append] at hjoin
      have hlength := asciiLength_separator (show isAscii '&' by decide) head (['&'].intercalate (next :: rest))
      rw [hjoin] at hlength
      exact ⟨by omega, fun hle => by omega⟩

theorem asciiLength_filter (s : List Char) :
    asciiLength (s.filter fun c => !isTabOrNewline c) ≤ asciiLength s ∧
      (asciiLength s ≤ asciiLength (s.filter fun c => !isTabOrNewline c) →
        (s.filter fun c => !isTabOrNewline c) = s) := by
  induction s with
  | nil => exact ⟨le_rfl, fun _ => rfl⟩
  | cons c s ih =>
      have hcons : ∀ t : List Char, asciiLength (c :: t) = asciiLength [c] + asciiLength t :=
        fun t => asciiLength_append [c] t
      rw [List.filter_cons]
      split
      case isTrue h =>
        rw [hcons s, hcons (s.filter _)]
        refine ⟨by omega, fun hle => ?_⟩
        rw [ih.2 (by omega)]
      case isFalse h =>
        have hascii : isAscii c := by
          simp only [Bool.not_eq_true', Bool.not_eq_false] at h
          simp only [isTabOrNewline, Bool.or_eq_true, beq_iff_eq] at h
          rcases h with (rfl | rfl) | rfl <;> decide
        have hone : asciiLength [c] = 1 := by simp [asciiLength, asciiOf, hascii]
        rw [hcons, hone]
        exact ⟨by omega, fun hle => by omega⟩

/-- Distinct names that are all found among the pieces are no longer than these together. -/
theorem sum_le_of_subset {names pieces : List (List Char)} (hnodup : names.Nodup) (hsub : names ⊆ pieces)
    (f : List Char → Nat) : (names.map f).sum ≤ (pieces.map f).sum := by
  obtain ⟨perm, hperm, hsublist⟩ := List.subperm_of_subset hnodup hsub
  rw [← (hperm.map f).sum_nat]
  exact (hsublist.map f).sum_le_sum fun _ _ => Nat.zero_le _

theorem inert_of_asSent (U : UuidFromStr) (key : GuidKey) {sent moduleList : List String}
    (hwalk : WalkOf sent moduleList) (h : AsSent U key sent moduleList) :
    sent ≠ [] ∧ ∀ name ∈ sent, Inert name := by
  obtain ⟨info, hinfo, -, -, hmodules⟩ := h
  cases hsegments : moduleSegments moduleList with
  | nil => exact absurd hsegments (List.splitOn_ne_nil _ _)
  | cons head rest =>
      rw [deserializeQueryInfo_session U hsegments hinfo] at hmodules
      have hpieces := modules_iff.mp hmodules
      have hsent : sent ≠ [] := by
        obtain ⟨piece, hpiece⟩ := List.exists_mem_of_ne_nil _ (List.splitOn_ne_nil ',' (decodeText head))
        intro hnil
        have hmem := (hpieces (String.ofList piece)).mp (by rwa [String.toList_ofList])
        rw [hnil] at hmem
        cases hmem
      have hlist : moduleList.map String.toList ≠ [] := by
        obtain ⟨name, hname⟩ := List.exists_mem_of_ne_nil _ hsent
        exact List.ne_nil_of_mem (List.mem_map_of_mem ((hwalk.mem name).mpr hname))
      -- the pieces are at least as long as the names, and every step only shortens
      have hsum : asciiLength ([','].intercalate (moduleList.map String.toList)) ≤ asciiLength (decodeText head) := by
        have hnodup : (moduleList.map String.toList).Nodup := hwalk.nodup.map fun _ _ => String.toList_inj.mp
        have hsub : moduleList.map String.toList ⊆ (decodeText head).splitOn ',' := by
          intro piece hpiece
          obtain ⟨name, hname, rfl⟩ := List.mem_map.mp hpiece
          exact (hpieces name).mpr ((hwalk.mem name).mp hname)
        have hle := sum_le_of_subset hnodup hsub fun piece => asciiLength piece + 1
        rw [← asciiLength_intercalate hlist, ← asciiLength_intercalate (List.splitOn_ne_nil ',' _),
          List.intercalate_splitOn] at hle
        omega
      have hdecode := asciiOf_decodeText head
      obtain ⟨hhead, hrest⟩ := asciiLength_head hsegments
      obtain ⟨hfilter, hkept⟩ := asciiLength_filter ([','].intercalate (moduleList.map String.toList))
      change asciiLength (decodeText head) + _ ≤ asciiLength head at hdecode
      have hclean := hkept (by split at hdecode <;> omega)
      have hsingle := hrest (by split at hdecode <;> omega)
      have hescape : hasEscape (encode head) = false := by
        by_contra hesc
        rw [if_pos (by simpa using hesc)] at hdecode
        omega
      have hhead' : head = [','].intercalate (moduleList.map String.toList) := by
        have hjoin : ['&'].intercalate (moduleSegments moduleList) =
            ([','].intercalate (moduleList.map String.toList)).filter fun c => !isTabOrNewline c :=
          List.intercalate_splitOn '&'
        rwa [hsegments, hsingle, List.intercalate_singleton, hclean] at hjoin
      refine ⟨hsent, fun name hname => ⟨fun c hc hbad => ?_, ?_⟩⟩
      · have hpiece : name.toList ∈ (decodeText head).splitOn ',' := (hpieces name).mpr hname
        have hnamed : name.toList ∈ moduleList.map String.toList :=
          List.mem_map_of_mem ((hwalk.mem name).mpr hname)
        have hcomma : c ≠ ',' := fun heq => not_mem_of_mem_splitOn hpiece (heq ▸ hc)
        have hsentText : c ∈ [','].intercalate (moduleList.map String.toList) :=
          (mem_intercalate hcomma).mpr ⟨_, hnamed, hc⟩
        have hread : c ∈ decodeText head := by
          have hjoin : [','].intercalate ((decodeText head).splitOn ',') = decodeText head :=
            List.intercalate_splitOn ','
          rw [← hjoin]
          exact (mem_intercalate hcomma).mpr ⟨_, hpiece, hc⟩
        have hplus : c ≠ '+' := fun heq => plus_not_mem_decodeText hescape (heq ▸ hread)
        have hamp : c ≠ '&' := by
          rintro rfl
          have hmem : head ∈ moduleSegments moduleList := by simp [hsegments]
          exact not_mem_of_mem_splitOn hmem (hhead' ▸ hsentText)
        have hblank := List.filter_eq_self.mp hclean c hsentText
        simp only [isTabOrNewline, Bool.not_eq_true', Bool.or_eq_false_iff, beq_eq_false_iff_ne] at hblank
        simp only [List.mem_cons, List.not_mem_nil, or_false] at hbad
        rcases hbad with heq | heq | heq | heq | heq | heq
        · exact hamp heq
        · exact hcomma heq
        · exact hplus heq
        · exact hblank.1.1 heq
        · exact hblank.1.2 heq
        · exact hblank.2 heq
      · rw [hhead', hasEscape_intercalate, List.any_eq_false] at hescape
        simpa using hescape name.toList (List.mem_map_of_mem ((hwalk.mem name).mpr hname))

/-- The server reads what the device sent exactly when there are names, and all of them are plain. -/
theorem asSent_iff_inert (U : UuidFromStr) (key : GuidKey) {sent moduleList : List String}
    (hwalk : WalkOf sent moduleList) :
    AsSent U key sent moduleList ↔ sent ≠ [] ∧ ∀ name ∈ sent, Inert name := by
  constructor
  · exact inert_of_asSent U key hwalk
  · rintro ⟨hne, hinert⟩
    exact asSent_of_inert U key hwalk hne hinert

theorem sampleKey_sixteen : (List.replicate 16 (7 : UInt8)).length = 16 := List.length_replicate

def sampleKey : GuidKey := ⟨⟨List.replicate 16 7⟩, sampleKey_sixteen⟩

theorem asSent_sample : AsSent plainUuid sampleKey ["devmod", "org.fedoraiot.sshkey", "devmod"]
    ["org.fedoraiot.sshkey", "devmod"] := by
  refine (asSent_iff_inert plainUuid sampleKey ⟨by decide, ?_⟩).mpr ⟨by decide, ?_⟩
  · intro name
    simp [or_comm]
  · intro name hname
    simp only [List.mem_cons, List.not_mem_nil, or_false] at hname
    rcases hname with rfl | rfl | rfl <;> exact .of_all (by decide +kernel) (by decide +kernel)

/-- One name with a comma in it is read as two modules. -/
theorem comma_not_asSent :
    ¬AsSent plainUuid sampleKey ["x,org.fedoraiot.sshkey"] ["x,org.fedoraiot.sshkey"] := by
  rintro ⟨info, hinfo, -, -, hmodules⟩
  have hread : (deserializeQueryInfo plainUuid (serviceInfoQuery sampleKey ["x,org.fedoraiot.sshkey"])) =
      some ⟨1, sampleKey.guid, [.unsupported "x", .fedoraIot .sshKey]⟩ := by decide +kernel
  rw [hread] at hinfo
  cases hinfo
  have hmem := (hmodules (.fedoraIot .sshKey)).mp (by decide)
  exact absurd hmem (by decide)

end FidoOnboard.ServiceInfoApiServer
