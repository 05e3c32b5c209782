import FidoOnboard.DataFormats.Addresses
import Mathlib.Data.List.Forall2

/-!
# Whom the client contacts

The URLs of a rendezvous directive and of the owner's addresses, read back as URIs.
-/
namespace FidoOnboard.Client

def getTo2Urls : List TO2AddressEntry → List (List Char)
  | [] => []
  | addrEntry :: entries =>
    let urls (protText : List Char) :=
      (addrEntry.dns.toList.map fun dnsName => hostUrl protText dnsName addrEntry.port) ++
        addrEntry.ip.toList.map fun ipAddress => hostUrl protText ipAddress.fmt addrEntry.port
    match addrEntry.protocol with
    | .http => urls "http".toList ++ getTo2Urls entries
    | .https => urls "https".toList ++ getTo2Urls entries
    | _ => getTo2Urls entries

/-! ## Whom the URLs are for -/

inductive Contact where
  | dns (name : List Char)
  | ip (address : IpAddr)

namespace Contact

def text : Contact → List Char
  | .dns name => name
  | .ip address => address.fmt

/-- The host of a URI is this contact. -/
def IsHost (host : List Char) : Contact → Prop
  | .dns name => host = name
  | .ip address => Uri.hostAddress host = some address.octets

/-- The name is a host as it stands, or the address is an IPv4 address. -/
def Plain : Contact → Prop
  | .dns name => Uri.isHost name
  | .ip address => address.octets.length = 4

end Contact

/-- The DNS name and then the addresses, each with the port. -/
def contacts (dns : Option (List Char)) (ips : List IpAddr) (port : Nat) : List (Contact × Nat) :=
  (dns.toList.map fun name => (.dns name, port)) ++ ips.map fun address => (.ip address, port)

def directiveContacts (d : RendezvousInterpretedDirective) : List (Contact × Nat) :=
  if d.protocol = .http ∨ d.protocol = .https then contacts d.dnsName (d.ipAddresses.getD []) d.port else []

def entryContacts (e : TO2AddressEntry) : List (Contact × Nat) :=
  if e.protocol = .http ∨ e.protocol = .https then contacts e.dns e.ip.toList e.port else []

/-- The URL, read as a URI, has exactly this host and this port. -/
def Names (url : List Char) (contact : Contact × Nat) : Prop :=
  ∃ authority, Uri.parse url = some authority ∧ contact.1.IsHost authority.host ∧ authority.port = some contact.2

/-! ## One URL -/

section

variable {protocolText : List Char} {port : Nat}

theorem hostUrl_eq (protocolText host : List Char) (port : Nat) : hostUrl protocolText host port =
    protocolText ++ ':' :: '/' :: '/' :: (host ++ ':' :: Nat.toDigits 10 port) := by
  simp [hostUrl]

theorem parse_hostUrl {host : List Char} (hscheme : Uri.isScheme protocolText) (hhost : Uri.isHost host) :
    Uri.parse (hostUrl protocolText host port) = some ⟨none, host, some port⟩ := by
  rw [hostUrl_eq, Uri.parse_isHost hscheme hhost
    (fun c hc => Nat.isDigit_of_mem_toDigits (by decide) (by decide) hc) Nat.toDigits_ne_nil,
    Nat.ofDigitChars_ten_toDigits]

theorem isHost_fmtV4 {octets : Bytes} (h : octets.length = 4) :
    Uri.isHost (IpAddr.fmtV4 octets) ∧ Uri.hostAddress (IpAddr.fmtV4 octets) = some octets := by
  have hchars : ∀ c ∈ IpAddr.fmtV4 octets, Uri.isNameChar c := fun c hc => IpAddr.nameChar_fmtV4 hc
  have hnames := Uri.isHost_names hchars
  refine ⟨hnames.1, ?_⟩
  rw [hnames.2]
  exact Uri.ipv4Address_octets h

/-- The colons of an address would all have to be the one before the port. -/
theorem parse_fmtV6 {octets : Bytes} (hscheme : Uri.isScheme protocolText) (h : octets.length = 16) :
    Uri.parse (hostUrl protocolText (IpAddr.fmtV6 octets) port) = none := by
  rw [hostUrl_eq]
  refine Uri.parse_colon hscheme (fun c hc => ?_) (IpAddr.colon_fmtV6 h)
    (fun c hc => Nat.isDigit_of_mem_toDigits (by decide) (by decide) hc)
  rcases IpAddr.char_fmtV6 hc with heq | hname
  · exact .inl heq
  · exact .inr (Uri.genDelim_nameChar hname)

theorem names_iff (hscheme : Uri.isScheme protocolText) (contact : Contact) :
    Names (hostUrl protocolText contact.text port) (contact, port) ↔ contact.Plain := by
  cases contact with
  | dns name =>
      constructor
      · rintro ⟨authority, hparse, hhost, -⟩
        have hhost : authority.host = name := hhost
        exact hhost ▸ Uri.isHost_of_parse hparse
      · intro hname
        exact ⟨_, parse_hostUrl hscheme hname, rfl, rfl⟩
  | ip address =>
      by_cases hlen : address.octets.length = 4
      case pos =>
        have htext : (Contact.ip address).text = IpAddr.fmtV4 address.octets := if_pos hlen
        rcases isHost_fmtV4 hlen with ⟨hhost, haddress⟩
        rw [htext]
        exact iff_of_true ⟨_, parse_hostUrl hscheme hhost, haddress, rfl⟩ hlen
      case neg =>
        have htext : (Contact.ip address).text = IpAddr.fmtV6 address.octets := if_neg hlen
        have hlen16 : address.octets.length = 16 := address.sized.resolve_left hlen
        rw [htext]
        refine iff_of_false ?_ hlen
        rintro ⟨authority, hparse, -⟩
        rw [parse_fmtV6 hscheme hlen16] at hparse
        exact absurd hparse nofun

/-- The URLs of one entry stand in the order of its contacts. -/
theorem forall₂_contacts (hscheme : Uri.isScheme protocolText) (dns : Option (List Char)) (ips : List IpAddr) :
    List.Forall₂ Names
      ((dns.toList.map fun name => hostUrl protocolText name port) ++
        ips.map fun address => hostUrl protocolText address.fmt port) (contacts dns ips port) ↔
      ∀ contact ∈ contacts dns ips port, contact.1.Plain := by
  have hurls : ((dns.toList.map fun name => hostUrl protocolText name port) ++
      ips.map fun address => hostUrl protocolText address.fmt port) =
      (contacts dns ips port).map fun contact => hostUrl protocolText contact.1.text contact.2 := by
    rw [contacts, List.map_append, List.map_map, List.map_map]
    rfl
  have hport : ∀ contact ∈ contacts dns ips port, contact.2 = port := by
    intro contact hmem
    rcases List.mem_append.mp hmem with hmem | hmem
    · rcases List.mem_map.mp hmem with ⟨name, -, rfl⟩
      rfl
    · rcases List.mem_map.mp hmem with ⟨address, -, rfl⟩
      rfl
  rw [hurls, List.forall₂_map_left_iff, List.forall₂_same]
  apply forall₂_congr
  rintro ⟨contact, port'⟩ hmem
  have heq : port' = port := hport _ hmem
  subst heq
  exact names_iff hscheme contact

end

/-! ## All URLs -/

theorem http_scheme : Uri.isScheme "http".toList := by decide

theorem https_scheme : Uri.isScheme "https".toList := by decide

theorem getUrls_iff (d : RendezvousInterpretedDirective) :
    List.Forall₂ Names d.getUrls (directiveContacts d) ↔ ∀ contact ∈ directiveContacts d, contact.1.Plain := by
  by_cases hhttp : d.protocol = .http ∨ d.protocol = .https
  case pos =>
    rw [directiveContacts, if_pos hhttp]
    rcases hhttp with hprotocol | hprotocol
    · rw [RendezvousInterpretedDirective.getUrls, hprotocol]
      exact forall₂_contacts http_scheme d.dnsName (d.ipAddresses.getD [])
    · rw [RendezvousInterpretedDirective.getUrls, hprotocol]
      exact forall₂_contacts https_scheme d.dnsName (d.ipAddresses.getD [])
  case neg =>
    have hurls : d.getUrls = [] := by
      cases hprotocol : d.protocol <;> simp_all [RendezvousInterpretedDirective.getUrls]
    rw [directiveContacts, if_neg hhttp, hurls]
    exact iff_of_true .nil nofun

theorem forall₂_append_iff {urls rest : List (List Char)} {first last : List (Contact × Nat)}
    (hlength : urls.length = first.length) : List.Forall₂ Names (urls ++ rest) (first ++ last) ↔
      List.Forall₂ Names urls first ∧ List.Forall₂ Names rest last := by
  induction urls generalizing first with
  | nil =>
      have hnil : first = [] := List.eq_nil_of_length_eq_zero hlength.symm
      simp [hnil]
  | cons url urls ih =>
      cases first with
      | nil => exact absurd hlength (Nat.succ_ne_zero _)
      | cons contact first =>
          rw [List.cons_append, List.cons_append, List.forall₂_cons, List.forall₂_cons,
            ih (Nat.succ.inj hlength), and_assoc]

theorem getTo2Urls_iff (entries : List TO2AddressEntry) :
    List.Forall₂ Names (getTo2Urls entries) (entries.flatMap entryContacts) ↔
      ∀ entry ∈ entries, ∀ contact ∈ entryContacts entry, contact.1.Plain := by
  induction entries with
  | nil => exact iff_of_true .nil nofun
  | cons entry entries ih =>
      rw [List.flatMap_cons, List.forall_mem_cons, ← ih]
      by_cases hhttp : entry.protocol = .http ∨ entry.protocol = .https
      case pos =>
        rw [entryContacts, if_pos hhttp]
        rcases hhttp with hprotocol | hprotocol
        · rw [getTo2Urls, hprotocol]
          dsimp only
          rw [forall₂_append_iff (by simp [contacts]), forall₂_contacts http_scheme entry.dns entry.ip.toList]
        · rw [getTo2Urls, hprotocol]
          dsimp only
          rw [forall₂_append_iff (by simp [contacts]), forall₂_contacts https_scheme entry.dns entry.ip.toList]
      case neg =>
        have hurls : getTo2Urls (entry :: entries) = getTo2Urls entries := by
          cases hprotocol : entry.protocol <;> simp_all [getTo2Urls]
        rw [entryContacts, if_neg hhttp, hurls, List.nil_append]
        exact (and_iff_right nofun).symm

/-- Each URL names its contact exactly when each contact is an IPv4 address, or a name that
is a host in the syntax of URIs. -/
theorem contact_urls_iff (d : RendezvousInterpretedDirective) (entries : List TO2AddressEntry) :
    (List.Forall₂ Names d.getUrls (directiveContacts d) ↔ ∀ contact ∈ directiveContacts d, contact.1.Plain) ∧
    (List.Forall₂ Names (getTo2Urls entries) (entries.flatMap entryContacts) ↔
      ∀ entry ∈ entries, ∀ contact ∈ entryContacts entry, contact.1.Plain) :=
  ⟨getUrls_iff d, getTo2Urls_iff entries⟩

/-- The loopback address of the newer family. -/
def loopback : IpAddr := ⟨List.replicate 15 0 ++ [1], .inr rfl⟩

theorem loopback_url_names_nothing :
    getTo2Urls [⟨some loopback, none, 8081, .http⟩] = ["http://::1:8081".toList] ∧
      Uri.parse "http://::1:8081".toList = none ∧
      ¬ List.Forall₂ Names (getTo2Urls [⟨some loopback, none, 8081, .http⟩])
        ([⟨some loopback, none, 8081, .http⟩].flatMap entryContacts) := by
  refine ⟨by decide, by decide, ?_⟩
  rw [getTo2Urls_iff]
  intro h
  have hplain := h _ (List.mem_singleton_self _) (.ip loopback, 8081) (List.mem_singleton_self _)
  exact absurd hplain (by change ¬ (16 = 4); decide)

end FidoOnboard.Client
