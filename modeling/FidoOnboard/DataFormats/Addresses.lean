import FidoOnboard.Base.Uri
import FidoOnboard.DataFormats.RendezvousInfo

/-!
# Addresses in text

`Display` of `IPAddress`, which is that of the standard library, and the URLs that
a rendezvous directive leads to.
-/
namespace FidoOnboard

namespace IpAddr

/-- `Display` of an IPv4 address. -/
def fmtV4 (octets : Bytes) : List Char := ['.'].intercalate (octets.map fun b => Nat.toDigits 10 b.toNat)

def segments : Bytes → List Nat
  | high :: low :: rest => (256 * high.toNat + low.toNat) :: segments rest
  | _ => []

structure Span where
  start : Nat
  len : Nat
  deriving DecidableEq

/-- One segment of the search for the longest inner span of zeros. -/
def spanStep (state : Span × Span) (segment : Nat × Nat) : Span × Span :=
  let (longest, current) := state
  if segment.1 = 0 then
    let current : Span := ⟨if current.len = 0 then segment.2 else current.start, current.len + 1⟩
    (if longest.len < current.len then current else longest, current)
  else (longest, ⟨0, 0⟩)

def zeroes (segments : List Nat) : Span := (segments.zipIdx.foldl spanStep (⟨0, 0⟩, ⟨0, 0⟩)).1

def fmtSubslice (chunk : List Nat) : List Char := [':'].intercalate (chunk.map (Nat.toDigits 16))

/-- `Display` of an IPv6 address. -/
def fmtV6 (octets : Bytes) : List Char :=
  if octets.take 12 = List.replicate 10 0 ++ [255, 255] then "::ffff:".toList ++ fmtV4 (octets.drop 12)
  else
    let segments := segments octets
    let zeroes := zeroes segments
    if 1 < zeroes.len then
      fmtSubslice (segments.take zeroes.start) ++ "::".toList ++ fmtSubslice (segments.drop (zeroes.start + zeroes.len))
    else fmtSubslice segments

def fmt (self : IpAddr) : List Char := if self.octets.length = 4 then fmtV4 self.octets else fmtV6 self.octets

example : fmt ⟨[0x20, 1, 0xd, 0xb8, 0, 0, 0, 0, 0, 1, 0, 0, 0, 0, 0, 0x1a], .inr rfl⟩ =
    "2001:db8::1:0:0:1a".toList := by decide

/-! ## Characters of an address -/

theorem nameChar_digitChar (n : Nat) : Uri.isNameChar n.digitChar := by
  by_cases h : n < 16
  · have hall : ∀ m < 16, Uri.isNameChar (Nat.digitChar m) := by decide
    exact hall n h
  · rw [Nat.digitChar_eq_star.mpr (by omega)]
    decide

theorem nameChar_toDigits {base n : Nat} {c : Char} (hbase : 1 < base) (h : c ∈ Nat.toDigits base n) :
    Uri.isNameChar c := by
  induction n using Nat.strongRecOn with
  | ind n ih =>
      by_cases hn : n < base
      · rw [Nat.toDigits_of_lt_base hn, List.mem_singleton] at h
        exact h ▸ nameChar_digitChar n
      · rw [Nat.toDigits_of_base_le hbase (by omega), List.mem_append, List.mem_singleton] at h
        rcases h with h | rfl
        · exact ih (n / base) (Nat.div_lt_self (by omega) hbase) h
        · exact nameChar_digitChar (n % base)

/-- Pieces with a separator between them: each character is of a piece or a separator. -/
theorem mem_intercalate {sep c : Char} {pieces : List (List Char)} (h : c ∈ [sep].intercalate pieces) :
    c = sep ∨ ∃ piece ∈ pieces, c ∈ piece := by
  induction pieces with
  | nil => exact absurd h (by simp)
  | cons piece pieces ih =>
      cases pieces with
      | nil => exact .inr ⟨piece, List.mem_singleton_self piece, by simpa using h⟩
      | cons next pieces =>
          rw [List.intercalate_cons_cons, List.mem_append, List.mem_append, List.mem_singleton] at h
          rcases h with (h | h) | h
          · exact .inr ⟨piece, List.mem_cons_self, h⟩
          · exact .inl h
          · rcases ih h with heq | ⟨other, hother, hc⟩
            · exact .inl heq
            · exact .inr ⟨other, List.mem_cons_of_mem piece hother, hc⟩

theorem nameChar_fmtV4 {octets : Bytes} {c : Char} (h : c ∈ fmtV4 octets) : Uri.isNameChar c := by
  rcases mem_intercalate h with rfl | ⟨piece, hpiece, hc⟩
  · decide
  · rcases List.mem_map.mp hpiece with ⟨b, -, rfl⟩
    exact nameChar_toDigits (by decide) hc

theorem char_fmtSubslice {chunk : List Nat} {c : Char} (h : c ∈ fmtSubslice chunk) :
    c = ':' ∨ Uri.isNameChar c := by
  rcases mem_intercalate h with rfl | ⟨piece, hpiece, hc⟩
  · exact .inl rfl
  · rcases List.mem_map.mp hpiece with ⟨n, -, rfl⟩
    exact .inr (nameChar_toDigits (by decide) hc)

theorem char_fmtV6 {octets : Bytes} {c : Char} (h : c ∈ fmtV6 octets) : c = ':' ∨ Uri.isNameChar c := by
  unfold fmtV6 at h
  split at h
  case isTrue =>
    rcases List.mem_append.mp h with h | h
    · have hall : ("::ffff:".toList.all fun d => d = ':' ∨ Uri.isNameChar d) = true := by decide
      exact of_decide_eq_true (List.all_eq_true.mp hall c h)
    · exact .inr (nameChar_fmtV4 h)
  case isFalse =>
    dsimp only at h
    split at h
    case isTrue =>
      simp only [List.mem_append] at h
      rcases h with (h | h) | h
      · exact char_fmtSubslice h
      · have hall : ("::".toList.all fun d => d = ':' ∨ Uri.isNameChar d) = true := by decide
        exact of_decide_eq_true (List.all_eq_true.mp hall c h)
      · exact char_fmtSubslice h
    case isFalse => exact char_fmtSubslice h

theorem colon_fmtV6 {octets : Bytes} (h : octets.length = 16) : ':' ∈ fmtV6 octets := by
  unfold fmtV6
  split
  case isTrue => exact List.mem_append_left _ (by decide)
  case isFalse =>
    dsimp only
    split
    case isTrue => exact List.mem_append_left _ (List.mem_append_right _ (by decide))
    case isFalse =>
      match octets, h with
      | a :: b :: c :: d :: rest, _ =>
          simp only [segments, fmtSubslice, List.map_cons, List.intercalate_cons_cons]
          exact List.mem_append_left _ (List.mem_append_right _ (List.mem_singleton_self ':'))

end IpAddr

/-- `format!("{}://{}:{}")`. -/
def hostUrl (protocolText host : List Char) (port : Nat) : List Char :=
  protocolText ++ "://".toList ++ host ++ ":".toList ++ Nat.toDigits 10 port

namespace RendezvousInterpretedDirective

def getUrls (self : RendezvousInterpretedDirective) : List (List Char) :=
  let urls (protocolText : List Char) :=
    (self.dnsName.toList.map fun dnsName => hostUrl protocolText dnsName self.port) ++
      (self.ipAddresses.getD []).map fun ipAddress => hostUrl protocolText ipAddress.fmt self.port
  match self.protocol with
  | .http => urls "http".toList
  | .https => urls "https".toList
  | _ => []

end RendezvousInterpretedDirective

inductive TransportProtocol where
  | tcp
  | tls
  | http
  | coAP
  | https
  | coAPS
  deriving DecidableEq, Repr

structure TO2AddressEntry where
  ip : Option IpAddr
  dns : Option (List Char)
  port : Nat
  protocol : TransportProtocol

end FidoOnboard
