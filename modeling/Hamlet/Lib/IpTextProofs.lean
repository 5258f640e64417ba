import Hamlet.Lib.RustTextProofs

/-!
# IP addresses as text

The text forms of IP addresses that `std::net` reads: four decimal octets for IPv4; for IPv6 eight
groups of hexadecimal digits, of which one run may be left out as `::` and the last two may be
written as an IPv4 address. In a URL an IPv6 address stands in brackets, because its colons would
be taken for the one before a port: `colon_mem_of_isIpv6` says that it always has one.
-/

namespace IpText

open RustText

def isHexDigit (c : Char) : Bool :=
  c.isDigit || ('a' ≤ c && c ≤ 'f') || ('A' ≤ c && c ≤ 'F')

/-- A number up to 255, without leading zeros. -/
def isOctet (cs : List Char) : Bool :=
  match digitsValue cs with
  | some n => decide (n ≤ 255) && cs == Nat.toDigits 10 n
  | none => false

/-- `Ipv4Addr::from_str` succeeds. -/
def isIpv4 (cs : List Char) : Bool :=
  (cs.splitOn '.').length == 4 && (cs.splitOn '.').all isOctet

/-- One to four hexadecimal digits. -/
def isGroup (cs : List Char) : Bool :=
  decide (1 ≤ cs.length) && decide (cs.length ≤ 4) && cs.all isHexDigit

/-- How many groups the pieces between colons are. Where it is allowed, the last piece may be an
    IPv4 address, which is two. -/
def countGroups (ipv4Last : Bool) : List (List Char) → Option ℕ
  | [] => some 0
  | [piece] => if isGroup piece then some 1 else if ipv4Last && isIpv4 piece then some 2 else none
  | piece :: rest =>
      if isGroup piece then (countGroups ipv4Last rest).map (· + 1) else none

/-- The groups on one side of `::`, where there may be none. -/
def sideGroups (ipv4Last : Bool) (cs : List Char) : Option ℕ :=
  if cs = [] then some 0 else countGroups ipv4Last (cs.splitOn ':')

/-- `Ipv6Addr::from_str` succeeds: eight groups, or a `::` in the place of at least one. -/
def isIpv6 (cs : List Char) : Bool :=
  match Split.atFirst "::".toList cs with
  | none => countGroups true (cs.splitOn ':') == some 8
  | some (left, right) =>
      match sideGroups false left, sideGroups true right with
      | some m, some n => decide (m + n ≤ 7)
      | _, _ => false

/-- An IPv6 address in brackets. -/
def isBracketedIpv6 (host : String) : Bool :=
  match host.toList with
  | '[' :: rest => rest.getLast? == some ']' && isIpv6 rest.dropLast
  | _ => false

example : isBracketedIpv6 "[2001:db8::192.0.2.1]" = true ∧ isBracketedIpv6 "[::1::2]" = false ∧
    isBracketedIpv6 "[1:2:3]" = false := by decide

/-- A single piece is two groups at most. -/
theorem countGroups_singleton (piece : List Char) : countGroups true [piece] ≠ some 8 := by
  rw [countGroups]
  split
  · decide
  · split
    · decide
    · decide

/-- An IPv6 address has a colon. -/
theorem colon_mem_of_isIpv6 {cs : List Char} (h : isIpv6 cs = true) : ':' ∈ cs := by
  rw [isIpv6] at h
  cases hfirst : Split.atFirst "::".toList cs with
  | some parts =>
      rw [Split.eq_of_atFirst (a := parts.1) (b := parts.2) hfirst]
      simp
  | none =>
      by_contra hcolon
      simp only [hfirst, List.splitOn_eq_singleton hcolon, beq_iff_eq] at h
      exact countGroups_singleton cs h

/-- A bracketed address starts with its bracket, ends with it, and has a colon. -/
theorem of_isBracketedIpv6 {host : String} (h : isBracketedIpv6 host = true) :
    host.toList.head? = some '[' ∧ host.toList.getLast? = some ']' ∧ ':' ∈ host.toList := by
  rw [isBracketedIpv6] at h
  split at h
  case h_1 rest hhost =>
      rw [Bool.and_eq_true, beq_iff_eq] at h
      rw [hhost]
      refine ⟨rfl, ?_, ?_⟩
      · rw [List.getLast?_cons, h.1]
        rfl
      · exact List.mem_cons_of_mem _
          (List.dropLast_subset _ (colon_mem_of_isIpv6 h.2))
  case h_2 => exact nomatch h

end IpText
