import ThreatFusion.Py.Int
/-
# `ipaddress`

What the standard module reads as an address, and the classes it puts an address in (CPython 3.11). An address is its
number; a network has the addresses with the first `prefixLength` bits of its base.

| here | there |
| --- | --- |
| `parseOctet`, `ipv4Address`  | `_BaseV4._parse_octet`, `IPv4Address(text)`; `none` is `AddressValueError` |
| `parseHextet`, `ipv6Address` | `_BaseV6._parse_hextet`, `IPv6Address(text)` with `_split_scope_id` |
| `ipAddress`                  | `ip_address(text)`; `none` is `ValueError` |
| `isGlobal`, `isPrivate`, ..  | `is_global`, `is_private`, .. by the networks of `_IPv4Constants`, `_IPv6Constants` |
| `embedded`                   | the IPv4 addresses inside an IPv6 address: mapped, compatible, 6to4, Teredo, NAT64 |
-/
namespace ThreatFusion.Py

/-! ## Text -/

/-- `a.b.c.d`. -/
def dotted (a b c d : Fin 256) : Fin (2 ^ 32) := ⟨((a * 256 + b) * 256 + c) * 256 + d, by omega⟩

def parseOctet (octet : List Char) : Option (Fin 256) :=
  if octet.isEmpty || !octet.all Char.isDigit || 3 < octet.length || (octet != ['0'] && octet.head? == some '0') then none
  else
    let value := octet.foldl (fun n c => 10 * n + (c.toNat - 48)) 0
    if h : value < 256 then some ⟨value, h⟩ else none

def ipv4Address (text : List Char) : Option (Fin (2 ^ 32)) :=
  if '/' ∈ text then none
  else match text.splitOn '.' with
    | [a, b, c, d] => match parseOctet a, parseOctet b, parseOctet c, parseOctet d with
      | some a, some b, some c, some d => some (dotted a b c d)
      | _, _, _, _ => none
    | _ => none

def parseHextet (hextet : List Char) : Option Nat :=
  if hextet.isEmpty || !hextet.all isHexDigit || 4 < hextet.length then none else some (hexNumber hextet)

/-- A dotted end becomes two hextets; `none` when it is no IPv4 address. -/
def convertSuffix (parts : List (List Char)) : Option (List (List Char)) :=
  let suffix := parts.getLast?.getD []
  if '.' ∈ suffix then (ipv4Address suffix).map fun ip =>
    parts.dropLast ++ [Nat.toDigits 16 (ip / 65536), Nat.toDigits 16 (ip % 65536)]
  else some parts

/-- The parts before and after `::`, and how many zeros stand for it. -/
def layOut (parts : List (List Char)) : Option (List (List Char) × Nat × List (List Char)) :=
  let first := parts.head?.getD []
  let last := parts.getLast?.getD []
  let inner := parts.zipIdx.filter fun p => p.1.isEmpty && 1 ≤ p.2 && p.2 + 1 < parts.length
  match inner.map Prod.snd with
  | [] =>
    if parts.length ≠ 8 || first.isEmpty || last.isEmpty then none else some (parts, 0, [])
  | [skip] =>
    let hi := if first.isEmpty then skip - 1 else skip
    let lo := if last.isEmpty then parts.length - skip - 2 else parts.length - skip - 1
    if (first.isEmpty && hi != 0) || (last.isEmpty && lo != 0) || 8 ≤ hi + lo then none
    else some (parts.take hi, 8 - (hi + lo), parts.drop (parts.length - lo))
  | _ => none

/-- `_ip_int_from_string`. -/
def ipv6Number (text : List Char) : Option (Fin (2 ^ 128)) :=
  let parts := text.splitOn ':'
  if parts.length < 3 then none
  else match convertSuffix parts with
    | none => none
    | some parts =>
      if 9 < parts.length then none
      else match layOut parts with
        | none => none
        | some (before, zeros, after) => match before.mapM parseHextet, after.mapM parseHextet with
          | some high, some low => some (Fin.ofNat (2 ^ 128)
              ((high ++ List.replicate zeros 0 ++ low).foldl (fun n hextet => 65536 * n + hextet) 0))
          | _, _ => none

/-- The address and its scope. -/
def ipv6Address (text : List Char) : Option (Fin (2 ^ 128) × Option (List Char)) :=
  if '/' ∈ text then none
  else match text.splitOn '%' with
    | [address] => (ipv6Number address).map fun ip => (ip, none)
    | [address, scopeId] => if scopeId.isEmpty then none else (ipv6Number address).map fun ip => (ip, some scopeId)
    | _ => none

inductive IpAddress where
  | v4 (ip : Fin (2 ^ 32))
  | v6 (ip : Fin (2 ^ 128)) (scopeId : Option (List Char))
deriving DecidableEq

def ipAddress (text : String) : Option IpAddress :=
  match ipv4Address text.toList with
  | some ip => some (.v4 ip)
  | none => (ipv6Address text.toList).map fun p => .v6 p.1 p.2

theorem length_splitOn (c : Char) (text : List Char) : (text.splitOn c).length = text.count c + 1 := by
  induction text with
  | nil => rfl
  | cons x text ih =>
    rw [List.splitOn_cons_eq_if_modifyHead, List.count_cons]
    split_ifs with hx
    · rw [List.length_cons, ih]
    · rw [List.length_modifyHead, ih]

theorem colons_of_ipv6Number {text : List Char} {ip : Fin (2 ^ 128)} (h : ipv6Number text = some ip) :
    2 ≤ text.count ':' := by
  unfold ipv6Number at h
  dsimp only at h
  split_ifs at h with hparts
  rw [length_splitOn] at hparts
  omega

/-! ## Networks -/

/-- The numbers of `bits` bits that begin like `base`. -/
structure Network (bits : Nat) where
  base : Nat
  prefixLength : Nat

def Network.contains {bits : Nat} (network : Network bits) (ip : Fin (2 ^ bits)) : Bool :=
  ip.val / 2 ^ (bits - network.prefixLength) == network.base / 2 ^ (bits - network.prefixLength)

def v4Network (a b c d : Fin 256) (prefixLength : Nat) : Network 32 := ⟨dotted a b c d, prefixLength⟩

/-- The first hextets of the base; zeros follow. -/
def v6Network (hextets : List Nat) (prefixLength : Nat) : Network 128 :=
  ⟨(hextets ++ List.replicate (8 - hextets.length) 0).foldl (fun n hextet => 65536 * n + hextet) 0, prefixLength⟩

namespace IPv4Address

def PRIVATE_NETWORKS : List (Network 32) :=
  [v4Network 0 0 0 0 8, v4Network 10 0 0 0 8, v4Network 127 0 0 0 8, v4Network 169 254 0 0 16,
   v4Network 172 16 0 0 12, v4Network 192 0 0 0 24, v4Network 192 0 0 170 31, v4Network 192 0 2 0 24,
   v4Network 192 168 0 0 16, v4Network 198 18 0 0 15, v4Network 198 51 100 0 24, v4Network 203 0 113 0 24,
   v4Network 240 0 0 0 4, v4Network 255 255 255 255 32]

def PRIVATE_NETWORKS_EXCEPTIONS : List (Network 32) := [v4Network 192 0 0 9 32, v4Network 192 0 0 10 32]

def PUBLIC_NETWORK : Network 32 := v4Network 100 64 0 0 10

variable (ip : Fin (2 ^ 32))

def isPrivate : Bool :=
  (PRIVATE_NETWORKS.any fun n => n.contains ip) && PRIVATE_NETWORKS_EXCEPTIONS.all fun n => !n.contains ip

def isGlobal : Bool := !PUBLIC_NETWORK.contains ip && !isPrivate ip

def isMulticast : Bool := (v4Network 224 0 0 0 4).contains ip

def isReserved : Bool := (v4Network 240 0 0 0 4).contains ip

def isLoopback : Bool := (v4Network 127 0 0 0 8).contains ip

def isLinkLocal : Bool := (v4Network 169 254 0 0 16).contains ip

def isUnspecified : Bool := ip == 0

end IPv4Address

namespace IPv6Address

def PRIVATE_NETWORKS : List (Network 128) :=
  [v6Network [0, 0, 0, 0, 0, 0, 0, 1] 128, v6Network [] 128, v6Network [0, 0, 0, 0, 0, 0xffff] 96,
   v6Network [0x64, 0xff9b, 1] 48, v6Network [0x100] 64, v6Network [0x2001] 23, v6Network [0x2001, 0xdb8] 32,
   v6Network [0x2002] 16, v6Network [0xfc00] 7, v6Network [0xfe80] 10]

def PRIVATE_NETWORKS_EXCEPTIONS : List (Network 128) :=
  [v6Network [0x2001, 1, 0, 0, 0, 0, 0, 1] 128, v6Network [0x2001, 1, 0, 0, 0, 0, 0, 2] 128,
   v6Network [0x2001, 3] 32, v6Network [0x2001, 4, 0x112] 48, v6Network [0x2001, 0x20] 28,
   v6Network [0x2001, 0x30] 28]

def RESERVED_NETWORKS : List (Network 128) :=
  [v6Network [] 8, v6Network [0x100] 8, v6Network [0x200] 7, v6Network [0x400] 6, v6Network [0x800] 5,
   v6Network [0x1000] 4, v6Network [0x4000] 3, v6Network [0x6000] 3, v6Network [0x8000] 3, v6Network [0xa000] 3,
   v6Network [0xc000] 3, v6Network [0xe000] 4, v6Network [0xf000] 5, v6Network [0xf800] 6, v6Network [0xfe00] 9]

variable (ip : Fin (2 ^ 128))

/-- The 32 bits that end `low` bits before the end. -/
def v4At (low : Nat) : Fin (2 ^ 32) := Fin.ofNat (2 ^ 32) (ip.val / 2 ^ low)

def ipv4Mapped : Option (Fin (2 ^ 32)) :=
  if (v6Network [0, 0, 0, 0, 0, 0xffff] 96).contains ip then some (v4At ip 0) else none

def isPrivate : Bool :=
  match ipv4Mapped ip with
  | some mapped => IPv4Address.isPrivate mapped
  | none => (PRIVATE_NETWORKS.any fun n => n.contains ip) && PRIVATE_NETWORKS_EXCEPTIONS.all fun n => !n.contains ip

def isGlobal : Bool :=
  match ipv4Mapped ip with
  | some mapped => IPv4Address.isGlobal mapped
  | none => !isPrivate ip

def isMulticast : Bool := (v6Network [0xff00] 8).contains ip

def isReserved : Bool := RESERVED_NETWORKS.any fun n => n.contains ip

def isLinkLocal : Bool := (v6Network [0xfe80] 10).contains ip

def isSiteLocal : Bool := (v6Network [0xfec0] 10).contains ip

def isLoopback : Bool := ip == 1

def isUnspecified : Bool := ip == 0

/-- The space that global unicast addresses are assigned from. -/
def GLOBAL_UNICAST : Network 128 := v6Network [0x2000] 3

/-- Teredo has the address of the server, and that of the client inverted. -/
def embedded : List (Fin (2 ^ 32)) :=
  (ipv4Mapped ip).toList ++
  (if (v6Network [] 96).contains ip then [v4At ip 0] else []) ++
  (if (v6Network [0x2002] 16).contains ip then [v4At ip 80] else []) ++
  (if (v6Network [0x2001] 32).contains ip then [v4At ip 64, (v4At ip 0).rev] else []) ++
  (if (v6Network [0x64, 0xff9b] 96).contains ip then [v4At ip 0] else [])

end IPv6Address

example : ipAddress "::ffff:1.2.3.4" = some (.v6 0xffff01020304 none) ∧ ipAddress "1:2::3::4" = none ∧
    ipAddress "2001:db8::1%eth0" = some (.v6 0x20010db8000000000000000000000001 (some "eth0".toList)) ∧
    ipAddress "01.2.3.4" = none := by decide

end ThreatFusion.Py
