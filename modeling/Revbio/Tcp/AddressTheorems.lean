/-
Revbio.Tcp.AddressTheorems — the bytes of a socket address.

`addrToSockaddr` computes the fields of a `sockaddr`; what the kernel sees
are their bytes in the memory of the host. `Sockaddr.bytes` lays the fields
out as C does, each word in the byte order of the host. On the other side
`SocketAddr.wire` is the form the kernel expects: port and address in
network order, the family in the order of the host, everything else zero.

The port and the groups of an IPv6 address go through `htons`, which is
made for this (`htons_bytes`). The word of an IPv4 address is put together
by shifts, the same on every host, so its bytes are `a b c d` on a
little-endian host only; a big-endian host stores them backwards
(`ipv4_bytes`). `written` is the address whose network form the code
produces, and `sockaddr_bytes` is the one fact all others are read from.
-/
import Revbio.Lib.ByteOrder
import Revbio.Linux.Tcp

namespace Revbio

open CallTree ByteOrder

/-! ## Memory -/

/-- The bytes in memory of a word of `w` bytes. -/
def Endian.bytes (host : Endian) (w x : Nat) : List UInt8 :=
  match host with
  | .little => leBytes w x
  | .big => beBytes w x

/-- The word that `bs` is in memory. -/
def Endian.value (host : Endian) (bs : List UInt8) : Nat :=
  match host with
  | .little => ofLe bs
  | .big => ofBe bs

/-- `sockaddr_in` and `sockaddr_in6`, field by field. `sin_zero`,
`sin6_flowinfo` and `sin6_scope_id` are never written. -/
def Sockaddr.fields (host : Endian) : Sockaddr → List UInt8
  | .sockaddrIn sinFamily sinPort sinAddr =>
      host.bytes 2 sinFamily ++ host.bytes 2 sinPort.toNat ++ host.bytes 4 sinAddr.toNat ++
        List.replicate 8 0
  | .sockaddrIn6 sin6Family sin6Port sin6Addr =>
      host.bytes 2 sin6Family ++ host.bytes 2 sin6Port.toNat ++ List.replicate 4 0 ++
        sin6Addr.flatMap (fun group => host.bytes 2 group.toNat) ++ List.replicate 4 0

/-- The whole `sockaddr_storage` of 128 bytes, zero before it is filled. -/
def Sockaddr.bytes (host : Endian) (sockaddr : Sockaddr) : List UInt8 :=
  sockaddr.fields host ++ List.replicate (128 - (sockaddr.fields host).length) 0

/-! ## The network form -/

/-- An address in network order: the octets of IPv4, the groups of IPv6
with the most significant byte first. -/
def IpAddr.octets : IpAddr → List UInt8
  | .ipv4Addr a b c d => [a, b, c, d]
  | .ipv6Addr a b c d e f g h =>
      [a, b, c, d, e, f, g, h].flatMap fun group => beBytes 2 group.toNat

/-- The storage the kernel expects for `addr`. -/
def SocketAddr.wire (host : Endian) (addr : SocketAddr) : List UInt8 :=
  match addr.ip with
  | .ipv4Addr .. =>
      host.bytes 2 AF_INET ++ beBytes 2 addr.port.toNat ++ addr.ip.octets ++
        List.replicate 120 0
  | .ipv6Addr .. =>
      host.bytes 2 AF_INET6 ++ beBytes 2 addr.port.toNat ++ List.replicate 4 0 ++
        addr.ip.octets ++ List.replicate 104 0

/-- The 16-bit word at an offset, read in network order. -/
def netWordAt (bs : List UInt8) (i : Nat) : UInt16 :=
  UInt16.ofNat (ofBe ((bs.drop i).take 2))

/-- The address that the kernel reads out of a storage. -/
def SocketAddr.ofBytes (host : Endian) (bs : List UInt8) : Option SocketAddr :=
  let family := host.value (bs.take 2)
  if family = AF_INET then
    match (bs.drop 4).take 4 with
    | [a, b, c, d] => some ⟨.ipv4Addr a b c d, netWordAt bs 2⟩
    | _ => none
  else if family = AF_INET6 then
    some ⟨.ipv6Addr (netWordAt bs 8) (netWordAt bs 10) (netWordAt bs 12) (netWordAt bs 14)
      (netWordAt bs 16) (netWordAt bs 18) (netWordAt bs 20) (netWordAt bs 22), netWordAt bs 2⟩
  else
    none

theorem word_beBytes (u : UInt16) : UInt16.ofNat (ofBe (beBytes 2 u.toNat)) = u := by
  rw [ofBe_beBytes u.toNat_lt, UInt16.ofNat_toNat]

/-- The network form loses nothing. -/
theorem SocketAddr.ofBytes_wire (host : Endian) (addr : SocketAddr) :
    SocketAddr.ofBytes host (addr.wire host) = some addr := by
  obtain ⟨ip, port⟩ := addr
  cases ip with
  | ipv4Addr a b c d =>
    have read : SocketAddr.ofBytes host (SocketAddr.wire host ⟨.ipv4Addr a b c d, port⟩) =
        some ⟨.ipv4Addr a b c d, UInt16.ofNat (ofBe (beBytes 2 port.toNat))⟩ := by
      cases host <;> rfl
    rw [read, word_beBytes]
  | ipv6Addr a b c d e f g h =>
    let word : UInt16 → UInt16 := fun u => UInt16.ofNat (ofBe (beBytes 2 u.toNat))
    have read : SocketAddr.ofBytes host
          (SocketAddr.wire host ⟨.ipv6Addr a b c d e f g h, port⟩) =
        some ⟨.ipv6Addr (word a) (word b) (word c) (word d) (word e) (word f) (word g)
          (word h), word port⟩ := by
      cases host <;> rfl
    have same : ∀ u, word u = u := word_beBytes
    rw [read]
    simp only [same]

/-! ## What the code writes -/

theorem swap_toNat (u : UInt16) :
    ((u <<< 8) ||| (u >>> 8)).toNat = ofLe (beBytes 2 u.toNat) := by
  have hu := u.toNat_lt
  have low : u.toNat <<< 8 % 65536 = (u.toNat % 256) <<< 8 := by
    simp only [Nat.shiftLeft_eq]
    omega
  have high : u.toNat >>> 8 < 2 ^ 8 := by
    rw [Nat.shiftRight_eq_div_pow]
    omega
  have split : ofLe (beBytes 2 u.toNat) = u.toNat / 256 % 256 + 256 * (u.toNat % 256) := by
    simp [beBytes, ofLe_cons]
  simp only [UInt16.toNat_or, UInt16.toNat_shiftLeft, UInt16.toNat_shiftRight]
  show u.toNat <<< 8 % 65536 ||| u.toNat >>> 8 = _
  rw [low, ← Nat.shiftLeft_add_eq_or_of_lt high, split]
  simp only [Nat.shiftLeft_eq, Nat.shiftRight_eq_div_pow]
  omega

/-- `htons` is what makes a word come out in network order. -/
theorem htons_bytes (host : Endian) (u : UInt16) :
    host.bytes 2 (htons host u).toNat = beBytes 2 u.toNat := by
  cases host with
  | big => rfl
  | little =>
    show leBytes 2 ((u <<< 8) ||| (u >>> 8)).toNat = beBytes 2 u.toNat
    rw [swap_toNat]
    exact leBytes_ofLe (beBytes 2 u.toNat)

/-- An octet keeps all its bits where the code shifts it. -/
theorem octet_shifted (x : UInt8) {k : UInt32} (hk : k.toNat ≤ 24) :
    (x.toUInt32 <<< k).toNat = x.toNat <<< k.toNat := by
  have fits : x.toNat <<< k.toNat < 2 ^ 32 := by
    rw [Nat.shiftLeft_eq]
    calc x.toNat * 2 ^ k.toNat
        < 2 ^ 8 * 2 ^ k.toNat := Nat.mul_lt_mul_of_pos_right x.toNat_lt (Nat.two_pow_pos _)
      _ ≤ 2 ^ 8 * 2 ^ 24 := Nat.mul_le_mul_left _ (Nat.pow_le_pow_right (by decide) hk)
      _ = 2 ^ 32 := by decide
  have shift : k.toNat % 32 = k.toNat := Nat.mod_eq_of_lt (by omega)
  rw [UInt32.toNat_shiftLeft, UInt8.toNat_toUInt32, shift, Nat.mod_eq_of_lt fits]

/-- The shifts put the first octet lowest, on every host. -/
theorem ipv4_word (a b c d : UInt8) :
    ((d.toUInt32 <<< 24) ||| (c.toUInt32 <<< 16) ||| (b.toUInt32 <<< 8) |||
      (a.toUInt32 <<< 0)).toNat = ofLe [a, b, c, d] := by
  simp only [UInt32.toNat_or]
  rw [octet_shifted d (by decide), octet_shifted c (by decide), octet_shifted b (by decide),
    octet_shifted a (by decide)]
  simp [ofLe_cons_or, Nat.shiftLeft_or_distrib, ← Nat.shiftLeft_add]

/-- The address whose network form the code leaves in memory. -/
def SocketAddr.written (host : Endian) (addr : SocketAddr) : SocketAddr :=
  match host, addr.ip with
  | .big, .ipv4Addr a b c d => ⟨.ipv4Addr d c b a, addr.port⟩
  | _, _ => addr

theorem SocketAddr.written_written (host : Endian) (addr : SocketAddr) :
    (addr.written host).written host = addr := by
  obtain ⟨ip, port⟩ := addr
  cases host <;> cases ip <;> rfl

theorem ipv4_bytes (host : Endian) (a b c d : UInt8) (port : UInt16) :
    host.bytes 4 ((d.toUInt32 <<< 24) ||| (c.toUInt32 <<< 16) ||| (b.toUInt32 <<< 8) |||
      (a.toUInt32 <<< 0)).toNat =
      (SocketAddr.written host ⟨.ipv4Addr a b c d, port⟩).ip.octets := by
  rw [ipv4_word]
  cases host with
  | little => exact leBytes_ofLe [a, b, c, d]
  | big => exact beBytes_ofLe [a, b, c, d]

@[simp] theorem Endian.length_bytes (host : Endian) (w x : Nat) :
    (host.bytes w x).length = w := by
  cases host <;> simp [Endian.bytes]

/-- The length that is passed along is that of the structure. -/
theorem sockaddr_length (host : Endian) (addr : SocketAddr) :
    ((addrToSockaddr host addr).1.fields host).length = (addrToSockaddr host addr).2 := by
  obtain ⟨ip, port⟩ := addr
  cases ip <;> simp [addrToSockaddr, ipToInaddr, Sockaddr.fields]

/-- The storage is the network form of `written`, byte for byte. -/
theorem sockaddr_bytes (host : Endian) (addr : SocketAddr) :
    (addrToSockaddr host addr).1.bytes host = (addr.written host).wire host := by
  obtain ⟨ip, port⟩ := addr
  rw [Sockaddr.bytes, sockaddr_length]
  cases ip with
  | ipv4Addr a b c d =>
    have fields : (addrToSockaddr host ⟨.ipv4Addr a b c d, port⟩).1.fields host =
        host.bytes 2 AF_INET ++ beBytes 2 port.toNat ++
          (SocketAddr.written host ⟨.ipv4Addr a b c d, port⟩).ip.octets ++
          List.replicate 8 0 := by
      rw [← htons_bytes host port, ← ipv4_bytes host a b c d port]
      rfl
    rw [fields, List.append_assoc _ (List.replicate 8 0)]
    cases host <;> rfl
  | ipv6Addr a b c d e f g h =>
    have fields : (addrToSockaddr host ⟨.ipv6Addr a b c d e f g h, port⟩).1.fields host =
        host.bytes 2 AF_INET6 ++ beBytes 2 port.toNat ++ List.replicate 4 0 ++
          (IpAddr.ipv6Addr a b c d e f g h).octets ++ List.replicate 4 0 := by
      simp only [addrToSockaddr, ipToInaddr, Sockaddr.fields, IpAddr.octets, htons_bytes,
        List.flatMap_cons, List.flatMap_nil]
    rw [fields, List.append_assoc _ (List.replicate 4 0)]
    cases host <;> rfl

/-- What `sockaddr_bytes` means for a reader of the storage. -/
theorem ofBytes_sockaddr (host : Endian) (addr : SocketAddr) :
    SocketAddr.ofBytes host ((addrToSockaddr host addr).1.bytes host) =
      some (addr.written host) := by
  rw [sockaddr_bytes, SocketAddr.ofBytes_wire]

/-- No two addresses have the same storage, not even where the address that
is read back is the wrong one. -/
theorem sockaddr_bytes_injective (host : Endian) :
    Function.Injective fun addr => (addrToSockaddr host addr).1.bytes host := by
  intro addr other same
  have read : some (addr.written host) = some (other.written host) := by
    rw [← ofBytes_sockaddr host addr, ← ofBytes_sockaddr host other]
    exact congrArg _ same
  rw [← SocketAddr.written_written host addr, Option.some.inj read,
    SocketAddr.written_written host other]

theorem SocketAddr.written_eq_iff (host : Endian) (addr : SocketAddr) :
    addr.written host = addr ↔
      host = .little ∨ ∀ a b c d, addr.ip = .ipv4Addr a b c d → a = d ∧ b = c := by
  obtain ⟨ip, port⟩ := addr
  cases host with
  | little => simp [SocketAddr.written]
  | big =>
    cases ip with
    | ipv6Addr a b c d e f g h => simp [SocketAddr.written]
    | ipv4Addr a b c d =>
      simp only [SocketAddr.written, SocketAddr.mk.injEq, IpAddr.ipv4Addr.injEq]
      constructor
      · rintro ⟨⟨da, cb, bc, ad⟩, -⟩
        right
        rintro _ _ _ _ ⟨rfl, rfl, rfl, rfl⟩
        exact ⟨ad, bc⟩
      · rintro (h | h)
        · cases h
        · obtain ⟨ad, bc⟩ := h a b c d ⟨rfl, rfl, rfl, rfl⟩
          exact ⟨⟨ad.symm, bc.symm, bc, ad⟩, trivial⟩

/-! ## The encoding -/

/-- The size of the structure that goes with a family. -/
def sockaddrSize (family : Nat) : Option Nat :=
  if family = AF_INET then some 16
  else if family = AF_INET6 then some 28
  else none

/-- `addrToSockaddr` encodes `addr` in network order. -/
structure Encoded (host : Endian) (addr : SocketAddr) : Prop where
  /-- the bytes, from the family to the last zero -/
  wire : (addrToSockaddr host addr).1.bytes host = addr.wire host
  /-- they give the address back -/
  decodes : SocketAddr.ofBytes host ((addrToSockaddr host addr).1.bytes host) = some addr
  /-- no other address has them -/
  distinct : ∀ other, (addrToSockaddr host other).1.bytes host =
    (addrToSockaddr host addr).1.bytes host → other = addr
  /-- family and length are those of the socket that is created for it -/
  family : ∃ fam, host.value (((addrToSockaddr host addr).1.bytes host).take 2) = fam ∧
    sockaddrSize fam = some (addrToSockaddr host addr).2 ∧
    ∀ blocking, ∃ ty k, createSocket addr blocking = .call (.once (.socket fam ty)) k

theorem sockaddr_family (host : Endian) (addr : SocketAddr) :
    ∃ fam, host.value (((addrToSockaddr host addr).1.bytes host).take 2) = fam ∧
      sockaddrSize fam = some (addrToSockaddr host addr).2 ∧
      ∀ blocking, ∃ ty k, createSocket addr blocking = .call (.once (.socket fam ty)) k := by
  rw [sockaddr_bytes]
  obtain ⟨ip, port⟩ := addr
  cases ip with
  | ipv4Addr a b c d =>
    have family : host.value ((SocketAddr.wire host
        (SocketAddr.written host ⟨.ipv4Addr a b c d, port⟩)).take 2) = AF_INET := by
      cases host <;> rfl
    exact ⟨AF_INET, family, rfl, fun _ => ⟨_, _, rfl⟩⟩
  | ipv6Addr a b c d e f g h =>
    have family : host.value ((SocketAddr.wire host
        (SocketAddr.written host ⟨.ipv6Addr a b c d e f g h, port⟩)).take 2) = AF_INET6 := by
      cases host <;> rfl
    exact ⟨AF_INET6, family, rfl, fun _ => ⟨_, _, rfl⟩⟩

/-- **Byte order.** The storage is in network order on every little-endian
host and for every IPv6 address; on a big-endian host an IPv4 address comes
out backwards, which only a palindrome survives. -/
theorem addrToSockaddr_encoded_iff (host : Endian) (addr : SocketAddr) :
    Encoded host addr ↔
      host = .little ∨ ∀ a b c d, addr.ip = .ipv4Addr a b c d → a = d ∧ b = c := by
  rw [← SocketAddr.written_eq_iff]
  constructor
  · intro encoded
    have read := encoded.decodes
    rw [ofBytes_sockaddr] at read
    exact Option.some.inj read
  · intro same
    exact {
      wire := by rw [sockaddr_bytes, same]
      decodes := by rw [ofBytes_sockaddr, same]
      distinct := fun _ equal => sockaddr_bytes_injective host equal
      family := sockaddr_family host addr }

/-- On a big-endian host `127.0.0.1:80` is stored as `1.0.0.127:80`. -/
theorem addrToSockaddr_reverses_loopback :
    ((addrToSockaddr .big ⟨.ipv4Addr 127 0 0 1, 80⟩).1.bytes .big).take 8 =
        [0, 2, 0, 80, 1, 0, 0, 127] ∧
      ¬ Encoded .big ⟨.ipv4Addr 127 0 0 1, 80⟩ := by
  constructor
  · decide
  · intro encoded
    have read := encoded.decodes
    rw [ofBytes_sockaddr] at read
    exact absurd read (by decide)

end Revbio
