/-
# Headers of the PROXY protocol

`socket_parse_proxy` of `apps/relay/ns_ioalib_engine_impl.c` reads the header of a proxy, in one of
two versions, from what has been received so far. It waits for the rest of a version 2 header, but
takes a version 1 header that is cut after its sixteenth byte for a violation of the protocol.
-/
import Coturn.AddrText
import Coturn.Server.Auth

namespace Coturn

open ByteSeq IoaAddr TextNumber List Option

/-- 0, -1, or the length of the header, with the addresses if they have been set. -/
inductive ProxyResult where
  | more
  | violated
  | header (tlen : ℕ) (addrs : Option (IoaAddr × IoaAddr))
  deriving DecidableEq

/-- The field up to a separator, and what follows that; `none` when there are `max` bytes and no
separator. -/
def proxyStringField : ℕ → List UInt8 → Option (List UInt8 × List UInt8)
  | 0, _ | _, [] => none
  | max + 1, b :: buf =>
    if b = 0x20 ∨ b = 0x0D then some ([], buf)
    else (proxyStringField max buf).map fun r => (b :: r.1, r.2)

/-- The fields of a version 1 header as they stand in it. -/
structure ProxyFields where
  saddr : List UInt8
  daddr : List UInt8
  sport : List UInt8
  dport : List UInt8

/-- The four fields and the line feed, and what follows. -/
def proxyFields (buf : List UInt8) : Option (ProxyFields × List UInt8) :=
  (proxyStringField 40 buf).bind fun saddr =>
  (proxyStringField 40 saddr.2).bind fun daddr =>
  (proxyStringField 6 daddr.2).bind fun sport =>
  (proxyStringField 6 sport.2).bind fun dport =>
  if dport.2.head? = some 0x0A then some (⟨saddr.1, daddr.1, sport.1, dport.1⟩, dport.2.tail)
  else none

variable (inet : InetText)

/-- The local and the remote address. -/
def ProxyFields.addrs (ipv4 : Bool) (f : ProxyFields) : Option (IoaAddr × IoaAddr) :=
  let sport := atoi (cStr f.sport)
  let dport := atoi (cStr f.dport)
  if sport < 0 ∨ 0xFFFF < sport ∨ dport < 0 ∨ 0xFFFF < dport then none
  else if ipv4 then
    (inet.pton4 (cStr f.saddr)).bind fun remote => (inet.pton4 (cStr f.daddr)).map fun ip =>
      (s4 ip (.ofNat dport.toNat), s4 remote (.ofNat sport.toNat))
  else
    (inet.pton6 (cStr f.saddr)).bind fun remote => (inet.pton6 (cStr f.daddr)).map fun ip =>
      (s6 ip (.ofNat dport.toNat), s6 remote (.ofNat sport.toNat))

/-- Whether the addresses are IPv4. -/
def proxyFamily (buf : List UInt8) : Option Bool :=
  if (buf.drop 6).take 5 = asciiBytes "TCP4 " then some true
  else if (buf.drop 6).take 5 = asciiBytes "TCP6 " then some false
  else none

/-- The header as a line of text. -/
def socketParseProxyV1 (buf : List UInt8) : ProxyResult :=
  if buf.length < 11 then .more
  else if buf.take 6 ≠ asciiBytes "PROXY " then .violated
  else
    ((proxyFamily buf).bind fun ipv4 => (proxyFields (buf.drop 11)).bind fun r =>
      (r.1.addrs inet ipv4).map fun addrs =>
        ProxyResult.header (buf.length - r.2.length) (some addrs)).getD .violated

def proxyV2Magic : List UInt8 :=
  [0x0D, 0x0A, 0x0D, 0x0A, 0x00, 0x0D, 0x0A, 0x51, 0x55, 0x49, 0x54, 0x0A]

/-- The port of an address in a version 2 header. -/
def proxyPort (buf : List UInt8) (i : ℕ) : UInt16 := UInt16.ofNat (beAt buf i 2)

/-- A complete version 2 header with `plen` bytes after the first sixteen. -/
def proxyV2Data (plen : ℕ) (buf : List UInt8) : ProxyResult :=
  let command := buf.getD 12 0 &&& 0xF
  let family := buf.getD 13 0 >>> 4
  let proto := buf.getD 13 0 &&& 0xF
  if command = 0 then .header (16 + plen) none
  else if command ≠ 1 ∨ proto ≠ 1 then .violated
  else if family = 1 ∧ 12 ≤ plen then
    .header (16 + plen) (some (s4 (.ofFn fun i => buf.getD (20 + i) 0) (proxyPort buf 26),
      s4 (.ofFn fun i => buf.getD (16 + i) 0) (proxyPort buf 24)))
  else if family = 2 ∧ 36 ≤ plen then
    .header (16 + plen) (some (s6 (.ofFn fun i => buf.getD (32 + i) 0) (proxyPort buf 50),
      s6 (.ofFn fun i => buf.getD (16 + i) 0) (proxyPort buf 48)))
  else .violated

/-- The binary header. -/
def socketParseProxyV2 (buf : List UInt8) : ProxyResult :=
  if buf.length < 16 then .more
  else if buf.take 12 ≠ proxyV2Magic then .violated
  else if buf.getD 12 0 >>> 4 ≠ 2 then .violated
  else if buf.length < 16 + beAt buf 14 2 then .more
  else proxyV2Data (beAt buf 14 2) (buf.take (16 + beAt buf 14 2))

def socketParseProxy (buf : List UInt8) : ProxyResult :=
  if socketParseProxyV2 buf = .violated then socketParseProxyV1 inet buf else socketParseProxyV2 buf

variable {inet} {buf t : List UInt8} {n : ℕ} {addrs : Option (IoaAddr × IoaAddr)}

/-! ## Version 2 -/

lemma proxyV2Data_length {plen : ℕ} (h : proxyV2Data plen buf = .header n addrs) :
    n = 16 + plen := by
  simp only [proxyV2Data] at h
  split_ifs at h <;> cases h <;> rfl

lemma socketParseProxyV2_eq (hlen : 16 ≤ buf.length) (hmagic : buf.take 12 = proxyV2Magic)
    (hversion : buf.getD 12 0 >>> 4 = 2) :
    socketParseProxyV2 buf = if buf.length < 16 + beAt buf 14 2 then .more
      else proxyV2Data (beAt buf 14 2) (buf.take (16 + beAt buf 14 2)) := by
  rw [socketParseProxyV2, if_neg (by omega), if_neg (not_not.mpr hmagic),
    if_neg (not_not.mpr hversion)]

lemma socketParseProxyV2_header (h : socketParseProxyV2 buf = .header n addrs) :
    n = 16 + beAt buf 14 2 ∧ n ≤ buf.length ∧ buf.take 12 = proxyV2Magic ∧
      buf.getD 12 0 >>> 4 = 2 ∧ proxyV2Data (beAt buf 14 2) (buf.take n) = .header n addrs := by
  unfold socketParseProxyV2 at h
  split_ifs at h with hlen hmagic hversion hmore
  have hn := proxyV2Data_length h
  exact ⟨hn, by omega, not_not.mp hmagic, not_not.mp hversion, hn ▸ h⟩

/-- A part of a version 2 header. -/
lemma socketParseProxyV2_take (h : socketParseProxyV2 buf = .header n addrs) {k : ℕ} (hk : k < n) :
    socketParseProxyV2 (buf.take k) = .more := by
  obtain ⟨hn, hle, hmagic, hversion, -⟩ := socketParseProxyV2_header h
  have hlen : (buf.take k).length = k := by
    rw [length_take]
    omega
  by_cases hshort : k < 16
  · rw [socketParseProxyV2, if_pos (by omega)]
  · have hmagic' : (buf.take k).take 12 = proxyV2Magic := by
      rw [take_take, min_eq_left (by omega), hmagic]
    have hversion' : (buf.take k).getD 12 0 >>> 4 = 2 := by
      rw [getD_eq_getElem?_getD, getElem?_take_of_lt (by omega),
        ← getD_eq_getElem?_getD, hversion]
    rw [socketParseProxyV2_eq (by omega) hmagic' hversion', hlen, beAt_take (by omega),
      if_pos (by omega)]

/-- A version 2 header with what follows it. -/
lemma socketParseProxyV2_append (h : socketParseProxyV2 buf = .header n addrs) (t : List UInt8) :
    socketParseProxyV2 (buf ++ t) = .header n addrs := by
  obtain ⟨hn, hle, hmagic, hversion, hdata⟩ := socketParseProxyV2_header h
  have hmagic' : (buf ++ t).take 12 = proxyV2Magic := by
    rw [take_append_of_le_length (by omega), hmagic]
  have hversion' : (buf ++ t).getD 12 0 >>> 4 = 2 := by
    rw [getD_eq_getElem?_getD, getElem?_append_left (by omega),
      ← getD_eq_getElem?_getD, hversion]
  rw [socketParseProxyV2_eq (by rw [length_append]; omega) hmagic' hversion',
    beAt_append_left (by omega), if_neg (by rw [length_append]; omega), ← hn,
    take_append_of_le_length hle, hdata]

/-! ## Version 1 -/

/-- A field is found again when more follows, and it takes its bytes and the separator. -/
lemma proxyStringField_append {max : ℕ} {r : List UInt8 × List UInt8}
    (h : proxyStringField max buf = some r) (t : List UInt8) :
    proxyStringField max (buf ++ t) = some (r.1, r.2 ++ t) ∧
      buf.length = r.1.length + 1 + r.2.length := by
  fun_induction proxyStringField max buf generalizing r with
  | case1 => cases h
  | case2 => cases h
  | case3 max b buf hsep =>
    cases h
    rw [cons_append, proxyStringField, if_pos hsep]
    exact ⟨rfl, Nat.add_comm _ _⟩
  | case4 max b buf hsep ih =>
    obtain ⟨r, hr, rfl⟩ := map_eq_some_iff.mp h
    obtain ⟨happend, hlen⟩ := ih hr
    rw [cons_append, proxyStringField, if_neg hsep, happend]
    refine ⟨rfl, ?_⟩
    simp only [length_cons, hlen]
    omega

lemma proxyFields_append {r : ProxyFields × List UInt8} (h : proxyFields buf = some r)
    (t : List UInt8) :
    proxyFields (buf ++ t) = some (r.1, r.2 ++ t) ∧
      r.1.saddr.length + r.1.daddr.length + 5 + r.2.length ≤ buf.length := by
  simp only [proxyFields, bind_eq_some_iff] at h
  obtain ⟨saddr, hsaddr, daddr, hdaddr, sport, hsport, dport, hdport, hend⟩ := h
  obtain ⟨hsaddr, hslen⟩ := proxyStringField_append hsaddr t
  obtain ⟨hdaddr, hdlen⟩ := proxyStringField_append hdaddr t
  obtain ⟨hsport, hsplen⟩ := proxyStringField_append hsport t
  obtain ⟨hdport, hdplen⟩ := proxyStringField_append hdport t
  split_ifs at hend with hfeed
  cases hend
  obtain ⟨rest, hrest⟩ : ∃ rest, dport.2 = 0x0A :: rest := head?_eq_some_iff.mp hfeed
  rw [hrest] at hdport hdplen
  constructor
  · rw [proxyFields, hsaddr, bind_some, hdaddr, bind_some, hsport, bind_some,
      hdport, bind_some]
    simp [hrest]
  · simp only [hrest, tail_cons]
    simp only [length_cons] at hdplen
    omega

/-- The addresses of an accepted header are not empty. -/
lemma ProxyFields.addrs_ne_nil {ipv4 : Bool} {f : ProxyFields} {a : IoaAddr × IoaAddr}
    (h : f.addrs inet ipv4 = some a) : f.saddr ≠ [] ∧ f.daddr ≠ [] := by
  have hne : ∀ {s : List UInt8}, cStr s ≠ [] → s ≠ [] := by
    rintro s hs rfl
    exact hs rfl
  simp only [ProxyFields.addrs] at h
  split_ifs at h with hports hipv4
  · obtain ⟨remote, hremote, hmap⟩ := bind_eq_some_iff.mp h
    obtain ⟨ip, hip, -⟩ := map_eq_some_iff.mp hmap
    exact ⟨hne (inet.pton4_chars hremote).1, hne (inet.pton4_chars hip).1⟩
  · obtain ⟨remote, hremote, hmap⟩ := bind_eq_some_iff.mp h
    obtain ⟨ip, hip, -⟩ := map_eq_some_iff.mp hmap
    exact ⟨hne (ne_nil_of_mem (inet.pton6_chars hremote).1),
      hne (ne_nil_of_mem (inet.pton6_chars hip).1)⟩

/-- A version 1 header has at least 18 bytes, and is read as it stands. -/
lemma socketParseProxyV1_append (h : socketParseProxyV1 inet buf = .header n addrs)
    (t : List UInt8) :
    18 ≤ n ∧ n ≤ buf.length ∧ socketParseProxyV1 inet (buf ++ t) = .header n addrs := by
  unfold socketParseProxyV1 at h
  split_ifs at h with hlen hmagic
  rw [not_not] at hmagic
  obtain hread | ⟨-, hno⟩ := getD_eq_iff.mp h
  · simp only [bind_eq_some_iff, map_eq_some_iff] at hread
    obtain ⟨ipv4, hfamily, r, hfields, a, haddrs, heq⟩ := hread
    cases heq
    obtain ⟨happend, hmin⟩ := proxyFields_append hfields t
    obtain ⟨hs, hd⟩ := ProxyFields.addrs_ne_nil haddrs
    have hs := length_pos_of_ne_nil hs
    have hd := length_pos_of_ne_nil hd
    rw [length_drop] at hmin
    refine ⟨by omega, by omega, ?_⟩
    have hfamily' : proxyFamily (buf ++ t) = some ipv4 := by
      rw [← hfamily, proxyFamily, proxyFamily, drop_append_of_le_length (by omega),
        take_append_of_le_length (by rw [length_drop]; omega)]
    rw [socketParseProxyV1, if_neg (by rw [length_append]; omega),
      take_append_of_le_length (by omega), if_neg (not_not.mpr hmagic), hfamily',
      bind_some, drop_append_of_le_length (by omega), happend, bind_some, haddrs]
    have htlen : (buf ++ t).length - (r.2 ++ t).length = buf.length - r.2.length := by
      simp only [length_append]
      omega
    simp only [map_some, getD_some, htlen]
  · cases hno

/-! ## Segmentation -/

lemma socketParseProxyV2_of_not_magic (hlen : 16 ≤ buf.length) (h : buf.take 12 ≠ proxyV2Magic) :
    socketParseProxyV2 buf = .violated := by
  rw [socketParseProxyV2, if_neg (by omega), if_pos h]

/-- A header that is accepted is a version 2 header or a version 1 header, by how it begins. -/
lemma socketParseProxy_header (h : socketParseProxy inet buf = .header n addrs) :
    (buf.take 12 = proxyV2Magic ∧ socketParseProxyV2 buf = .header n addrs) ∨
      (buf.take 12 ≠ proxyV2Magic ∧ 16 ≤ buf.length ∧
        socketParseProxyV1 inet buf = .header n addrs) := by
  unfold socketParseProxy at h
  split_ifs at h with hv2
  · obtain ⟨hmin, hle, -⟩ := socketParseProxyV1_append h []
    refine Or.inr ⟨fun hmagic => ?_, by omega, h⟩
    -- the two versions begin with different bytes
    have hsix : buf.take 6 = proxyV2Magic.take 6 := by
      rw [← hmagic, take_take]
      rfl
    rw [socketParseProxyV1, if_neg (by omega), if_pos (by rw [hsix]; decide)] at h
    cases h
  · exact Or.inl ⟨(socketParseProxyV2_header h).2.2.1, h⟩

lemma socketParseProxy_append (h : socketParseProxy inet buf = .header n addrs) (t : List UInt8) :
    socketParseProxy inet (buf ++ t) = .header n addrs := by
  rcases socketParseProxy_header h with ⟨-, hv2⟩ | ⟨hmagic, hlen, hv1⟩
  · have happend := socketParseProxyV2_append hv2 t
    rw [socketParseProxy, if_neg (by rw [happend]; exact ProxyResult.noConfusion), happend]
  · have hv2 : socketParseProxyV2 (buf ++ t) = .violated :=
      socketParseProxyV2_of_not_magic (by rw [length_append]; omega)
        (by rwa [take_append_of_le_length (by omega)])
    rw [socketParseProxy, if_pos hv2, (socketParseProxyV1_append hv1 t).2.2]

/-- A version 1 header without its last byte is a violation of the protocol. -/
lemma socketParseProxy_cut (hv1 : socketParseProxyV1 inet buf = .header buf.length addrs)
    (hmagic : buf.take 12 ≠ proxyV2Magic) :
    socketParseProxy inet (buf.take (buf.length - 1)) = .violated := by
  obtain ⟨hmin, -, -⟩ := socketParseProxyV1_append hv1 []
  have hlen : (buf.take (buf.length - 1)).length = buf.length - 1 := by
    rw [length_take]
    omega
  have hv2 : socketParseProxyV2 (buf.take (buf.length - 1)) = .violated := by
    refine socketParseProxyV2_of_not_magic (by omega) ?_
    rwa [take_take, min_eq_left (by omega)]
  rw [socketParseProxy, if_pos hv2]
  cases hcut : socketParseProxyV1 inet (buf.take (buf.length - 1)) with
  | violated => rfl
  | more =>
    rw [socketParseProxyV1, if_neg (by omega)] at hcut
    split_ifs at hcut
    obtain hread | ⟨-, hno⟩ := getD_eq_iff.mp hcut
    · simp [bind_eq_some_iff] at hread
    · cases hno
  | header m a =>
    -- the shorter header would be found in the whole one
    obtain ⟨-, hle, hwhole⟩ := socketParseProxyV1_append hcut (buf.drop (buf.length - 1))
    rw [take_append_drop, hv1] at hwhole
    cases hwhole
    omega

/-- A complete header that is accepted is read whatever follows, and every part of it makes the
parser wait, exactly when it is a version 2 header. -/
theorem proxy_segmentation_iff (inet : InetText) (buf : List UInt8)
    (addrs : Option (IoaAddr × IoaAddr))
    (h : socketParseProxy inet buf = .header buf.length addrs) :
    ((∀ k < buf.length, socketParseProxy inet (buf.take k) = .more) ∧
        ∀ t, socketParseProxy inet (buf ++ t) = .header buf.length addrs) ↔
      buf.take 12 = proxyV2Magic := by
  constructor
  · rintro ⟨hmore, -⟩
    rcases socketParseProxy_header h with ⟨hmagic, -⟩ | ⟨hmagic, hlen, hv1⟩
    · exact hmagic
    · have hviolated := socketParseProxy_cut hv1 hmagic
      rw [hmore _ (by omega)] at hviolated
      cases hviolated
  · intro hmagic
    refine ⟨fun k hk => ?_, socketParseProxy_append h⟩
    rcases socketParseProxy_header h with ⟨-, hv2⟩ | ⟨hno, -⟩
    · have htake := socketParseProxyV2_take hv2 hk
      rw [socketParseProxy, if_neg (by rw [htake]; exact ProxyResult.noConfusion), htake]
    · exact absurd hmagic hno

/-- A version 2 header: 10.0.0.1 port 5000 connects to 10.0.0.2 port 3478. -/
def inetHeader : List UInt8 :=
  proxyV2Magic ++ [0x21, 0x11, 0x00, 0x0C, 10, 0, 0, 1, 10, 0, 0, 2, 0x13, 0x88, 0x0D, 0x96]

theorem proxy_segmentation_iff_v2 :
    socketParseProxy sampleInet inetHeader =
        .header 28 (some (s4 ⟨[10, 0, 0, 2], rfl⟩ 3478, s4 ⟨[10, 0, 0, 1], rfl⟩ 5000)) ∧
      ∀ k < 28, socketParseProxy sampleInet (inetHeader.take k) = .more := by
  have hheader : socketParseProxy sampleInet inetHeader = .header inetHeader.length
      (some (s4 ⟨[10, 0, 0, 2], rfl⟩ 3478, s4 ⟨[10, 0, 0, 1], rfl⟩ 5000)) := by
    rw [socketParseProxy, if_neg (by decide)]
    decide +kernel
  exact ⟨hheader, ((proxy_segmentation_iff sampleInet inetHeader _ hheader).mpr rfl).1⟩

/-- When the line feed of a version 1 header has not been received yet, the connection is closed. -/
theorem proxy_v1_cut_violated :
    socketParseProxy sampleInet (asciiBytes "PROXY TCP6 :: :: 1 2\r\n") =
        .header 22 (some (s6 (.replicate 16 0) 2, s6 (.replicate 16 0) 1)) ∧
      socketParseProxy sampleInet (asciiBytes "PROXY TCP6 :: :: 1 2\r") = .violated := by
  have hany : sampleInet.pton6 (asciiBytes "::") = some (.replicate 16 0) := by
    rw [← sampleInet.ntop6_any]
    exact sampleInet.pton6_ntop6 _
  have hfields : proxyFields ((asciiBytes "PROXY TCP6 :: :: 1 2\r\n").drop 11) =
      some (⟨asciiBytes "::", asciiBytes "::", asciiBytes "1", asciiBytes "2"⟩, []) := rfl
  have haddrs : ProxyFields.addrs sampleInet false
      ⟨asciiBytes "::", asciiBytes "::", asciiBytes "1", asciiBytes "2"⟩ =
        some (s6 (.replicate 16 0) 2, s6 (.replicate 16 0) 1) := by
    simp only [ProxyFields.addrs]
    rw [if_neg (by decide +kernel), if_neg Bool.false_ne_true,
      show cStr (asciiBytes "::") = asciiBytes "::" from rfl, hany]
    rfl
  constructor
  · rw [socketParseProxy, if_pos (by decide), socketParseProxyV1, if_neg (by decide),
      if_neg (by decide), hfields]
    change ((ProxyFields.addrs sampleInet false _).map _).getD _ = _
    rw [haddrs]
    rfl
  · rw [socketParseProxy, if_pos (by decide)]
    rfl

end Coturn
