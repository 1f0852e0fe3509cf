import RustyCore.Model.Network.WriteFence

/-! # Packet nonces

A nonce is the number of packets before it as long as only the halves of a split socket
encrypt. The socket itself starts again at 0 after the handshake. -/

namespace RustyCore.Network

variable {c : WorldSocket × Wire} {suffix : BitVec 32} {packets : List WirePacket} {key : AesKey}

/-- The counter of every nonce is the number of the packets before it. -/
def InStep (suffix : BitVec 32) (packets : List WirePacket) : Prop :=
  ∀ (i : ℕ) (call : CipherCall), packets[i]? = some (.encrypted call) →
    call.nonce = WorldCrypt.makeNonce (BitVec.ofNat 64 i) suffix

/-- Both directions are in step. -/
def Wire.InStep (w : Wire) : Prop :=
  Network.InStep serverSuffix w.server ∧ Network.InStep clientSuffix w.client

def noncesOf (packets : List WirePacket) : List (AesKey × List Byte) :=
  packets.filterMap fun
    | .plain _ => none
    | .encrypted call => some (call.key, call.nonce)

/-- The keys and nonces of all packets of a connection. -/
def Wire.nonces (w : Wire) : List (AesKey × List Byte) := noncesOf w.server ++ noncesOf w.client

/-- The actions that do not use the crypt of the socket. -/
def SocketAction.isPlain : SocketAction → Bool
  | .sendUnencryptedPacket _ | .readUnencryptedPacket _ => true
  | .sendPacket _ | .readEncryptedPacket _ => false

/-! ## Nonces of packets that are in step -/

theorem makeNonce_inj {c c' : BitVec 64} {suffix' : BitVec 32}
    (h : WorldCrypt.makeNonce c suffix = WorldCrypt.makeNonce c' suffix') :
    c = c' ∧ suffix = suffix' := by
  obtain ⟨hcounter, hsuffix⟩ := List.append_inj h (by simp)
  have hc := congrArg ofLeBytes hcounter
  have hs := congrArg ofLeBytes hsuffix
  rw [ofLeBytes_leBytes_of_lt c.isLt, ofLeBytes_leBytes_of_lt c'.isLt] at hc
  rw [ofLeBytes_leBytes_of_lt suffix.isLt, ofLeBytes_leBytes_of_lt suffix'.isLt] at hs
  exact ⟨BitVec.eq_of_toNat_eq hc, BitVec.eq_of_toNat_eq hs⟩

theorem ofNat_inj_of_lt {i j : ℕ} (hi : i < 2 ^ 64) (hj : j < 2 ^ 64)
    (h : BitVec.ofNat 64 i = BitVec.ofNat 64 j) : i = j := by
  have hnat := congrArg BitVec.toNat h
  rwa [BitVec.toNat_ofNat, BitVec.toNat_ofNat, Nat.mod_eq_of_lt hi, Nat.mod_eq_of_lt hj] at hnat

theorem inStep_append {packet : WirePacket} :
    InStep suffix (packets ++ [packet]) ↔ InStep suffix packets ∧
      ∀ call, packet = .encrypted call →
        call.nonce = WorldCrypt.makeNonce (BitVec.ofNat 64 packets.length) suffix := by
  constructor
  · intro h
    refine ⟨fun i call hcall => h i call ?_, fun call hcall => h packets.length call ?_⟩
    · rw [List.getElem?_append_left (List.getElem?_eq_some_iff.mp hcall).1]
      exact hcall
    · simp [hcall]
  · rintro ⟨h, hlast⟩ i call hcall
    by_cases hi : i < packets.length
    · rw [List.getElem?_append_left hi] at hcall
      exact h i call hcall
    · rw [List.getElem?_append_right (Nat.le_of_not_lt hi)] at hcall
      obtain ⟨hlt, heq⟩ := List.getElem?_eq_some_iff.mp hcall
      rw [List.length_singleton] at hlt
      have hi' : i = packets.length := by omega
      subst hi'
      exact hlast call (by simpa using heq)

theorem inStep_of_plain (h : ∀ packet ∈ packets, ∃ data, packet = .plain data) :
    InStep suffix packets := by
  intro i call hcall
  obtain ⟨data, hdata⟩ := h _ (List.mem_of_getElem? hcall)
  cases hdata

theorem nodup_noncesOf (h : InStep suffix packets) (hfewer : packets.length < 2 ^ 64) :
    (noncesOf packets).Nodup := by
  rw [noncesOf, List.Nodup, List.pairwise_filterMap, List.pairwise_iff_getElem]
  intro i j hi hj hij a ha b hb
  cases hpi : packets[i] with
  | plain data => simp [hpi] at ha
  | encrypted call =>
    cases hpj : packets[j] with
    | plain data => simp [hpj] at hb
    | encrypted call' =>
      rw [hpi] at ha
      rw [hpj] at hb
      cases ha
      cases hb
      intro heq
      have hnonce := (Prod.mk.inj heq).2
      rw [h i call (by rw [List.getElem?_eq_getElem hi, hpi]),
        h j call' (by rw [List.getElem?_eq_getElem hj, hpj])] at hnonce
      have := ofNat_inj_of_lt (by omega) (by omega) (makeNonce_inj hnonce).1
      omega

theorem mem_noncesOf {nonce : AesKey × List Byte} :
    nonce ∈ noncesOf packets ↔
      ∃ (i : ℕ) (call : CipherCall), packets[i]? = some (.encrypted call) ∧
        (call.key, call.nonce) = nonce := by
  rw [noncesOf, List.mem_filterMap]
  constructor
  · rintro ⟨packet, hpacket, hnonce⟩
    obtain ⟨i, hi⟩ := List.mem_iff_getElem?.mp hpacket
    cases packet with
    | plain data => cases hnonce
    | encrypted call => exact ⟨i, call, hi, Option.some.inj hnonce⟩
  · rintro ⟨i, call, hi, rfl⟩
    exact ⟨_, List.mem_of_getElem? hi, rfl⟩

theorem Wire.InStep.nodup {w : Wire} (h : w.InStep) (hserver : w.server.length < 2 ^ 64)
    (hclient : w.client.length < 2 ^ 64) : w.nonces.Nodup := by
  refine List.nodup_append.mpr ⟨nodup_noncesOf h.1 hserver, nodup_noncesOf h.2 hclient, ?_⟩
  intro a ha b hb heq
  obtain ⟨i, call, hi, rfl⟩ := mem_noncesOf.mp ha
  obtain ⟨j, call', hj, rfl⟩ := mem_noncesOf.mp hb
  have hnonce := (Prod.mk.inj heq).2
  rw [h.1 i call hi, h.2 j call' hj] at hnonce
  exact absurd (makeNonce_inj hnonce).2 (by decide)

/-! ## The plain part of a connection -/

/-- Nothing is encrypted yet, and the socket counts the packets. -/
structure PlainSoFar (c : WorldSocket × Wire) : Prop where
  sent : c.1.unencryptedPacketsSent = BitVec.ofNat 64 c.2.server.length
  received : c.1.unencryptedPacketsReceived = BitVec.ofNat 64 c.2.client.length
  server : ∀ packet ∈ c.2.server, ∃ data, packet = .plain data
  client : ∀ packet ∈ c.2.client, ∃ data, packet = .plain data

theorem PlainSoFar.inStep (h : PlainSoFar c) : c.2.InStep :=
  ⟨inStep_of_plain h.server, inStep_of_plain h.client⟩

section PlainSoFar

variable {c : WorldSocket × Wire} (h : PlainSoFar c)

include h

theorem PlainSoFar.sendUnencryptedPacket (data : List Byte) :
    PlainSoFar (socketStep c (.sendUnencryptedPacket data)) := by
  refine ⟨?_, h.received, fun packet hpacket => ?_, h.client⟩
  · simp [socketStep, WorldSocket.sendUnencryptedPacket, Wire.sent, h.sent, BitVec.ofNat_add]
  · rcases List.mem_append.mp hpacket with hpacket | hpacket
    · exact h.server packet hpacket
    · exact ⟨data, List.mem_singleton.mp hpacket⟩

theorem PlainSoFar.readUnencryptedPacket (data : List Byte) :
    PlainSoFar (socketStep c (.readUnencryptedPacket data)) := by
  refine ⟨h.sent, ?_, h.server, fun packet hpacket => ?_⟩
  · simp [socketStep, WorldSocket.readUnencryptedPacket, Wire.received, h.received,
      BitVec.ofNat_add]
  · rcases List.mem_append.mp hpacket with hpacket | hpacket
    · exact h.client packet hpacket
    · exact ⟨data, List.mem_singleton.mp hpacket⟩

/-- Before the handshake every packet is plain, whichever operation sends it. -/
theorem PlainSoFar.step_of_none (hcrypt : c.1.crypt = none) (action : SocketAction) :
    PlainSoFar (socketStep c action) ∧ (socketStep c action).1.crypt = none := by
  cases action with
  | sendUnencryptedPacket data => exact ⟨h.sendUnencryptedPacket data, hcrypt⟩
  | readUnencryptedPacket data => exact ⟨h.readUnencryptedPacket data, hcrypt⟩
  | sendPacket data =>
    have hplain := h.sendUnencryptedPacket data
    rw [socketStep, WorldSocket.sendPacket, hcrypt]
    exact ⟨hplain, hcrypt⟩
  | readEncryptedPacket data =>
    rw [socketStep, WorldSocket.readEncryptedPacket, hcrypt]
    exact ⟨h, hcrypt⟩

end PlainSoFar

theorem plainSoFar_before (before : List SocketAction) :
    PlainSoFar (run socketStep (.new, ⟨[], []⟩) before) := by
  have hrun := run_invariant_of_all (fun c : WorldSocket × Wire => PlainSoFar c ∧ c.1.crypt = none)
    (fun _ action hc => hc.1.step_of_none hc.2 action) (s := (.new, ⟨[], []⟩))
    ⟨⟨rfl, rfl, nofun, nofun⟩, rfl⟩ before
  exact hrun.1

/-- After the handshake the crypt of the socket is new, and packets were exchanged. -/
structure Ready (key : AesKey) (c : WorldSocket × Wire) : Prop extends PlainSoFar c where
  crypt : c.1.crypt = some (WorldCrypt.new key)
  encryptKey : c.1.encryptKey = some key
  someServer : 0 < c.2.server.length
  someClient : 0 < c.2.client.length

theorem Ready.of_handshake (hc : PlainSoFar c) (h : Handshake) : Ready h.key (handshake h c) := by
  have hplain := ((hc.readUnencryptedPacket h.authSession).sendUnencryptedPacket
    h.enterEncryptedMode).readUnencryptedPacket h.enterEncryptedModeAck
  rw [handshake]
  cases h.connectionType with
  | realmConnection =>
    exact ⟨⟨hplain.sent, hplain.received, hplain.server, hplain.client⟩, rfl, rfl,
      by simp [authenticate, socketStep, Wire.sent, Wire.received],
      by simp [authenticate, socketStep, Wire.sent, Wire.received]⟩
  | instanceConnection =>
    exact ⟨⟨hplain.sent, hplain.received, hplain.server, hplain.client⟩, rfl, rfl,
      by simp [authenticateInstance, socketStep, Wire.sent, Wire.received],
      by simp [authenticateInstance, socketStep, Wire.sent, Wire.received]⟩

theorem Ready.step (h : Ready key c) {action : SocketAction} (hplain : action.isPlain = true) :
    Ready key (socketStep c action) := by
  cases action with
  | sendUnencryptedPacket data =>
    exact ⟨h.sendUnencryptedPacket data, h.crypt, h.encryptKey,
      by simp [socketStep, Wire.sent], h.someClient⟩
  | readUnencryptedPacket data =>
    exact ⟨h.readUnencryptedPacket data, h.crypt, h.encryptKey, h.someServer,
      by simp [socketStep, Wire.received]⟩
  | sendPacket data | readEncryptedPacket data => cases hplain

/-! ## The halves -/

/-- The counters of the halves are the numbers of packets. -/
structure Halved (c : SocketHalves × Wire) : Prop where
  writer : c.1.writer.serverCounter = BitVec.ofNat 64 c.2.server.length
  reader : c.1.reader.clientCounter = BitVec.ofNat 64 c.2.client.length
  inStep : c.2.InStep

theorem Halved.of_split (h : PlainSoFar c) {halves : SocketHalves}
    (hsplit : c.1.splitForIo = some halves) : Halved (halves, c.2) := by
  obtain ⟨key, -, rfl⟩ := Option.map_eq_some_iff.mp hsplit
  exact ⟨h.sent, h.received, h.inStep⟩

theorem Halved.step {c : SocketHalves × Wire} (h : Halved c) (action : HalfAction) :
    Halved (halfStep c action) := by
  cases action with
  | writeEncrypted data =>
    refine ⟨?_, h.reader, inStep_append.mpr ⟨h.inStep.1, fun call hcall => ?_⟩, h.inStep.2⟩
    · simp [halfStep, SocketHalves.writeEncrypted, WorldCrypt.encrypt, Wire.sent, h.writer,
        BitVec.ofNat_add]
    · cases hcall
      exact congrArg (WorldCrypt.makeNonce · serverSuffix) h.writer
  | read data =>
    refine ⟨h.writer, ?_, h.inStep.1, inStep_append.mpr ⟨h.inStep.2, fun call hcall => ?_⟩⟩
    · simp [halfStep, SocketHalves.read, WorldCrypt.decrypt, Wire.received, h.reader,
        BitVec.ofNat_add]
    · cases hcall
      exact congrArg (WorldCrypt.makeNonce · clientSuffix) h.reader

/-! ## Packets that the socket encrypts itself -/

/-- A packet that is not the first but was encrypted with counter 0. -/
def Restarted (suffix : BitVec 32) (packets : List WirePacket) : Prop :=
  ∃ (i : ℕ) (call : CipherCall), 0 < i ∧ packets[i]? = some (.encrypted call) ∧
    call.nonce = WorldCrypt.makeNonce 0 suffix

theorem Restarted.not_inStep (h : Restarted suffix packets) (hfewer : packets.length < 2 ^ 64) :
    ¬InStep suffix packets := by
  obtain ⟨i, call, hi, hcall, hnonce⟩ := h
  intro hstep
  rw [hstep i call hcall] at hnonce
  have hlt := (List.getElem?_eq_some_iff.mp hcall).1
  have hzero := ofNat_inj_of_lt (j := 0) (by omega) (by omega) (makeNonce_inj hnonce).1
  omega

theorem Restarted.of_prefix {packets' : List WirePacket} (h : Restarted suffix packets)
    (hinit : packets <+: packets') : Restarted suffix packets' := by
  obtain ⟨i, call, hi, hcall, hnonce⟩ := h
  obtain ⟨rest, rfl⟩ := hinit
  refine ⟨i, call, hi, ?_, hnonce⟩
  rw [List.getElem?_append_left (List.getElem?_eq_some_iff.mp hcall).1]
  exact hcall

/-- One direction of the connection went back to counter 0. -/
def Wire.Restarted (w : Wire) : Prop :=
  Network.Restarted serverSuffix w.server ∨ Network.Restarted clientSuffix w.client

/-- What went over the wire stays. -/
structure Wire.Grows (w w' : Wire) : Prop where
  server : w.server <+: w'.server
  client : w.client <+: w'.client

theorem Wire.Grows.refl (w : Wire) : w.Grows w := ⟨List.prefix_rfl, List.prefix_rfl⟩

theorem Wire.grows_sent (w : Wire) (packet : WirePacket) : w.Grows (w.sent packet) :=
  ⟨List.prefix_append _ _, List.prefix_rfl⟩

theorem Wire.grows_received (w : Wire) (packet : WirePacket) : w.Grows (w.received packet) :=
  ⟨List.prefix_rfl, List.prefix_append _ _⟩

theorem Wire.Restarted.of_grows {w w' : Wire} (h : w.Restarted) (hgrows : w.Grows w') :
    w'.Restarted :=
  h.imp (fun hs => hs.of_prefix hgrows.server) (fun hc => hc.of_prefix hgrows.client)

theorem grows_socketStep (c : WorldSocket × Wire) (action : SocketAction) :
    c.2.Grows (socketStep c action).2 := by
  cases action with
  | sendUnencryptedPacket data | sendPacket data => exact c.2.grows_sent _
  | readUnencryptedPacket data => exact c.2.grows_received _
  | readEncryptedPacket data =>
    rw [socketStep]
    cases c.1.readEncryptedPacket data with
    | none => exact Wire.Grows.refl _
    | some r => exact c.2.grows_received _

theorem grows_halfStep (c : SocketHalves × Wire) (action : HalfAction) :
    c.2.Grows (halfStep c action).2 := by
  cases action with
  | writeEncrypted data => exact c.2.grows_sent _
  | read data => exact c.2.grows_received _

/-- The crypt that the handshake makes starts at 0, whatever went over the wire before. -/
theorem Ready.restarted (h : Ready key c) {action : SocketAction}
    (hplain : action.isPlain = false) : (socketStep c action).2.Restarted := by
  cases action with
  | sendUnencryptedPacket data | readUnencryptedPacket data => cases hplain
  | sendPacket data =>
    refine .inl ⟨c.2.server.length, ⟨key, WorldCrypt.makeNonce 0 serverSuffix, data⟩,
      h.someServer, ?_, rfl⟩
    simp [socketStep, WorldSocket.sendPacket, h.crypt, Wire.sent, WorldCrypt.encrypt,
      WorldCrypt.new]
  | readEncryptedPacket data =>
    refine .inr ⟨c.2.client.length, ⟨key, WorldCrypt.makeNonce 0 clientSuffix, data⟩,
      h.someClient, ?_, rfl⟩
    simp [socketStep, WorldSocket.readEncryptedPacket, h.crypt, Wire.received,
      WorldCrypt.decrypt, WorldCrypt.new]

theorem Ready.run_plain (h : Ready key c) {between : List SocketAction}
    (hplain : ∀ action ∈ between, action.isPlain = true) :
    Ready key (run socketStep c between) := by
  have hgood : EachStep socketStep (fun _ action => action.isPlain = true) c between :=
    EachStep.of_forall (fun action ha _ => hplain action ha) c
  exact run_invariant (Ready key) (fun _ _ hc haction => hc.step haction) h hgood

/-- One packet through the crypt of the socket is enough. -/
theorem Ready.run_restarted (h : Ready key c) {between : List SocketAction}
    (hplain : ¬∀ action ∈ between, action.isPlain = true) :
    (run socketStep c between).2.Restarted := by
  induction between generalizing c with
  | nil => exact absurd (fun _ haction => nomatch haction) hplain
  | cons action between ih =>
    cases haction : action.isPlain with
    | true =>
      refine ih (h.step haction) fun hrest => hplain fun action' haction' => ?_
      rcases List.mem_cons.mp haction' with rfl | haction'
      · exact haction
      · exact hrest action' haction'
    | false =>
      exact run_invariant_of_all (fun c : WorldSocket × Wire => c.2.Restarted)
        (fun c action hc => hc.of_grows (grows_socketStep c action)) (h.restarted haction) between

/-- The nonces of a connection are in step with its packets, and none is used twice, exactly
when no packet is sent or read with encryption before the socket is split. -/
theorem connection_inStep_iff (before : List SocketAction) (h : Handshake)
    (between : List SocketAction) (after : Option (List HalfAction))
    (hserver : (connection before h between after).server.length < 2 ^ 64)
    (hclient : (connection before h between after).client.length < 2 ^ 64) :
    ((connection before h between after).InStep ∧ (connection before h between after).nonces.Nodup) ↔
      ∀ action ∈ between, action.isPlain = true := by
  have hready := Ready.of_handshake (plainSoFar_before before) h
  constructor
  · rintro ⟨hstep, -⟩
    by_contra hplain
    have hrestarted : (connection before h between after).Restarted := by
      have hbetween := hready.run_restarted hplain
      unfold connection
      dsimp only
      split
      case h_1 actions halves _ =>
        exact run_invariant_of_all (fun c : SocketHalves × Wire => c.2.Restarted)
          (fun c action hc => hc.of_grows (grows_halfStep c action)) hbetween actions
      case h_2 => exact hbetween
    rcases hrestarted with hrestarted | hrestarted
    · exact hrestarted.not_inStep hserver hstep.1
    · exact hrestarted.not_inStep hclient hstep.2
  · intro hplain
    have hbetween := hready.run_plain hplain
    have hstep : (connection before h between after).InStep := by
      unfold connection
      dsimp only
      split
      case h_1 actions halves hsplit =>
        have hhalved := run_invariant_of_all Halved (fun _ action hc => hc.step action)
          (Halved.of_split hbetween.toPlainSoFar hsplit) actions
        exact hhalved.inStep
      case h_2 => exact hbetween.inStep
    exact ⟨hstep, hstep.nodup hserver hclient⟩

/-- The handshake of a realm connection with a key of zeros. -/
def sampleHandshake : Handshake :=
  ⟨.realmConnection, Vector.replicate 16 0, [1], [2], [3]⟩

theorem connection_inStep_iff_sample :
    (connection [] sampleHandshake [] (some [.writeEncrypted [4], .read [5]])).InStep :=
  ((connection_inStep_iff [] sampleHandshake [] (some [.writeEncrypted [4], .read [5]])
    (by decide) (by decide)).mpr (by decide)).1

/-- Two packets that the socket sends itself and one of its writer: the first does not carry
the number of packets before it, and the second has the nonce of the third. -/
theorem nonce_used_twice :
    ¬((connection [] sampleHandshake [.sendPacket [4], .sendPacket [5]]
        (some [.writeEncrypted [6]])).InStep) ∧
      ¬(connection [] sampleHandshake [.sendPacket [4], .sendPacket [5]]
        (some [.writeEncrypted [6]])).nonces.Nodup := by
  constructor
  · rintro ⟨hserver, -⟩
    have hnonce := hserver 1 ⟨sampleHandshake.key, WorldCrypt.makeNonce 0 serverSuffix, [4]⟩ rfl
    exact absurd hnonce (by decide)
  · decide

end RustyCore.Network
