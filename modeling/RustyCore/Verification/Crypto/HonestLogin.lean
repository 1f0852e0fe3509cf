import RustyCore.Library.Sha256
import RustyCore.Verification.Crypto.ClientEvidence

/-! # Honest logins

A client that knows the password arrives at the secret of the server, and both accept the
evidence of the other. -/

namespace RustyCore.Crypto

open BigUint

/-! ## The private key -/

/-- The 64 bytes as a signed number, the highest byte first. -/
def signedBe (bytes : Vector Byte 64) : ℤ :=
  if bytes.head &&& 0x80 = 0 then fromBytesBe bytes.toList
  else fromBytesBe bytes.toList - (1 <<< 512 : ℕ)

theorem fromBytesBe_vector_lt (bytes : Vector Byte 64) :
    fromBytesBe bytes.toList < 1 <<< 512 := by
  have hlt := fromBytesBe_lt bytes.toList
  rw [Vector.length_toList] at hlt
  exact hlt.trans_eq (by decide +kernel)

theorem toNat_neg_emod (a : ℕ) {m : ℕ} (hm : 0 < m) :
    ((-(a : ℤ)) % m).toNat = if a % m = 0 then 0 else m - a % m := by
  have hlt := Nat.mod_lt a hm
  have hrem : (-(a : ℤ)) % m = if (m : ℤ) ∣ a then 0 else (m : ℤ) - (a % m : ℕ) := by
    rw [Int.neg_emod, Int.natAbs_natCast, Int.natCast_mod]
  have hdvd : (m : ℤ) ∣ a ↔ a % m = 0 := by
    rw [Int.natCast_dvd_natCast, Nat.dvd_iff_mod_eq_zero]
  by_cases hzero : a % m = 0
  · rw [hrem, if_pos (hdvd.mpr hzero), if_pos hzero]
    rfl
  · rw [hrem, if_neg (fun h => hzero (hdvd.mp h)), if_neg hzero, ← Nat.cast_sub hlt.le,
      Int.toNat_natCast]

variable (hashes : Hashes) (version : SrpVersion) (hashFn : SrpHashFunction)

/-- The private key of these credentials. -/
def privateKey (username password : String) (salt : List Byte) : ℕ :=
  match version with
  | .v1 => fromBytesLe (hashes.sha256 (salt ++
      (hashes.sha256 (Packet.utf8Bytes (username ++ ":" ++ password))).toList)).toList
  | .v2 => (signedBe (hashes.pbkdf2HmacSha512 (Packet.utf8Bytes (username ++ ":" ++ password)) salt
      pbkdf2Iterations) % (parseModulus .v2 - 1 : ℕ)).toNat

/-- The reduction of the signed key never goes below zero on the way. -/
theorem computeX_eq (username password : String) (salt : List Byte) :
    computeX hashes version username password salt =
      .ok (privateKey hashes version username password salt) := by
  cases version with
  | v1 => rfl
  | v2 =>
    have hn := parseModulus_pos .v2
    have hpred : 0 < parseModulus .v2 - 1 := by omega
    have hlt := fromBytesBe_vector_lt (hashes.pbkdf2HmacSha512
      (Packet.utf8Bytes (username ++ ":" ++ password)) salt pbkdf2Iterations)
    unfold computeX privateKey signedBe
    simp only [checkedSub_of_le hn.le]
    generalize hashes.pbkdf2HmacSha512 _ salt pbkdf2Iterations = bytes at hlt
    generalize parseModulus .v2 - 1 = m at hpred
    have hhead : bytes.head = bytes[0] := rfl
    rw [hhead]
    by_cases hsign : bytes[0] &&& 0x80 ≠ 0
    · rw [if_neg hsign]
      refine (if_pos hsign).trans ?_
      simp only [checkedSub_of_le hlt.le, checkedMod_of_pos hpred]
      have hneg : (fromBytesBe bytes.toList : ℤ) - (1 <<< 512 : ℕ) =
          -((1 <<< 512 - fromBytesBe bytes.toList : ℕ) : ℤ) := by
        rw [Nat.cast_sub hlt.le]
        ring
      rw [hneg, toNat_neg_emod _ hpred]
      have hrem := Nat.mod_lt (1 <<< 512 - fromBytesBe bytes.toList) hpred
      change (if _ = 0 then _ else checkedSub m _) = _
      split_ifs with hzero
      · rfl
      · exact checkedSub_of_le hrem.le
    · rw [if_pos (not_not.mp hsign)]
      refine (if_neg hsign).trans ?_
      rw [checkedMod_of_pos hpred, ← Int.natCast_mod, Int.toNat_natCast]

/-! ## Registration and credentials -/

theorem computeBnetVerifier_ok (username password : String) (salt : List Byte) :
    ∃ verifier, computeBnetVerifier hashes version username password salt = .ok verifier ∧
      fromBytesLe verifier =
        modpow bnetG (privateKey hashes version username password salt) (parseModulus version) := by
  have hpos := (parseModulus_pos version).le
  unfold computeBnetVerifier
  simp only [computeX_eq, checkedModpow_of_pos hpos]
  exact ⟨_, rfl, fromBytesLe_toBytesLe _⟩

theorem checkCredentials_eq {srp : BnetSrp6} (hn : 0 < srp.n) (username password : String) :
    srp.checkCredentials hashes username password =
      .ok (modpow srp.g (privateKey hashes srp.version username password srp.salt) srp.n ==
        srp.v) := by
  unfold BnetSrp6.checkCredentials
  simp only [computeX_eq, checkedModpow_of_pos hn]
  rfl

/-! ## The exchange -/

theorem clientPublic_mod_ne_zero (a : ℕ) :
    Srp.clientPublic (parseModulus version) bnetG a % parseModulus version ≠ 0 := by
  intro hzero
  rw [Srp.clientPublic, modpow_eq, Nat.mod_mod] at hzero
  have hcoprime := Nat.Coprime.pow_left a (bnetG_coprime version)
  have hone := Nat.Coprime.eq_one_of_dvd hcoprime.symm (Nat.dvd_of_mod_eq_zero hzero)
  have hn := parseModulus_pos version
  omega

/-- What an honest client sends as its number and its evidence is answered with the proof
that it expects. -/
theorem verifyClientEvidence_honest {srp : BnetSrp6} (hsrp : Prepared version hashFn srp) {x a u : ℕ}
    (hg : srp.g = bnetG) (hv : srp.v = modpow srp.g x srp.n)
    (hB : srp.bigB = Srp.serverPublic srp.n srp.g srp.k srp.v srp.b)
    (hu : computeU hashes version hashFn (Srp.clientPublic srp.n srp.g a) srp.bigB = .ok u)
    (hne : u % srp.n ≠ 0) {clientA clientM1 : List Byte}
    (hclientA : fromBytesBe clientA = Srp.clientPublic srp.n srp.g a)
    (hclientM1 : fromBytesBe clientM1 = computeEvidence hashes hashFn
      [Srp.clientPublic srp.n srp.g a, srp.bigB,
        Srp.clientSecret srp.n srp.g srp.k x a u srp.bigB]) :
    srp.verifyClientEvidence hashes clientA clientM1 = .ok (some
      { serverEvidence := computeEvidence hashes hashFn
          [Srp.clientPublic srp.n srp.g a, fromBytesBe clientM1,
            Srp.clientSecret srp.n srp.g srp.k x a u srp.bigB]
        sessionKey := Srp.clientSecret srp.n srp.g srp.k x a u srp.bigB }) := by
  have hA : fromBytesBe clientA % srp.n ≠ 0 := by
    rw [hclientA, hg, hsrp.n_eq]
    exact clientPublic_mod_ne_zero version a
  have hsecret : Srp.clientSecret srp.n srp.g srp.k x a u srp.bigB =
      Srp.serverSecret srp.n (Srp.clientPublic srp.n srp.g a) srp.v u srp.b := by
    rw [hB, hv]
    exact Srp.secrets_agree hsrp.pos x a srp.b u
  have hu' := (hsrp.computeU hashes (fromBytesBe clientA)).trans (hclientA ▸ hu)
  rw [BnetSrp6.verifyClientEvidence_of_ok hashes hsrp.pos hA hu', BnetSrp6.answer, if_neg hne,
    hsrp.hashFn_eq, hclientA, ← hsecret]
  simp only [← hclientM1, ne_eq, not_true_eq_false, if_false]

/-! ## The game client -/

namespace Srp6

theorem primeN_pos : 0 < primeN := by decide +kernel

/-- The generator to the power of `n - 1` is one, so exponents may be reduced by it. -/
theorem generator_order : modpow generatorG (primeN - 1) primeN = 1 % primeN := by decide +kernel

/-- The secret of the client as the handshake is played through: a base that does not go below
zero, and an exponent reduced modulo `n - 1`. -/
def handshakeClientS (x a u bigB : ℕ) : ℕ :=
  let kgx := multiplierK * modpow generatorG x primeN % primeN
  let clientBase :=
    if kgx ≤ bigB then (bigB - kgx) % primeN else (bigB + primeN - kgx) % primeN
  modpow clientBase ((a + u * x) % (primeN - 1)) primeN

theorem serverEphemeral_eq (v b : ℕ) :
    serverEphemeral v b = Srp.serverPublic primeN generatorG multiplierK v b := by
  rw [serverEphemeral, Srp.serverPublic, Nat.add_comm]

theorem clientSecret_eq (sha1 : List Byte → Vector Byte 20) (username password : String)
    (salt : List Byte) (a b u : ℕ) :
    Srp.clientSecret primeN generatorG multiplierK (computeX sha1 username password salt) a u
        (serverEphemeral (computeVerifier sha1 username password salt) b) =
      computeServerS (Srp.clientPublic primeN generatorG a)
        (computeVerifier sha1 username password salt) u b := by
  rw [serverEphemeral_eq]
  exact Srp.secrets_agree primeN_pos _ a b u

theorem handshakeClientS_eq (x a b u : ℕ) :
    handshakeClientS x a u (serverEphemeral (modpow generatorG x primeN) b) =
      Srp.clientSecret primeN generatorG multiplierK x a u
        (serverEphemeral (modpow generatorG x primeN) b) := by
  have hbase : ∀ bigB, (if multiplierK * modpow generatorG x primeN % primeN ≤ bigB then
        (bigB - multiplierK * modpow generatorG x primeN % primeN) % primeN
      else (bigB + primeN - multiplierK * modpow generatorG x primeN % primeN) % primeN) =
      Srp.clientBase primeN generatorG multiplierK x bigB := by
    intro bigB
    have hlt := Nat.mod_lt (multiplierK * modpow generatorG x primeN) primeN_pos
    rw [Srp.clientBase]
    generalize multiplierK * modpow generatorG x primeN % primeN = kgx at hlt
    split_ifs with hle
    · have hwrap : bigB + (primeN - kgx) = bigB - kgx + primeN := by omega
      rw [hwrap, Nat.add_mod_right]
    · rw [Nat.add_sub_assoc hlt.le]
  rw [handshakeClientS, hbase, Srp.clientSecret]
  refine Srp.modpow_mod_order generator_order (b := b) ?_ _
  rw [serverEphemeral_eq]
  exact Srp.cast_clientBase_serverPublic primeN_pos x b

end Srp6

/-! ## Both logins -/

/-- An honest login succeeds with equal keys, on the Battle.net server for both versions and
both hash functions, and in the handshake of the game client. -/
theorem honest_login_succeeds (hashes : Hashes) (sha1 : List Byte → Vector Byte 20)
    (username password : String) (salt : List Byte) :
    (∀ (version : SrpVersion) (hashFn : SrpHashFunction) (random : List Byte) (a : ℕ),
      ∃ verifier srp x u,
        computeBnetVerifier hashes version username password salt = .ok verifier ∧
        BnetSrp6.new hashes version hashFn salt verifier random = .ok srp ∧
        computeX hashes version username password salt = .ok x ∧
        computeU hashes version hashFn (Srp.clientPublic srp.n srp.g a) srp.bigB = .ok u ∧
        srp.checkCredentials hashes username password = .ok true ∧
        (u % srp.n ≠ 0 → ∀ clientA clientM1,
          fromBytesBe clientA = Srp.clientPublic srp.n srp.g a →
          fromBytesBe clientM1 = computeEvidence hashes hashFn
            [Srp.clientPublic srp.n srp.g a, srp.bigB,
              Srp.clientSecret srp.n srp.g srp.k x a u srp.bigB] →
          srp.verifyClientEvidence hashes clientA clientM1 = .ok (some
            { serverEvidence := computeEvidence hashes hashFn
                [Srp.clientPublic srp.n srp.g a, fromBytesBe clientM1,
                  Srp.clientSecret srp.n srp.g srp.k x a u srp.bigB]
              sessionKey := Srp.clientSecret srp.n srp.g srp.k x a u srp.bigB }))) ∧
    ∀ a b u : ℕ,
      let x := Srp6.computeX sha1 username password salt
      let v := Srp6.computeVerifier sha1 username password salt
      let bigA := Srp.clientPublic primeN generatorG a
      let bigB := Srp6.serverEphemeral v b
      let clientS := Srp.clientSecret primeN generatorG multiplierK x a u bigB
      let serverS := Srp6.computeServerS bigA v u b
      let clientK := Srp6.computeSessionKey sha1 clientS
      let serverK := Srp6.computeSessionKey sha1 serverS
      let clientM1 := Srp6.computeClientEvidence sha1 username salt bigA bigB clientK
      let serverM1 := Srp6.computeClientEvidence sha1 username salt bigA bigB serverK
      Srp6.handshakeClientS x a u bigB = clientS ∧ clientS = serverS ∧ clientK = serverK ∧
        clientM1 = serverM1 ∧ Srp6.computeServerEvidence sha1 bigA clientM1 clientK =
          Srp6.computeServerEvidence sha1 bigA serverM1 serverK := by
  refine ⟨fun version hashFn random a => ?_, fun a b u => ?_⟩
  · obtain ⟨verifier, hverifier, hv⟩ := computeBnetVerifier_ok hashes version username password salt
    obtain ⟨k, hnew⟩ := new_ok hashes version hashFn salt verifier random
    have hsrp := Prepared.of_new hashes version hashFn hnew
    have hA : Srp.clientPublic (parseModulus version) bnetG a < 256 ^ srpFixedOperandLen version :=
      (modpow_lt bnetG a (parseModulus_pos version).le).trans (parseModulus_lt version)
    obtain ⟨u, hu⟩ := computeU_of_lt hashes version hashFn hA hsrp.bigB_lt
    refine ⟨verifier, _, _, u, hverifier, hnew, computeX_eq hashes version username password salt,
      hu, ?_, ?_⟩
    · rw [checkCredentials_eq hashes hsrp.pos, hv, beq_self_eq_true]
    · intro hne clientA clientM1 hclientA hclientM1
      exact verifyClientEvidence_honest hashes version hashFn hsrp rfl hv rfl hu hne hclientA
        hclientM1
  · have hsecret := Srp6.clientSecret_eq sha1 username password salt a b u
    have hhandshake := Srp6.handshakeClientS_eq (Srp6.computeX sha1 username password salt) a b u
    exact ⟨hhandshake, hsecret, by rw [hsecret], by rw [hsecret], by rw [hsecret]⟩

/-- SHA-256 itself; the first version with it calls nothing else. -/
def sha256Only : Hashes where
  sha256 := Sha256.digest
  sha512 := fun _ => Vector.replicate 64 0
  pbkdf2HmacSha512 := fun _ _ _ => Vector.replicate 64 0

/-- The scrambler of one login with SHA-256, modulo `n`. -/
def sampleScrambler : Checked Empty ℕ := do
  let verifier ← computeBnetVerifier sha256Only .v1 "USER" "PASSWORD" [1]
  let srp ← BnetSrp6.new sha256Only .v1 .sha256 [1] verifier [5]
  let u ← computeU sha256Only .v1 .sha256 (Srp.clientPublic srp.n srp.g 3) srp.bigB
  checkedMod u srp.n

theorem sampleScrambler_eq {verifier : List Byte} {srp : BnetSrp6} {u value : ℕ}
    (hverifier : computeBnetVerifier sha256Only .v1 "USER" "PASSWORD" [1] = .ok verifier)
    (hnew : BnetSrp6.new sha256Only .v1 .sha256 [1] verifier [5] = .ok srp)
    (hu : computeU sha256Only .v1 .sha256 (Srp.clientPublic srp.n srp.g 3) srp.bigB = .ok u)
    (h : sampleScrambler = .ok value) : u % srp.n = value := by
  obtain ⟨verifier', hverifier', h⟩ := bind_eq_ok_iff.mp h
  obtain rfl := Except.ok.inj (hverifier.symm.trans hverifier')
  obtain ⟨srp', hnew', h⟩ := bind_eq_ok_iff.mp h
  obtain rfl := Except.ok.inj (hnew.symm.trans hnew')
  obtain ⟨u', hu', h⟩ := bind_eq_ok_iff.mp h
  obtain rfl := Except.ok.inj (hu.symm.trans hu')
  exact (checkedMod_eq_ok_iff.mp h).2

theorem honest_login_succeeds_sample :
    ∃ (srp : BnetSrp6) (x u : ℕ) (proof : BnetSrpProof),
      computeX sha256Only .v1 "USER" "PASSWORD" [1] = .ok x ∧
      srp.checkCredentials sha256Only "USER" "PASSWORD" = .ok true ∧
      srp.verifyClientEvidence sha256Only (toBytesBe (Srp.clientPublic srp.n srp.g 3))
        (toBytesBe (computeEvidence sha256Only .sha256
          [Srp.clientPublic srp.n srp.g 3, srp.bigB,
            Srp.clientSecret srp.n srp.g srp.k x 3 u srp.bigB])) = .ok (some proof) ∧
      proof.sessionKey = Srp.clientSecret srp.n srp.g srp.k x 3 u srp.bigB := by
  obtain ⟨verifier, srp, x, u, hverifier, hnew, hx, hu, hcredentials, hproof⟩ :=
    (honest_login_succeeds sha256Only (fun _ => Vector.replicate 20 0) "USER" "PASSWORD" [1]).1 .v1
      .sha256 [5] 3
  have hscrambler : ∃ value, sampleScrambler = .ok value ∧ value ≠ 0 := by
    have heval : sampleScrambler.toOption.any (fun value => value ≠ 0) = true := by decide +kernel
    cases hvalue : sampleScrambler with
    | error stop => simp [hvalue, Except.toOption] at heval
    | ok value => exact ⟨value, rfl, by simpa [hvalue, Except.toOption] using heval⟩
  obtain ⟨value, hvalue, hne⟩ := hscrambler
  have hu_ne : u % srp.n ≠ 0 := sampleScrambler_eq hverifier hnew hu hvalue ▸ hne
  exact ⟨srp, x, u, _, hx, hcredentials,
    hproof hu_ne _ _ (fromBytesBe_toBytesBe _) (fromBytesBe_toBytesBe _), rfl⟩

end RustyCore.Crypto
