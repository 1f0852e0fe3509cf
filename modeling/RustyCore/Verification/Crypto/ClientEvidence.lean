import RustyCore.Model.Crypto.Srp6

/-! # The evidence of a client

The number a client sends is tested modulo `n` but hashed as it is, in a fixed number of
bytes. A number that does not fit in them fails an assertion, unless it is rejected before. -/

namespace RustyCore.Crypto

open BigUint

variable (hashes : Hashes) (version : SrpVersion) (hashFn : SrpHashFunction)
variable {srp : BnetSrp6} {a : ℕ} {proof : BnetSrpProof}

/-! ## Parameters -/

theorem parseModulus_pos : 1 < parseModulus version := by
  cases version <;> decide +kernel

theorem parseModulus_lt : parseModulus version < 256 ^ srpFixedOperandLen version := by
  cases version <;> decide +kernel

theorem bnetG_coprime : Nat.Coprime bnetG (parseModulus version) := by
  cases version <;> decide +kernel

theorem srpFixedOperandLen_pos : 1 ≤ srpFixedOperandLen version := by
  cases version <;> decide

/-! ## Fixed-width operands -/

variable {value len : ℕ}

theorem biguintToFixedBe_of_lt (hlen : 1 ≤ len) (h : value < 256 ^ len) :
    biguintToFixedBe value len =
      .ok (List.replicate (len - (toBytesBe value).length) 0 ++ toBytesBe value) := by
  have hfits : (toBytesBe value).length ≤ len := by
    rw [length_toBytesBe]
    exact (byteLength_le_iff hlen).mpr h
  unfold biguintToFixedBe
  simp only [assertThat_of hfits]
  rfl

theorem biguintToFixedBe_of_ge (hlen : 1 ≤ len) (h : 256 ^ len ≤ value) :
    biguintToFixedBe value len = .error (.crash .assertion) := by
  have hlong : ¬ (toBytesBe value).length ≤ len := by
    rw [length_toBytesBe, byteLength_le_iff hlen]
    exact h.not_gt
  unfold biguintToFixedBe
  simp only [assertThat_of_not hlong]
  rfl

theorem computeU_of_lt {b : ℕ} (ha : a < 256 ^ srpFixedOperandLen version)
    (hb : b < 256 ^ srpFixedOperandLen version) :
    ∃ u, computeU hashes version hashFn a b = .ok u := by
  unfold computeU
  simp only [biguintToFixedBe_of_lt (srpFixedOperandLen_pos version) ha,
    biguintToFixedBe_of_lt (srpFixedOperandLen_pos version) hb]
  exact ⟨_, rfl⟩

theorem computeU_of_ge {b : ℕ} (ha : 256 ^ srpFixedOperandLen version ≤ a) :
    computeU hashes version hashFn a b = .error (.crash .assertion) := by
  unfold computeU
  simp only [biguintToFixedBe_of_ge (srpFixedOperandLen_pos version) ha]
  rfl

theorem computeK_ok :
    ∃ k, computeK hashes version hashFn (parseModulus version) bnetG = .ok k := by
  have hg : bnetG < 256 ^ srpFixedOperandLen version := by
    cases version <;> decide +kernel
  unfold computeK
  simp only [biguintToFixedBe_of_lt (srpFixedOperandLen_pos version) (parseModulus_lt version),
    biguintToFixedBe_of_lt (srpFixedOperandLen_pos version) hg]
  exact ⟨_, rfl⟩

/-! ## The server's state -/

/-- Setting up the server never crashes; all but `k` is known without the hash function. -/
theorem new_ok (salt verifier random : List Byte) :
    ∃ k, BnetSrp6.new hashes version hashFn salt verifier random = .ok
      { version, hashFn
        n := parseModulus version
        g := bnetG
        k
        v := fromBytesLe verifier
        salt
        b := fromBytesBe random % (parseModulus version - 1)
        bigB := Srp.serverPublic (parseModulus version) bnetG k (fromBytesLe verifier)
          (fromBytesBe random % (parseModulus version - 1)) } := by
  obtain ⟨k, hk⟩ := computeK_ok hashes version hashFn
  have hn := parseModulus_pos version
  have hpos : 0 < parseModulus version := by omega
  have hpred : 0 < parseModulus version - 1 := by omega
  have hb : generatePrivateB (parseModulus version) random =
      .ok (fromBytesBe random % (parseModulus version - 1)) := by
    unfold generatePrivateB
    rw [checkedSub_of_le hn.le]
    exact checkedMod_of_pos hpred
  refine ⟨k, ?_⟩
  unfold BnetSrp6.new computePublicB
  simp only [hk, hb, checkedMod_of_pos hpos, checkedModpow_of_pos hpos]
  rfl

/-- The parts of a server's state that verifying evidence rests on. -/
structure Prepared (version : SrpVersion) (hashFn : SrpHashFunction) (srp : BnetSrp6) : Prop where
  version_eq : srp.version = version
  hashFn_eq : srp.hashFn = hashFn
  n_eq : srp.n = parseModulus version
  bigB_lt : srp.bigB < 256 ^ srpFixedOperandLen version

theorem Prepared.of_new {salt verifier random : List Byte}
    (h : BnetSrp6.new hashes version hashFn salt verifier random = .ok srp) :
    Prepared version hashFn srp := by
  obtain ⟨k, hnew⟩ := new_ok hashes version hashFn salt verifier random
  obtain rfl := Except.ok.inj (hnew.symm.trans h)
  have hn := parseModulus_pos version
  exact ⟨rfl, rfl, rfl, (Nat.mod_lt _ (by omega)).trans (parseModulus_lt version)⟩

/-! ## Verifying evidence -/

namespace BnetSrp6

variable {srp : BnetSrp6} {clientA clientM1 : List Byte}

theorem verifyClientEvidence_of_zero (hn : 0 < srp.n) (ha : fromBytesBe clientA % srp.n = 0) :
    srp.verifyClientEvidence hashes clientA clientM1 = .ok none := by
  unfold verifyClientEvidence
  simp only [checkedMod_of_pos hn]
  exact if_pos ha

theorem verifyClientEvidence_of_crash (hn : 0 < srp.n) (ha : fromBytesBe clientA % srp.n ≠ 0)
    {crash : Crash} (hu : computeU hashes srp.version srp.hashFn (fromBytesBe clientA) srp.bigB =
      .error (.crash crash)) :
    srp.verifyClientEvidence hashes clientA clientM1 = .error (.crash crash) := by
  unfold verifyClientEvidence
  simp only [checkedMod_of_pos hn]
  refine (if_neg ha).trans ?_
  simp only [hu]
  rfl

/-- What the server answers once it has scrambled the two ephemerals. -/
def answer (srp : BnetSrp6) (a m1 u : ℕ) : Option BnetSrpProof :=
  if u % srp.n = 0 then none
  else
    let s := Srp.serverSecret srp.n a srp.v u srp.b
    if computeEvidence hashes srp.hashFn [a, srp.bigB, s] ≠ m1 then none
    else some
      { serverEvidence := computeEvidence hashes srp.hashFn [a, m1, s]
        sessionKey := s }

theorem verifyClientEvidence_of_ok (hn : 0 < srp.n) (ha : fromBytesBe clientA % srp.n ≠ 0) {u : ℕ}
    (hu : computeU hashes srp.version srp.hashFn (fromBytesBe clientA) srp.bigB = .ok u) :
    srp.verifyClientEvidence hashes clientA clientM1 =
      .ok (srp.answer hashes (fromBytesBe clientA) (fromBytesBe clientM1) u) := by
  unfold verifyClientEvidence
  simp only [checkedMod_of_pos hn, checkedModpow_of_pos hn]
  refine (if_neg ha).trans ?_
  simp only [hu, answer]
  by_cases hzero : u % srp.n = 0
  · rw [if_pos hzero]
    exact if_pos hzero
  · rw [if_neg hzero]
    refine (if_neg hzero).trans ?_
    by_cases hevidence : computeEvidence hashes srp.hashFn [fromBytesBe clientA, srp.bigB,
        Srp.serverSecret srp.n (fromBytesBe clientA) srp.v u srp.b] ≠ fromBytesBe clientM1
    · rw [if_pos hevidence]
      exact if_pos hevidence
    · rw [if_neg hevidence]
      exact if_neg hevidence

theorem answer_eq_some {m1 u : ℕ} (h : srp.answer hashes a m1 u = some proof) :
    m1 = computeEvidence hashes srp.hashFn [a, srp.bigB, (a * srp.v ^ u) ^ srp.b % srp.n] := by
  have hsecret : Srp.serverSecret srp.n a srp.v u srp.b =
      (a * srp.v ^ u) ^ srp.b % srp.n := by
    rw [Srp.serverSecret, modpow_eq, modpow_eq, Nat.mul_mod_mod, ← Nat.pow_mod]
  unfold answer at h
  simp only [hsecret] at h
  split_ifs at h with hzero hevidence
  exact (not_not.mp hevidence).symm

end BnetSrp6

variable {version hashFn}

theorem Prepared.pos (h : Prepared version hashFn srp) : 0 < srp.n := by
  have hn := parseModulus_pos version
  rw [h.n_eq]
  omega

theorem Prepared.computeU (h : Prepared version hashFn srp) (a : ℕ) :
    computeU hashes srp.version srp.hashFn a srp.bigB = computeU hashes version hashFn a srp.bigB := by
  rw [h.version_eq, h.hashFn_eq]

/-- Exactly the numbers that the server rejects or has room for do not crash it. -/
theorem Prepared.noCrash_iff (h : Prepared version hashFn srp) (clientA clientM1 : List Byte) :
    NoCrash (srp.verifyClientEvidence hashes clientA clientM1) ↔
      fromBytesBe clientA % parseModulus version = 0 ∨
        fromBytesBe clientA < 256 ^ srpFixedOperandLen version := by
  rw [← h.n_eq]
  by_cases ha : fromBytesBe clientA % srp.n = 0
  · rw [BnetSrp6.verifyClientEvidence_of_zero hashes h.pos ha]
    exact iff_of_true (noCrash_ok _) (.inl ha)
  by_cases hfits : fromBytesBe clientA < 256 ^ srpFixedOperandLen version
  · obtain ⟨u, hu⟩ := computeU_of_lt hashes version hashFn hfits h.bigB_lt
    rw [BnetSrp6.verifyClientEvidence_of_ok hashes h.pos ha ((h.computeU hashes _).trans hu)]
    exact iff_of_true (noCrash_ok _) (.inr hfits)
  · have hu : Crypto.computeU hashes version hashFn (fromBytesBe clientA) srp.bigB =
        .error (.crash .assertion) :=
      computeU_of_ge hashes version hashFn (not_lt.mp hfits)
    rw [BnetSrp6.verifyClientEvidence_of_crash hashes h.pos ha ((h.computeU hashes _).trans hu)]
    exact iff_of_false (not_noCrash _) fun hroom => hroom.elim ha hfits

theorem Prepared.proof_sound (h : Prepared version hashFn srp) {clientA clientM1 : List Byte}
    (hproof : srp.verifyClientEvidence hashes clientA clientM1 = .ok (some proof)) :
    fromBytesBe clientA % srp.n ≠ 0 ∧
      ∃ u, Crypto.computeU hashes version hashFn (fromBytesBe clientA) srp.bigB = .ok u ∧
        fromBytesBe clientM1 = computeEvidence hashes hashFn
          [fromBytesBe clientA, srp.bigB, (fromBytesBe clientA * srp.v ^ u) ^ srp.b % srp.n] := by
  have ha : fromBytesBe clientA % srp.n ≠ 0 := by
    intro hzero
    rw [BnetSrp6.verifyClientEvidence_of_zero hashes h.pos hzero] at hproof
    cases hproof
  have hok : NoCrash (srp.verifyClientEvidence hashes clientA clientM1) := hproof ▸ noCrash_ok _
  have hfits := ((h.noCrash_iff hashes clientA clientM1).mp hok).resolve_left (h.n_eq ▸ ha)
  obtain ⟨u, hu⟩ := computeU_of_lt hashes version hashFn hfits h.bigB_lt
  rw [BnetSrp6.verifyClientEvidence_of_ok hashes h.pos ha ((h.computeU hashes _).trans hu)] at hproof
  have hevidence := BnetSrp6.answer_eq_some hashes (Except.ok.inj hproof)
  rw [h.hashFn_eq] at hevidence
  exact ⟨ha, u, hu, hevidence⟩

/-- A message of a client is handled without a crash, and a proof is given for the right
evidence only, exactly when the number it sends is a multiple of `n` or fits in the operand. -/
theorem client_evidence_handled_iff (hashes : Hashes) (version : SrpVersion)
    (hashFn : SrpHashFunction) (salt verifier random clientA clientM1 : List Byte) :
    ∃ srp, BnetSrp6.new hashes version hashFn salt verifier random = .ok srp ∧
      ((NoCrash (srp.verifyClientEvidence hashes clientA clientM1) ∧
          ∀ proof, srp.verifyClientEvidence hashes clientA clientM1 = .ok (some proof) →
            fromBytesBe clientA % srp.n ≠ 0 ∧
              ∃ u, computeU hashes version hashFn (fromBytesBe clientA) srp.bigB = .ok u ∧
                fromBytesBe clientM1 = computeEvidence hashes hashFn
                  [fromBytesBe clientA, srp.bigB,
                    (fromBytesBe clientA * srp.v ^ u) ^ srp.b % srp.n]) ↔
        (fromBytesBe clientA % parseModulus version = 0 ∨
          fromBytesBe clientA < 256 ^ srpFixedOperandLen version)) := by
  obtain ⟨k, hnew⟩ := new_ok hashes version hashFn salt verifier random
  have hprepared := Prepared.of_new hashes version hashFn hnew
  refine ⟨_, hnew, ?_⟩
  rw [← hprepared.noCrash_iff hashes clientA clientM1]
  exact ⟨And.left, fun hok => ⟨hok, fun proof hproof => hprepared.proof_sound hashes hproof⟩⟩

/-- A number of 129 bytes crashes the server, whatever the hash functions are. -/
theorem client_evidence_crash :
    ¬ ∃ hashes srp, BnetSrp6.new hashes .v1 .sha256 [] [] [] = .ok srp ∧
      NoCrash (srp.verifyClientEvidence hashes (1 :: List.replicate 128 0) []) := by
  rintro ⟨hashes, srp, hsrp, hok⟩
  have hroom := ((Prepared.of_new hashes .v1 .sha256 hsrp).noCrash_iff hashes _ _).mp hok
  exact absurd hroom (by decide +kernel)

end RustyCore.Crypto
