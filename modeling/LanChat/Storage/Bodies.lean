import LanChat.Storage.Schema

/-!
# Bodies and their place in the log

The associated data of a stored body names its group, room, message and sequence.
The room id is the one field of variable length; the fields around it have fixed
lengths, so that no two places share their data. With an ideal cipher a body is
read under its own place only.
-/

namespace LanChat

/-! ## Big-endian numbers -/

theorem bigEndian_succ (n v : ℕ) : bigEndian (n + 1) v = bigEndian n (v / 256) ++ [UInt8.ofNat v] := by
  simp only [bigEndian, List.range_succ, List.map_append, List.map_cons, List.map_nil, Nat.add_sub_cancel,
    Nat.sub_self, Nat.pow_zero, Nat.div_one]
  congr 1
  refine List.map_congr_left fun i mem => ?_
  have below := List.mem_range.1 mem
  have exponent : n - i = (n - 1 - i) + 1 := by omega
  rw [exponent, Nat.pow_succ, Nat.mul_comm, ← Nat.div_div_eq_div_mul]

/-- The bytes are those of a number below `256 ^ n`. -/
theorem bigEndian_inj {n v w : ℕ} (same : bigEndian n v = bigEndian n w) : v % 256 ^ n = w % 256 ^ n := by
  induction n generalizing v w with
  | zero => simp [Nat.mod_one]
  | succ n ih =>
    rw [bigEndian_succ, bigEndian_succ] at same
    obtain ⟨high, low⟩ := List.append_inj' same rfl
    have last : v % 256 = w % 256 := by
      have bytes := congrArg UInt8.toNat (List.singleton_inj.1 low)
      rwa [UInt8.toNat_ofNat', UInt8.toNat_ofNat'] at bytes
    rw [Nat.pow_succ', Nat.mod_mul, Nat.mod_mul, last, ih high]

theorem bigEndian_inj_of_lt {n v w : ℕ} (small : v < 256 ^ n) (small' : w < 256 ^ n)
    (same : bigEndian n v = bigEndian n w) : v = w := by
  simpa [Nat.mod_eq_of_lt small, Nat.mod_eq_of_lt small'] using bigEndian_inj same

/-! ## The associated data -/

theorem Uuid.asBytes_inj {u v : Uuid} (same : u.asBytes = v.asBytes) : u = v := by
  have bits : u.bits = v.bits :=
    BitVec.eq_of_toNat_eq (bigEndian_inj_of_lt u.bits.isLt v.bits.isLt same)
  cases u
  cases v
  exact congrArg Uuid.mk bits

theorem Uuid.length_asBytes (u : Uuid) : u.asBytes.length = 16 := length_bigEndian _ _

theorem utf8Encode_inj {a b : String} (same : utf8Encode a = utf8Encode b) : a = b := by
  have decoded := congrArg utf8Decode same
  simpa using decoded

/-- **No two places share their associated data.** -/
theorem messageAad_inj {g g' : Uuid} {r r' : String} {m m' : Uuid} {s s' : UInt64}
    (same : messageAad g r m s.toNat = messageAad g' r' m' s'.toNat) :
    (g, r, m, s) = (g', r', m', s') := by
  -- the ends have fixed lengths, and what is left between them is the room id
  obtain ⟨front, sequence⟩ := List.append_inj' same (by simp)
  obtain ⟨start, message⟩ := List.append_inj' front (by simp [Uuid.length_asBytes])
  obtain ⟨group, room⟩ := List.append_inj start (by simp [Uuid.length_asBytes])
  have place : s = s' := UInt64.toNat_inj.1 (bigEndian_inj_of_lt s.toNat_lt s'.toNat_lt sequence)
  rw [Uuid.asBytes_inj group, utf8Encode_inj room, Uuid.asBytes_inj message, place]

/-! ## Bodies -/

/-- An ideal cipher: a ciphertext is never empty, and decrypts under the key, nonce and
associated data it was made with and under no others. -/
structure IdealAead (prims : Primitives) : Prop where
  decrypts : ∀ key nonce aad msg cipher, nonce.length = nonceLength →
    prims.encrypt key nonce aad msg = some cipher → prims.decrypt key nonce aad cipher = some msg
  rejects : ∀ key nonce aad msg cipher, prims.encrypt key nonce aad msg = some cipher →
    ∀ key' nonce' aad', (key', nonce', aad') ≠ (key, nonce, aad) →
      prims.decrypt key' nonce' aad' cipher = none
  nonempty : ∀ key nonce aad msg cipher, prims.encrypt key nonce aad msg = some cipher → cipher ≠ []

section
variable {prims : Primitives} {key : BitVec 256} {g : Uuid} {r : String} {m : Uuid} {s : ℕ}
  {plaintext encoded : List UInt8} {draw : Draw}

/-- What encryption stores passes the layout check and is taken apart where it was put together. -/
theorem decryptBody_of_encryptBody (aead : IdealAead prims)
    (h : encryptBody prims key g r m s plaintext draw = .ok encoded) :
    ∃ ciphertext, prims.encrypt key (bigEndian nonceLength draw.nonce.toNat) (messageAad g r m s) plaintext =
        some ciphertext ∧
      ∀ key' g' r' m' s', decryptBody prims key' g' r' m' s' encoded =
        match prims.decrypt key' (bigEndian nonceLength draw.nonce.toNat) (messageAad g' r' m' s') ciphertext with
        | none => .error (.bail "stored message authentication failed")
        | some plaintext => .ok plaintext := by
  simp only [encryptBody] at h
  split at h
  · cases h
  · next ciphertext encrypted =>
    cases h
    refine ⟨ciphertext, encrypted, fun key' g' r' m' s' => ?_⟩
    have nonce : (bigEndian nonceLength draw.nonce.toNat).length = nonceLength := length_bigEndian _ _
    have positive := List.length_pos_of_ne_nil (aead.nonempty _ _ _ _ _ encrypted)
    have accepted : ¬ ((decide (nonceLength + ciphertext.length + 1 ≤ 1 + nonceLength) ||
        some encryptedBodyVersion != some encryptedBodyVersion) = true) := by
      simp
      omega
    cases opened : prims.decrypt key' (bigEndian nonceLength draw.nonce.toNat) (messageAad g' r' m' s')
        ciphertext <;>
      simp only [decryptBody, List.length_cons, List.length_append, nonce, List.head?_cons,
        List.drop_succ_cons, List.drop_zero, List.take_left' nonce, List.drop_left' nonce,
        if_neg accepted, opened]

end

/-- **A stored body is bound to its place**: it is read under the group, room, message and
sequence it was written with, and fails under any others. -/
theorem body_bound {prims : Primitives} (aead : IdealAead prims) {key : BitVec 256} {g : Uuid} {r : String}
    {m : Uuid} {s : UInt64} {plaintext encoded : List UInt8} {draw : Draw}
    (h : encryptBody prims key g r m s.toNat plaintext draw = .ok encoded) :
    decryptBody prims key g r m s.toNat encoded = .ok plaintext ∧
      ∀ (g' : Uuid) (r' : String) (m' : Uuid) (s' : UInt64), (g', r', m', s') ≠ (g, r, m, s) →
        decryptBody prims key g' r' m' s'.toNat encoded =
          .error (.bail "stored message authentication failed") := by
  obtain ⟨ciphertext, encrypted, decryptBody_eq⟩ := decryptBody_of_encryptBody aead h
  constructor
  · rw [decryptBody_eq, aead.decrypts _ _ _ _ _ (length_bigEndian _ _) encrypted]
  · intro g' r' m' s' elsewhere
    have apart : (key, bigEndian nonceLength draw.nonce.toNat, messageAad g' r' m' s'.toNat) ≠
        (key, bigEndian nonceLength draw.nonce.toNat, messageAad g r m s.toNat) := by
      intro same
      exact elsewhere (messageAad_inj (Prod.mk.inj (Prod.mk.inj same).2).2)
    rw [decryptBody_eq, aead.rejects _ _ _ _ _ encrypted _ _ _ apart]

/-! ## An ideal cipher -/

/-- A list behind its length, in unary. -/
def counted (bytes : List UInt8) : List UInt8 := List.replicate bytes.length 1 ++ 0 :: bytes

/-- No counted list begins another. -/
theorem counted_append_inj {a b rest rest' : List UInt8} (same : counted a ++ rest = counted b ++ rest') :
    a = b ∧ rest = rest' := by
  have length : a.length = b.length := by
    have unary : ∀ (n k : ℕ) (x y : List UInt8),
        List.replicate n 1 ++ 0 :: x = List.replicate k (1 : UInt8) ++ 0 :: y → n = k := by
      intro n
      induction n with
      | zero =>
        intro k x y h
        cases k with
        | zero => rfl
        | succ k => simp [List.replicate_succ] at h
      | succ n ih =>
        intro k x y h
        cases k with
        | zero => simp [List.replicate_succ] at h
        | succ k =>
          simp only [List.replicate_succ, List.cons_append, List.cons.injEq, true_and] at h
          rw [ih k x y h]
    exact unary _ _ _ _ (by simpa [counted] using same)
  obtain ⟨front, rest⟩ := List.append_inj same (by simp [counted, length])
  refine ⟨?_, rest⟩
  simp only [counted, length, List.append_cancel_left_eq, List.cons.injEq, true_and] at front
  exact front

/-- What a ciphertext of `Primitives.bound` begins with. -/
def boundHeader (key : BitVec 256) (nonce aad : List UInt8) : List UInt8 :=
  bigEndian 32 key.toNat ++ counted nonce ++ counted aad

/-- A cipher that writes what it is bound to in front of the message. -/
def Primitives.bound : Primitives where
  blake3 bytes := bytes
  encrypt key nonce aad msg := some (boundHeader key nonce aad ++ msg)
  decrypt key nonce aad cipher :=
    if (boundHeader key nonce aad).isPrefixOf cipher then some (cipher.drop (boundHeader key nonce aad).length)
    else none

theorem idealAead_bound : IdealAead .bound where
  decrypts key nonce aad msg cipher _ h := by
    cases h
    simp [Primitives.bound]
  rejects key nonce aad msg cipher h key' nonce' aad' apart := by
    cases h
    simp only [Primitives.bound]
    refine if_neg fun begins => apart ?_
    obtain ⟨rest, same⟩ := List.isPrefixOf_iff_prefix.1 begins
    simp only [boundHeader, List.append_assoc] at same
    obtain ⟨keys, fields⟩ := List.append_inj same (by simp)
    obtain ⟨nonces, fields⟩ := counted_append_inj fields
    obtain ⟨aads, -⟩ := counted_append_inj fields
    have keys : key' = key :=
      BitVec.eq_of_toNat_eq (bigEndian_inj_of_lt key'.isLt key.isLt keys)
    rw [keys, nonces, aads]
  nonempty key nonce aad msg cipher h := by
    cases h
    simp [boundHeader, counted]

/-- A body of a room whose id imitates the fields around it. -/
theorem body_bound_general : ∃ encoded,
    encryptBody .bound 7 ⟨1⟩ "general" ⟨2⟩ (3 : UInt64).toNat [104, 105] (.numbered 5) = .ok encoded ∧
      decryptBody .bound 7 ⟨1⟩ "general" ⟨2⟩ (3 : UInt64).toNat encoded = .ok [104, 105] ∧
      decryptBody .bound 7 ⟨1⟩ "lobby" ⟨2⟩ (3 : UInt64).toNat encoded =
        .error (.bail "stored message authentication failed") := by
  have bound := @body_bound _ idealAead_bound 7 ⟨1⟩ "general" ⟨2⟩ 3 [104, 105] _ (.numbered 5) rfl
  exact ⟨_, rfl, bound.1, bound.2 ⟨1⟩ "lobby" ⟨2⟩ 3 (by decide)⟩

end LanChat
