/-
  Bit strings, most significant bit first, and readers of them.

  `natBits n v` is a number as a field of `n` bits, `ofBits` its value again; `bytesBits` is a byte
  string as bits. A reader is a computation with a position in a string that it may fail at.
  `Reads rest m input a` says that it takes `input` off the front of what is left (`rest`) and
  answers `a`; `Reads.bind` composes two of them along the concatenation of what they take, so a
  grammar is read by its parts. Nothing here knows a format.
-/
import Mathlib.Data.Nat.Bitwise

namespace BitString

/-! ## Numbers as bits -/

/-- The `n` low bits of a number. -/
def natBits : Nat → Nat → List Bool
  | 0, _ => []
  | n + 1, v => v.testBit n :: natBits n v

/-- The number that bits spell. -/
def ofBits : List Bool → Nat
  | [] => 0
  | b :: bits => b.toNat * 2 ^ bits.length + ofBits bits

@[simp] theorem length_natBits (n v : Nat) : (natBits n v).length = n := by
  induction n with
  | zero => rfl
  | succ n ih => rw [natBits, List.length_cons, ih]

theorem ofBits_natBits_mod (n v : Nat) : ofBits (natBits n v) = v % 2 ^ n := by
  induction n with
  | zero => simp [natBits, ofBits, Nat.mod_one]
  | succ n ih =>
    rw [natBits, ofBits, ih, length_natBits, Nat.toNat_testBit, Nat.mod_pow_succ, Nat.mul_comm,
      Nat.add_comm]

theorem ofBits_natBits {n v : Nat} (h : v < 2 ^ n) : ofBits (natBits n v) = v := by
  rw [ofBits_natBits_mod, Nat.mod_eq_of_lt h]

theorem ofBits_append (as bs : List Bool) :
    ofBits (as ++ bs) = ofBits as * 2 ^ bs.length + ofBits bs := by
  induction as with
  | nil => simp [ofBits]
  | cons a as ih =>
    rw [List.cons_append, ofBits, ofBits, ih, List.length_append, Nat.pow_add, Nat.add_mul,
      Nat.mul_assoc, Nat.add_assoc]

theorem ofBits_concat (bits : List Bool) (b : Bool) :
    ofBits (bits ++ [b]) = 2 * ofBits bits + b.toNat := by
  rw [ofBits_append]
  simp [ofBits]
  omega

theorem ofBits_lt (bits : List Bool) : ofBits bits < 2 ^ bits.length := by
  induction bits with
  | nil => simp [ofBits]
  | cons b bits ih =>
    have hb : b.toNat ≤ 1 := Bool.toNat_le b
    rw [ofBits, List.length_cons, Nat.pow_succ]
    have := Nat.mul_le_mul_right (2 ^ bits.length) hb
    omega

theorem natBits_getElem? (n v : Nat) {i : Nat} (hi : i < n) :
    (natBits n v)[i]? = some (v.testBit (n - 1 - i)) := by
  induction n generalizing i with
  | zero => omega
  | succ n ih =>
    cases i with
    | zero => simp [natBits]
    | succ i =>
      rw [natBits, List.getElem?_cons_succ, ih (by omega)]
      congr 2
      omega

theorem natBits_add (m n v : Nat) : natBits (m + n) v = natBits m (v >>> n) ++ natBits n v := by
  induction m with
  | zero => rw [Nat.zero_add]; rfl
  | succ m ih =>
      rw [Nat.succ_add, natBits, natBits, ih, Nat.testBit_shiftRight, Nat.add_comm n m]
      rfl

theorem natBits_mod {n k : Nat} (h : n ≤ k) (v : Nat) : natBits n (v % 2 ^ k) = natBits n v := by
  induction n with
  | zero => rfl
  | succ n ih =>
      rw [natBits, natBits, ih (Nat.le_of_succ_le h), Nat.testBit_mod_two_pow,
        decide_eq_true (Nat.lt_of_succ_le h), Bool.true_and]

/-! ## Bytes as bits -/

def byteBits (b : UInt8) : List Bool := natBits 8 b.toNat

def bytesBits (bytes : List UInt8) : List Bool := bytes.flatMap byteBits

@[simp] theorem bytesBits_nil : bytesBits [] = [] := rfl

@[simp] theorem bytesBits_cons (b : UInt8) (bytes : List UInt8) :
    bytesBits (b :: bytes) = byteBits b ++ bytesBits bytes := rfl

@[simp] theorem length_bytesBits (bytes : List UInt8) :
    (bytesBits bytes).length = 8 * bytes.length := by
  induction bytes with
  | nil => rfl
  | cons b bytes ih =>
    rw [bytesBits_cons, List.length_append, byteBits, length_natBits, ih, List.length_cons]
    omega

theorem bytesBits_append (as bs : List UInt8) :
    bytesBits (as ++ bs) = bytesBits as ++ bytesBits bs := List.flatMap_append

theorem byteBits_append_inj {a b : UInt8} {as bs : List Bool}
    (h : byteBits a ++ as = byteBits b ++ bs) : a = b ∧ as = bs := by
  obtain ⟨hbyte, hrest⟩ := List.append_inj h
    (by rw [byteBits, byteBits, length_natBits, length_natBits])
  refine ⟨UInt8.toNat_inj.mp ?_, hrest⟩
  have hvalue := congrArg ofBits hbyte
  rwa [byteBits, byteBits, ofBits_natBits a.toNat_lt, ofBits_natBits b.toNat_lt] at hvalue

/-- A bit of a byte string is a bit of one byte. -/
theorem bytesBits_getElem? {bytes : List UInt8} {i : Nat} (hi : i < 8 * bytes.length) :
    (bytesBits bytes)[i]? = some ((bytes.getD (i / 8) 0).toNat.testBit (7 - i % 8)) := by
  induction bytes generalizing i with
  | nil => simp at hi
  | cons b bytes ih =>
    rw [bytesBits_cons]
    by_cases hfirst : i < 8
    · rw [List.getElem?_append_left (by simpa [byteBits] using hfirst), byteBits,
        natBits_getElem? _ _ hfirst, Nat.div_eq_of_lt hfirst, Nat.mod_eq_of_lt hfirst]
      rfl
    · have hlen : (byteBits b).length = 8 := length_natBits 8 _
      have hi' : i - 8 < 8 * bytes.length := by
        rw [List.length_cons] at hi
        omega
      rw [List.getElem?_append_right (by omega), hlen, ih hi',
        show i / 8 = (i - 8) / 8 + 1 by omega, show i % 8 = (i - 8) % 8 by omega,
        List.getD_cons_succ]

/-! ## Readers -/

section
universe u v w

variable {σ α γ : Type u} {ε : Type v} {β : Type w} {rest : σ → List β}

/-- The reader takes `input` and answers `a`, whatever stands behind it. -/
def Reads (rest : σ → List β) (m : StateT σ (Except ε) α) (input : List β) (a : α) : Prop :=
  ∀ s tail, rest s = input ++ tail → ∃ s', m s = .ok (a, s') ∧ rest s' = tail

theorem Reads.pure (a : α) : Reads rest (Pure.pure a : StateT σ (Except ε) α) [] a :=
  fun s _ h => ⟨s, rfl, h⟩

theorem Reads.bind {m : StateT σ (Except ε) α} {k : α → StateT σ (Except ε) γ}
    {first second : List β} {a : α} {c : γ} (hm : Reads rest m first a)
    (hk : Reads rest (k a) second c) : Reads rest (m >>= k) (first ++ second) c := by
  intro s tail h
  rw [List.append_assoc] at h
  obtain ⟨s', hs', hrest⟩ := hm s _ h
  obtain ⟨s'', hs'', hend⟩ := hk s' tail hrest
  refine ⟨s'', ?_, hend⟩
  show (m s >>= fun r => k r.1 r.2) = _
  rw [hs']
  exact hs''

/-- A reader whose answer is only rewritten. -/
theorem Reads.map {m : StateT σ (Except ε) α} {input : List β} {a : α} (hm : Reads rest m input a)
    (g : α → γ) : Reads rest (m >>= fun x => Pure.pure (g x)) input (g a) := by
  have h := hm.bind (k := fun x => Pure.pure (g x)) (Reads.pure (g a))
  rwa [List.append_nil] at h

/-- The reader answers `a` in front of `input`, whatever of it it takes. -/
def Answers (rest : σ → List β) (m : StateT σ (Except ε) α) (input : List β) (a : α) : Prop :=
  ∀ s tail, rest s = input ++ tail → ∃ s', m s = .ok (a, s')

theorem Reads.answers {m : StateT σ (Except ε) α} {input : List β} {a : α}
    (hm : Reads rest m input a) (more : List β) : Answers rest m (input ++ more) a := by
  intro s tail h
  rw [List.append_assoc] at h
  obtain ⟨s', hs', -⟩ := hm s _ h
  exact ⟨s', hs'⟩

theorem Reads.bind_answers {m : StateT σ (Except ε) α} {k : α → StateT σ (Except ε) γ}
    {first second : List β} {a : α} {c : γ} (hm : Reads rest m first a)
    (hk : Answers rest (k a) second c) : Answers rest (m >>= k) (first ++ second) c := by
  intro s tail h
  rw [List.append_assoc] at h
  obtain ⟨s', hs', hrest⟩ := hm s _ h
  obtain ⟨s'', hs''⟩ := hk s' tail hrest
  refine ⟨s'', ?_⟩
  show (m s >>= fun r => k r.1 r.2) = _
  rw [hs']
  exact hs''

theorem Answers.map {m : StateT σ (Except ε) α} {input : List β} {a : α}
    (hm : Answers rest m input a) (g : α → γ) :
    Answers rest (m >>= fun x => Pure.pure (g x)) input (g a) := by
  intro s tail h
  obtain ⟨s', hs'⟩ := hm s tail h
  refine ⟨s', ?_⟩
  show (m s >>= fun r => (Pure.pure (g r.1) : StateT σ (Except ε) γ) r.2) = _
  rw [hs']
  rfl

end

end BitString
