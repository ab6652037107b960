/-
  The scan for NAL units over byte streams with any number of zeros between the units.

  A start code is two zeros or more and a one, and zeros may stand at the end (`byteStream`). The
  scan leaves at most three zeros to a start code: the others belong to the span before it (`spans`,
  `enumerateNals_byteStream`).
-/
import Exosnap.Engine.AnnexB

namespace Exosnap.Engine.AnnexB

open ByteFraming

def zeros (n : Nat) : List UInt8 := List.replicate n 0

/-- Units, each behind so many zeros and a one, and zeros at the end. -/
def byteStream : List (Nat × List UInt8) → Nat → List UInt8
  | [], trailing => zeros trailing
  | (k, nal) :: units, trailing => zeros k ++ 1 :: (nal ++ byteStream units trailing)

/-- The zeros behind a unit that no start code takes. -/
def gap : List (Nat × List UInt8) → Nat → Nat
  | [], trailing => trailing
  | (k, _) :: _, _ => k - 3

def spans : List (Nat × List UInt8) → Nat → List (List UInt8)
  | [], _ => []
  | (_, nal) :: units, trailing => (nal ++ zeros (gap units trailing)) :: spans units trailing

/-- A unit behind a start code. -/
structure StreamUnit (headerBytes : Nat) (u : Nat × List UInt8) : Prop extends
    Unit headerBytes u.2 where
  code : 2 ≤ u.1

/-! ## Zeros -/

theorem zeros_succ (n : Nat) : zeros (n + 1) = 0 :: zeros n := rfl

theorem zeros_add (m n : Nat) : zeros (m + n) = zeros m ++ zeros n := List.replicate_add ..

theorem startCodeLen_zeros (n : Nat) : startCodeLen (zeros n) = 0 := by
  match n with
  | 0 => rfl
  | 1 => rfl
  | 2 => rfl
  | 3 => rfl
  | n + 4 => rfl

/-- Four zeros begin no start code. -/
theorem startCodeLen_fourZeros (rest : List UInt8) : startCodeLen (zeros 4 ++ rest) = 0 := rfl

theorem bytesToStartCode_zeros (n : Nat) : bytesToStartCode (zeros n) = n := by
  induction n with
  | zero => rfl
  | succ n ih =>
      have hnone : startCodeLen (0 :: zeros n) = 0 := startCodeLen_zeros (n + 1)
      rw [zeros_succ, bytesToStartCode, hnone, if_neg (Nat.lt_irrefl 0), ih, Nat.add_comm]

theorem bytesToStartCode_code {k : Nat} (hk : 2 ≤ k) (rest : List UInt8) :
    bytesToStartCode (zeros k ++ 1 :: rest) = k - 3 := by
  induction k with
  | zero => omega
  | succ k ih =>
      match k with
      | 0 => omega
      | 1 => rfl
      | 2 => rfl
      | k + 3 =>
          have hrest := ih (by omega)
          have hsplit : zeros (k + 3 + 1) ++ 1 :: rest =
              0 :: (zeros (k + 3) ++ 1 :: rest) := rfl
          have hnone : startCodeLen (0 :: (zeros (k + 3) ++ 1 :: rest)) = 0 := rfl
          rw [hsplit, bytesToStartCode, hnone, if_neg (Nat.lt_irrefl 0), hrest]
          omega

theorem bytesToStartCode_stream {headerBytes : Nat} {units : List (Nat × List UInt8)}
    (hunits : ∀ u ∈ units, StreamUnit headerBytes u) (trailing : Nat) :
    bytesToStartCode (byteStream units trailing) = gap units trailing := by
  cases units with
  | nil => exact bytesToStartCode_zeros trailing
  | cons u units => exact bytesToStartCode_code (hunits u List.mem_cons_self).code _

/-- Behind a clean unit the search goes up to the zeros of the next start code. -/
theorem bytesToStartCode_unit {headerBytes : Nat} {units : List (Nat × List UInt8)}
    (hunits : ∀ u ∈ units, StreamUnit headerBytes u) (trailing : Nat) {v : List UInt8}
    (hv : Clean v) {u : List UInt8} (hu : u <:+ v) :
    bytesToStartCode (u ++ byteStream units trailing) = u.length + gap units trailing := by
  induction u with
  | nil => rw [List.nil_append, List.length_nil, Nat.zero_add, bytesToStartCode_stream hunits]
  | cons a u ih =>
      have hclean := hv.suffix hu (List.cons_ne_nil a u)
      have hnone : startCodeLen (a :: (u ++ byteStream units trailing)) = 0 :=
        startCodeLen_clean hclean (List.cons_ne_nil a u) _
      rw [List.cons_append, bytesToStartCode, hnone, if_neg (Nat.lt_irrefl 0),
        ih ((List.suffix_cons a u).trans hu), List.length_cons]
      omega

/-! ## The scan -/

theorem enumerateFrom_zeros (headerBytes fuel n : Nat) :
    enumerateFrom headerBytes fuel (zeros n) = [] := by
  induction fuel generalizing n with
  | zero => rfl
  | succ fuel ih =>
      cases n with
      | zero => rfl
      | succ n =>
          have hnone : startCodeLen (0 :: zeros n) = 0 := startCodeLen_zeros (n + 1)
          rw [zeros_succ, enumerateFrom]
          dsimp only
          rw [hnone, if_pos rfl, ih]

/-- What comes behind a start code is a span and what the scan finds behind it. -/
theorem enumerateFrom_code {k : Nat} (hk : 2 ≤ k) (headerBytes : Nat) {fuel : Nat}
    {payload : List UInt8} (hfuel : k + payload.length < fuel)
    (hheader : headerBytes ≤ payload.length) :
    ∃ fuel', payload.length ≤ fuel' ∧
      enumerateFrom headerBytes fuel (zeros k ++ 1 :: payload) =
        payload.take (headerBytes + bytesToStartCode (payload.drop headerBytes)) ::
          enumerateFrom headerBytes fuel'
            (payload.drop (headerBytes + bytesToStartCode (payload.drop headerBytes))) := by
  induction k generalizing fuel with
  | zero => omega
  | succ k ih =>
      obtain ⟨fuel, rfl⟩ := Nat.exists_eq_succ_of_ne_zero (Nat.ne_of_gt (Nat.zero_lt_of_lt hfuel))
      match k with
      | 0 => omega
      | 1 =>
          refine ⟨fuel, by omega, ?_⟩
          rw [show zeros (1 + 1) ++ 1 :: payload = StartCode.three.bytes ++ payload from rfl,
            enumerateFrom_startCode, if_neg (Nat.not_lt.mpr hheader)]
      | 2 =>
          refine ⟨fuel, by omega, ?_⟩
          rw [show zeros (2 + 1) ++ 1 :: payload = StartCode.four.bytes ++ payload from rfl,
            enumerateFrom_startCode, if_neg (Nat.not_lt.mpr hheader)]
      | k + 3 =>
          obtain ⟨fuel', hle, heq⟩ := ih (by omega) (show k + 3 + payload.length < fuel by omega)
          refine ⟨fuel', hle, ?_⟩
          have hsplit : zeros (k + 3 + 1) ++ 1 :: payload =
              0 :: (zeros (k + 3) ++ 1 :: payload) := rfl
          have hnone : startCodeLen (0 :: (zeros (k + 3) ++ 1 :: payload)) = 0 := rfl
          rw [hsplit, enumerateFrom]
          dsimp only
          rw [hnone, if_pos rfl, heq]

theorem drop_zeros {k d : Nat} (h : d ≤ k) (rest : List UInt8) :
    (zeros k ++ rest).drop d = zeros (k - d) ++ rest := by
  rw [List.drop_append_of_le_length (by rw [zeros, List.length_replicate]; exact h), zeros,
    List.drop_replicate]
  rfl

theorem take_gap (units : List (Nat × List UInt8)) (trailing : Nat) :
    (byteStream units trailing).take (gap units trailing) = zeros (gap units trailing) := by
  cases units with
  | nil => exact List.take_of_length_le (Nat.le_of_eq List.length_replicate)
  | cons u units =>
      have hle : u.1 - 3 ≤ (zeros u.1).length := by
        rw [zeros, List.length_replicate]
        exact Nat.sub_le _ _
      rw [byteStream, gap, List.take_append_of_le_length hle, zeros, List.take_replicate,
        Nat.min_eq_left (Nat.sub_le _ _)]
      rfl

/-- The scan from any of the zeros that belong to no start code. -/
theorem enumerateFrom_drop {headerBytes : Nat} {units : List (Nat × List UInt8)}
    (hunits : ∀ u ∈ units, StreamUnit headerBytes u) (trailing : Nat) {d fuel : Nat}
    (hd : d ≤ gap units trailing) (hfuel : ((byteStream units trailing).drop d).length ≤ fuel) :
    enumerateFrom headerBytes fuel ((byteStream units trailing).drop d) =
      spans units trailing := by
  induction units generalizing d fuel with
  | nil =>
      rw [byteStream, zeros, List.drop_replicate]
      exact enumerateFrom_zeros headerBytes fuel (trailing - d)
  | cons u units ih =>
      obtain ⟨k, nal⟩ := u
      have hunit := hunits (k, nal) List.mem_cons_self
      have hcode := hunit.code
      have hheader := hunit.header
      have hrest : ∀ u ∈ units, StreamUnit headerBytes u :=
        fun u hu => hunits u (List.mem_cons_of_mem _ hu)
      have hgap : d ≤ k - 3 := hd
      rw [byteStream, drop_zeros (by omega)] at hfuel ⊢
      rw [List.length_append, List.length_cons, zeros, List.length_replicate] at hfuel
      have hlong : headerBytes ≤ (nal ++ byteStream units trailing).length := by
        rw [List.length_append]
        exact Nat.le_add_right_of_le hheader
      obtain ⟨fuel', hle, hscan⟩ := enumerateFrom_code
        (show 2 ≤ k - d by dsimp only at hcode; omega) headerBytes
        (show k - d + (nal ++ byteStream units trailing).length < fuel by omega) hlong
      have hsize : headerBytes + bytesToStartCode
          ((nal ++ byteStream units trailing).drop headerBytes) =
            nal.length + gap units trailing := by
        rw [List.drop_append_of_le_length hheader, bytesToStartCode_unit hrest trailing hunit.clean
          (List.drop_suffix headerBytes nal), List.length_drop]
        dsimp only at hheader
        omega
      rw [hscan, hsize, List.take_append, List.drop_append, Nat.add_sub_cancel_left,
        List.take_of_length_le (Nat.le_add_right _ _), List.drop_eq_nil_of_le (Nat.le_add_right _ _),
        List.nil_append, take_gap, spans, ih hrest (Nat.le_refl _)]
      rw [List.length_append] at hle
      rw [List.length_drop]
      omega

theorem enumerateNals_byteStream {headerBytes : Nat} {units : List (Nat × List UInt8)}
    (hunits : ∀ u ∈ units, StreamUnit headerBytes u) (trailing : Nat) :
    enumerateNals headerBytes (byteStream units trailing) = spans units trailing :=
  enumerateFrom_drop hunits trailing (Nat.zero_le _) (Nat.le_refl _)

/-! ## The first unit of a type -/

/-- The first unit of the kind, and the number of zeros that the scan leaves behind it. -/
def First (kind : List UInt8 → Bool) (units : List (Nat × List UInt8)) (trailing : Nat)
    (nal : List UInt8) (n : Nat) : Prop :=
  ∃ before k after, units = before ++ (k, nal) :: after ∧ (∀ u ∈ before, kind u.2 = false) ∧
    kind nal = true ∧ n = gap after trailing

theorem First.mem {kind : List UInt8 → Bool} {units : List (Nat × List UInt8)} {trailing n : Nat}
    {nal : List UInt8} (h : First kind units trailing nal n) : ∃ k, (k, nal) ∈ units := by
  obtain ⟨before, k, after, rfl, -⟩ := h
  exact ⟨k, List.mem_append_right _ List.mem_cons_self⟩

theorem First.kind {kind : List UInt8 → Bool} {units : List (Nat × List UInt8)} {trailing n : Nat}
    {nal : List UInt8} (h : First kind units trailing nal n) : kind nal = true := by
  obtain ⟨-, -, -, -, -, hkind, -⟩ := h
  exact hkind

/-- A kind that is told by the first byte of a unit. -/
def ByHeader (kind : List UInt8 → Bool) : Prop :=
  ∀ nal n, 1 ≤ nal.length → kind (nal ++ zeros n) = kind nal

theorem find_spans {kind : List UInt8 → Bool} (hkind : ByHeader kind)
    {units : List (Nat × List UInt8)} (hunits : ∀ u ∈ units, 1 ≤ u.2.length) {trailing : Nat}
    {span : List UInt8} (h : (spans units trailing).find? kind = some span) :
    ∃ nal n, First kind units trailing nal n ∧ span = nal ++ zeros n := by
  induction units with
  | nil => exact nomatch h
  | cons u units ih =>
      obtain ⟨k, nal⟩ := u
      have hheader := hkind nal (gap units trailing) (hunits (k, nal) List.mem_cons_self)
      rw [spans, List.find?_cons, hheader] at h
      cases hfound : kind nal with
      | true =>
          rw [hfound] at h
          exact ⟨nal, gap units trailing, ⟨[], k, units, rfl, nofun, hfound, rfl⟩,
            (Option.some.inj h).symm⟩
      | false =>
          rw [hfound] at h
          obtain ⟨nal', n, ⟨before, k', after, rfl, hbefore, hkind', hn⟩, rfl⟩ :=
            ih (fun u hu => hunits u (List.mem_cons_of_mem _ hu)) h
          exact ⟨nal', n, ⟨(k, nal) :: before, k', after, rfl,
            List.forall_mem_cons.mpr ⟨hfound, hbefore⟩, hkind', hn⟩, rfl⟩

end Exosnap.Engine.AnnexB
