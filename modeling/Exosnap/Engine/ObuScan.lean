/-
  The OBU scan of `DeriveAv1CodecPrivate` on a stream of serialised OBUs.

  `SerializedObu` is one OBU as bytes: header, extension, size field, payload. In front of the
  sequence header stand OBUs of other types, each with its size. The scan walks over them and
  hands the payload to the parser (`deriveAv1CodecPrivate_stream`); what stands behind the
  sequence header is not looked at.
-/
import Exosnap.Engine.CodecPrivate
import Mathlib.Tactic.Ring

namespace Exosnap.Engine.CodecPrivate

/-- A number in base 128, the low digits first. -/
inductive Leb128 : List UInt8 → Nat → Prop where
  | last (b : UInt8) (h : b &&& 0x80 = 0) : Leb128 [b] (b &&& 0x7F).toNat
  | more (b : UInt8) {bs : List UInt8} {n : Nat} (h : b &&& 0x80 ≠ 0) (rest : Leb128 bs n) :
      Leb128 (b :: bs) ((b &&& 0x7F).toNat + 128 * n)

structure SerializedObu where
  headerByte : UInt8
  extension : Option UInt8
  size : Option (List UInt8)
  payload : List UInt8

namespace SerializedObu

def obuType (o : SerializedObu) : UInt8 := (o.headerByte >>> 3) &&& 0x0F

/-- What stands in front of the payload. -/
def head (o : SerializedObu) : List UInt8 :=
  o.headerByte :: (o.extension.toList ++ o.size.getD [])

def bytes (o : SerializedObu) : List UInt8 := o.head ++ o.payload

/-- The flags of the header announce the extension and the size field, which is right. -/
structure WellFormed (o : SerializedObu) : Prop where
  extension : ((o.headerByte >>> 2) &&& 0x1 ≠ 0) ↔ o.extension.isSome = true
  hasSize : ((o.headerByte >>> 1) &&& 0x1 ≠ 0) ↔ o.size.isSome = true
  size : ∀ bs ∈ o.size, Leb128 bs o.payload.length ∧ bs.length ≤ 8

end SerializedObu

/-! ## The size field -/

theorem readLeb128_spec {bs : List UInt8} {size : List UInt8} {n : Nat} (h : Leb128 size n) :
    ∀ {i : Nat} {tail : List UInt8} (fuel shift acc : Nat), size.length ≤ fuel → acc < 2 ^ shift →
      bs.drop i = size ++ tail →
      readLeb128 bs fuel i shift acc = (i + size.length, acc + n * 2 ^ shift) := by
  have hor : ∀ (b : UInt8) (shift acc : Nat), acc < 2 ^ shift →
      acc ||| ((b &&& 0x7F).toNat <<< shift) = acc + (b &&& 0x7F).toNat * 2 ^ shift := by
    intro b shift acc hacc
    rw [Nat.or_comm, ← Nat.shiftLeft_add_eq_or_of_lt hacc, Nat.shiftLeft_eq, Nat.add_comm]
  induction h with
  | last b hb =>
    intro i tail fuel shift acc hfuel hacc hdrop
    obtain ⟨fuel, rfl⟩ : ∃ k, fuel = k + 1 := ⟨fuel - 1, by simp at hfuel; omega⟩
    have hget : bs[i]? = some b := by
      rw [← List.head?_drop, hdrop]
      rfl
    unfold readLeb128
    rw [hget]
    dsimp only
    rw [if_pos hb, hor b shift acc hacc]
    rfl
  | @more b size n hb _ ih =>
    intro i tail fuel shift acc hfuel hacc hdrop
    obtain ⟨fuel, rfl⟩ : ∃ k, fuel = k + 1 := ⟨fuel - 1, by simp at hfuel; omega⟩
    have hget : bs[i]? = some b := by
      rw [← List.head?_drop, hdrop]
      rfl
    have hnext : bs.drop (i + 1) = size ++ tail := by
      rw [← List.drop_drop, hdrop]
      rfl
    have hdigit : (b &&& 0x7F).toNat ≤ 127 := by
      rw [UInt8.toNat_and]
      exact Nat.and_le_right
    have hsum : acc + (b &&& 0x7F).toNat * 2 ^ shift < 2 ^ (shift + 7) := by
      have := Nat.mul_le_mul_right (2 ^ shift) hdigit
      rw [Nat.pow_add]
      omega
    have hrest := ih fuel (shift + 7) _ (by simp at hfuel; omega) hsum hnext
    unfold readLeb128
    rw [hget]
    dsimp only
    rw [if_neg hb, hor b shift acc hacc, hrest, List.length_cons]
    refine Prod.ext ?_ ?_
    · dsimp only
      omega
    · dsimp only
      rw [Nat.pow_add]
      ring

/-! ## The scan -/

theorem getElem?_of_drop {bs : List UInt8} {i : Nat} {b : UInt8} {rest : List UInt8}
    (h : bs.drop i = b :: rest) : bs[i]? = some b := by
  rw [← List.head?_drop, h]
  rfl

theorem drop_add_length {bs : List UInt8} {i : Nat} {part rest : List UInt8}
    (h : bs.drop i = part ++ rest) : bs.drop (i + part.length) = rest := by
  rw [← List.drop_drop, h, List.drop_left]

theorem length_of_drop {bs : List UInt8} {i : Nat} {part rest : List UInt8} (hne : part ≠ [])
    (h : bs.drop i = part ++ rest) : bs.length = i + part.length + rest.length := by
  have hlen := congrArg List.length h
  have hpos := List.length_pos_iff.mpr hne
  rw [List.length_drop, List.length_append] at hlen
  omega

/-- One round of the scan at a serialised OBU. -/
theorem scanObus_obu {bs : List UInt8} {o : SerializedObu} (ho : o.WellFormed) {start : Nat}
    {tail : List UInt8} (hdrop : bs.drop start = o.bytes ++ tail)
    (hlast : o.size = none → tail = []) (n : Nat) :
    scanObus bs (n + 1) start =
      if o.obuType = 1 then .ok (some ⟨start, start + o.head.length, o.payload.length⟩)
      else scanObus bs n (start + o.bytes.length) := by
  have hne : o.bytes ≠ [] := nofun
  have hlength := length_of_drop hne hdrop
  have hbytes : o.bytes.length = o.head.length + o.payload.length := List.length_append
  have hheader : bs[start]? = some o.headerByte := getElem?_of_drop hdrop
  have hbehind : bs.drop (start + 1) =
      o.extension.toList ++ (o.size.getD [] ++ (o.payload ++ tail)) := by
    have hsplit : o.bytes ++ tail =
        [o.headerByte] ++ (o.extension.toList ++ (o.size.getD [] ++ (o.payload ++ tail))) := by
      simp [SerializedObu.bytes, SerializedObu.head]
    exact drop_add_length (hdrop.trans hsplit)
  have hsizeAt := drop_add_length hbehind
  have hhead : o.head.length = 1 + o.extension.toList.length + (o.size.getD []).length := by
    rw [SerializedObu.head, List.length_cons, List.length_append]
    omega
  -- The extension byte is there when it is announced.
  have hext : (if (o.headerByte >>> 2) &&& 0x1 ≠ 0 then start + 1 + 1 else start + 1) =
      start + 1 + o.extension.toList.length := by
    by_cases hflag : (o.headerByte >>> 2) &&& 0x1 ≠ 0
    · obtain ⟨e, he⟩ := Option.isSome_iff_exists.mp (ho.extension.mp hflag)
      rw [if_pos hflag, he]
      rfl
    · have hnone : o.extension = none := by
        rw [← Option.not_isSome_iff_eq_none]
        exact fun h => hflag (ho.extension.mpr h)
      rw [if_neg hflag, hnone]
      rfl
  have hroom : ¬((o.headerByte >>> 2) &&& 0x1 ≠ 0 ∧ bs.length ≤ start + 1) := by
    rintro ⟨hflag, hshort⟩
    obtain ⟨e, he⟩ := Option.isSome_iff_exists.mp (ho.extension.mp hflag)
    rw [he] at hhead
    simp only [Option.toList_some, List.length_singleton] at hhead
    omega
  -- The size, read or inferred, is that of the payload.
  have hsize : (if (o.headerByte >>> 1) &&& 0x1 ≠ 0 then
        readLeb128 bs 8 (start + 1 + o.extension.toList.length) 0 0
      else (start + 1 + o.extension.toList.length,
        bs.length - (start + 1 + o.extension.toList.length))) =
      (start + o.head.length, o.payload.length) := by
    by_cases hflag : (o.headerByte >>> 1) &&& 0x1 ≠ 0
    · obtain ⟨size, hs⟩ := Option.isSome_iff_exists.mp (ho.hasSize.mp hflag)
      obtain ⟨hleb, height⟩ := ho.size size hs
      rw [hs, Option.getD_some] at hhead
      have hdropSize := hsizeAt
      rw [hs, Option.getD_some] at hdropSize
      rw [if_pos hflag, readLeb128_spec hleb 8 0 0 height Nat.zero_lt_one hdropSize]
      refine Prod.ext ?_ ?_
      · dsimp only
        omega
      · dsimp only
        rw [Nat.pow_zero, Nat.mul_one, Nat.zero_add]
    · have hnone : o.size = none := by
        rw [← Option.not_isSome_iff_eq_none]
        exact fun h => hflag (ho.hasSize.mpr h)
      rw [hnone] at hhead
      rw [if_neg hflag]
      rw [hlast hnone] at hlength
      simp only [Option.getD_none, List.length_nil] at hhead hlength
      refine Prod.ext ?_ ?_
      · dsimp only
        omega
      · dsimp only
        omega
  rw [scanObus, hheader]
  dsimp only
  rw [if_neg hroom, hext, hsize]
  dsimp only
  have hfits : ¬bs.length < start + o.head.length + o.payload.length := by omega
  rw [if_neg hfits, if_neg hfits, hbytes, ← Nat.add_assoc]
  rfl

/-- What may stand in front of the sequence header. -/
structure SerializedObu.Skipped (o : SerializedObu) : Prop where
  wellFormed : o.WellFormed
  sized : o.size ≠ none
  other : o.obuType ≠ 1

def obuStream (obus : List SerializedObu) : List UInt8 := obus.flatMap SerializedObu.bytes

theorem length_le_obuStream (obus : List SerializedObu) :
    obus.length ≤ (obuStream obus).length := by
  induction obus with
  | nil => exact Nat.le_refl 0
  | cons o obus ih =>
    have hpos : 0 < o.bytes.length := Nat.succ_pos _
    rw [obuStream, List.flatMap_cons, List.length_cons, List.length_append]
    unfold obuStream at ih
    omega

/-- The scan stops at the first sequence header. -/
theorem scanObus_stream {bs : List UInt8} {o : SerializedObu} (ho : o.WellFormed)
    (htype : o.obuType = 1) {tail : List UInt8} (hlast : o.size = none → tail = [])
    (before : List SerializedObu) :
    ∀ {start : Nat} (n : Nat), (∀ x ∈ before, x.Skipped) → before.length < n →
      bs.drop start = obuStream before ++ (o.bytes ++ tail) →
      scanObus bs n start =
        .ok (some ⟨start + (obuStream before).length,
          start + (obuStream before).length + o.head.length, o.payload.length⟩) := by
  induction before with
  | nil =>
    intro start n _ hn hdrop
    obtain ⟨n, rfl⟩ : ∃ k, n = k + 1 := ⟨n - 1, by simp at hn; omega⟩
    rw [scanObus_obu ho hdrop hlast, if_pos htype]
    rfl
  | cons x before ih =>
    intro start n hbefore hn hdrop
    rw [List.length_cons] at hn
    obtain ⟨n, rfl⟩ : ∃ k, n = k + 1 := ⟨n - 1, by omega⟩
    have hx := hbefore x List.mem_cons_self
    have hcons : obuStream (x :: before) = x.bytes ++ obuStream before := rfl
    rw [hcons, List.append_assoc] at hdrop
    have hrest := ih n (fun y hy => hbefore y (List.mem_cons_of_mem _ hy)) (by omega)
      (drop_add_length hdrop)
    rw [scanObus_obu hx.wellFormed hdrop fun h => absurd h hx.sized, if_neg hx.other, hrest, hcons,
      List.length_append, Nat.add_assoc start]

/-- The first sequence header of a stream of OBUs is parsed, and its bytes end the record. -/
theorem deriveAv1CodecPrivate_stream {before : List SerializedObu}
    (hbefore : ∀ x ∈ before, x.Skipped) {o : SerializedObu} (ho : o.WellFormed)
    (htype : o.obuType = 1) {tail : List UInt8} (hlast : o.size = none → tail = []) :
    deriveAv1CodecPrivate (obuStream before ++ (o.bytes ++ tail)) =
      (parseSequenceHeaderObu { data := o.payload }).map fun parsed =>
        av1CodecConfigurationRecord parsed.1 o.bytes := by
  have hpos : 0 < o.bytes.length := Nat.succ_pos _
  have hcount := length_le_obuStream before
  have hlength : before.length < (obuStream before ++ (o.bytes ++ tail)).length := by
    rw [List.length_append, List.length_append]
    omega
  have hne : obuStream before ++ (o.bytes ++ tail) ≠ [] := by
    intro hnil
    rw [hnil] at hlength
    exact absurd hlength (Nat.not_lt_zero _)
  have hscan := scanObus_stream ho htype hlast before _ hbefore hlength
    (rfl : (obuStream before ++ (o.bytes ++ tail)).drop 0 = _)
  have hpayload : ((obuStream before ++ (o.bytes ++ tail)).drop
      (0 + (obuStream before).length + o.head.length)).take o.payload.length = o.payload := by
    rw [Nat.zero_add, ← List.drop_drop, List.drop_left, SerializedObu.bytes, List.append_assoc,
      List.drop_left, List.take_left]
  have hobu : ((obuStream before ++ (o.bytes ++ tail)).drop
      (0 + (obuStream before).length)).take (0 + (obuStream before).length + o.head.length +
        o.payload.length - (0 + (obuStream before).length)) = o.bytes := by
    have hextent : 0 + (obuStream before).length + o.head.length + o.payload.length -
        (0 + (obuStream before).length) = o.bytes.length := by
      rw [SerializedObu.bytes, List.length_append]
      omega
    rw [hextent, Nat.zero_add, List.drop_left, List.take_left]
  unfold deriveAv1CodecPrivate
  rw [if_neg hne, hscan]
  show (parseSequenceHeaderObu { data := _ } >>= fun parsed => _) = _
  dsimp only
  rw [hpayload, hobu]
  cases parseSequenceHeaderObu { data := o.payload } <;> rfl

end Exosnap.Engine.CodecPrivate
