/-
  What the OBU scan of `DeriveAv1CodecPrivate` reads.

  `turn` is one round of its loop, with every read of a byte taken down: the bounds are only where the
  source tests them, and the sums are those of a `size_t`. A round that goes on has moved on, so the
  scan ends (`scan`), and none of its reads is outside the packet (`scan_reads`). It finds what
  `scanObus` finds (`scan_eq`).
-/
import Exosnap.Engine.ObuScan

namespace Exosnap.Engine.CodecPrivate

/-- The bytes of a packet: no object is larger. -/
structure Packet where
  bytes : List UInt8
  fits : bytes.length < 2 ^ 63

/-- `size_t` -/
def addSize (a b : Nat) : Nat := (a + b) % 2 ^ 64

/-- The size field at `i`, with the reads in front: its position is tested before each of them. -/
def readSizeField (bs : List UInt8) : Nat → Nat → Nat → Nat → List Nat × Nat × Nat
  | 0, i, _, size => ([], i, size)
  | n + 1, i, shift, size =>
      if i ≥ bs.length then ([], i, 0)
      else
        let lebByte := bs.getD i 0
        let size := size ||| ((lebByte &&& 0x7F).toNat <<< shift)
        if lebByte &&& 0x80 = 0 then ([i], i + 1, size)
        else
          let (reads, behind) := readSizeField bs n (i + 1) (shift + 7) size
          (i :: reads, behind)

/-- Without the field the payload takes the rest. -/
def readPayloadSize (bs : List UInt8) (hasSizeField : UInt8) (i : Nat) : List Nat × Nat × Nat :=
  if hasSizeField ≠ 0 then readSizeField bs 8 i 0 0 else ([], i, bs.length - i)

inductive Turn where
  | stop (result : Except String (Option Obu))
  | next (i : Nat)

/-- The loop's body at an OBU, behind the test that it starts inside. -/
def obuTurn (bs : List UInt8) (obuStart : Nat) : List Nat × Turn :=
  let headerByte := bs.getD obuStart 0
  let obuType := (headerByte >>> 3) &&& 0x0F
  let extensionFlag := (headerByte >>> 2) &&& 0x1
  let hasSizeField := (headerByte >>> 1) &&& 0x1
  let i := obuStart + 1
  if extensionFlag ≠ 0 ∧ i ≥ bs.length then ([obuStart], .stop (.ok none))
  else
    let i := if extensionFlag ≠ 0 then i + 1 else i
    let (reads, i, payloadSize) := readPayloadSize bs hasSizeField i
    (obuStart :: reads,
      if obuType = 1 then
        if addSize i payloadSize > bs.length then
          .stop (.error "Sequence Header OBU payload exceeds packet boundary")
        else .stop (.ok (some ⟨obuStart, i, payloadSize⟩))
      else if addSize i payloadSize > bs.length then .stop (.ok none)
      else .next (addSize i payloadSize))

def turn (bs : List UInt8) (i : Nat) : List Nat × Turn :=
  if i < bs.length then obuTurn bs i else ([], .stop (.ok none))

/-! ## One round -/

/-- The reads are inside, the position behind the field is not before it, the size has 56 bits. -/
structure SizeRead (bs : List UInt8) (i : Nat) (answer : List Nat × Nat × Nat) : Prop where
  reads : ∀ r ∈ answer.1, r < bs.length
  le : i ≤ answer.2.1
  inside : answer.2.1 ≤ bs.length
  small : answer.2.2 < 2 ^ 56

theorem readSizeField_spec {bs : List UInt8} {n i shift size : Nat} (hi : i ≤ bs.length)
    (hshift : shift + 7 * n ≤ 56) (hsize : size < 2 ^ shift) :
    SizeRead bs i (readSizeField bs n i shift size) := by
  induction n generalizing i shift size with
  | zero =>
      exact ⟨nofun, Nat.le_refl _, hi,
        Nat.lt_of_lt_of_le hsize (Nat.pow_le_pow_right (by decide) (by omega))⟩
  | succ n ih =>
      rw [readSizeField]
      by_cases hend : i ≥ bs.length
      · rw [if_pos hend]
        exact ⟨nofun, Nat.le_refl _, hi, Nat.two_pow_pos 56⟩
      rw [if_neg hend]
      dsimp only
      have hdigit : (bs.getD i 0 &&& 0x7F).toNat < 2 ^ 7 := by
        rw [UInt8.toNat_and]
        exact Nat.lt_of_le_of_lt Nat.and_le_right (by decide)
      have hmore : size ||| ((bs.getD i 0 &&& 0x7F).toNat <<< shift) < 2 ^ (shift + 7) := by
        refine Nat.or_lt_two_pow (Nat.lt_of_lt_of_le hsize (Nat.pow_le_pow_right (by decide) ?_)) ?_
        · omega
        · rw [Nat.shiftLeft_eq, Nat.pow_add, Nat.mul_comm]
          exact Nat.mul_lt_mul_of_pos_left hdigit (Nat.two_pow_pos shift)
      have hread : i < bs.length := Nat.lt_of_not_ge hend
      split_ifs
      · refine ⟨fun r hr => ?_, Nat.le_succ i, hread, ?_⟩
        · rwa [List.mem_singleton.mp hr]
        · exact Nat.lt_of_lt_of_le hmore (Nat.pow_le_pow_right (by decide) (by omega))
      · have hrest : SizeRead bs (i + 1) (readSizeField bs n (i + 1) (shift + 7) _) :=
          ih hread (by omega) hmore
        refine ⟨fun r hr => ?_, Nat.le_of_succ_le hrest.le, hrest.inside, hrest.small⟩
        rcases List.mem_cons.mp hr with rfl | hr
        · exact hread
        · exact hrest.reads r hr

/-- The size field is that of the scan. -/
theorem readSizeField_eq (bs : List UInt8) (n i shift size : Nat) :
    (readSizeField bs n i shift size).2 = readLeb128 bs n i shift size := by
  induction n generalizing i shift size with
  | zero => rfl
  | succ n ih =>
      rw [readSizeField, readLeb128]
      by_cases hend : i ≥ bs.length
      · rw [if_pos hend, List.getElem?_eq_none hend]
      · have hget : bs[i]? = some (bs.getD i 0) := by
          have hlt : i < bs.length := Nat.lt_of_not_ge hend
          rw [List.getElem?_eq_getElem hlt, List.getD_eq_getElem _ _ hlt]
        rw [if_neg hend, hget]
        dsimp only
        split_ifs
        · rfl
        · exact ih _ _ _

theorem readPayloadSize_spec (p : Packet) (hasSizeField : UInt8) {i : Nat}
    (hi : i ≤ p.bytes.length) :
    (∀ r ∈ (readPayloadSize p.bytes hasSizeField i).1, r < p.bytes.length) ∧
      i ≤ (readPayloadSize p.bytes hasSizeField i).2.1 ∧
      (readPayloadSize p.bytes hasSizeField i).2.1 + (readPayloadSize p.bytes hasSizeField i).2.2 <
        2 ^ 64 := by
  have hfits := p.fits
  rw [readPayloadSize]
  split_ifs
  · have hread := readSizeField_spec (n := 8) hi (Nat.le_refl 56) (Nat.one_pos : 0 < 2 ^ 0)
    refine ⟨hread.reads, hread.le, ?_⟩
    have hinside := hread.inside
    have hsmall := hread.small
    omega
  · exact ⟨nofun, Nat.le_refl _, by dsimp only; omega⟩

/-- A round reads inside the packet, and what it finds, or where it goes on, is inside. -/
structure TurnInside (bs : List UInt8) (start : Nat) (answer : List Nat × Turn) : Prop where
  reads : ∀ r ∈ answer.1, r < bs.length
  found : ∀ obu, answer.2 = .stop (.ok (some obu)) →
    obu.start = start ∧ start < obu.payload ∧ obu.payload + obu.payloadSize ≤ bs.length
  moves : ∀ j, answer.2 = .next j → start < j ∧ j ≤ bs.length

theorem readPayloadSize_eq (bs : List UInt8) (hasSizeField : UInt8) (i : Nat) :
    (readPayloadSize bs hasSizeField i).2 =
      if hasSizeField ≠ 0 then readLeb128 bs 8 i 0 0 else (i, bs.length - i) := by
  rw [readPayloadSize]
  split_ifs
  · exact readSizeField_eq bs 8 i 0 0
  · rfl

theorem addSize_eq {a b : Nat} (h : a + b < 2 ^ 64) : addSize a b = a + b := Nat.mod_eq_of_lt h

theorem turn_inside (p : Packet) (start : Nat) : TurnInside p.bytes start (turn p.bytes start) := by
  rw [turn]
  by_cases hstart : start < p.bytes.length
  · rw [if_pos hstart, obuTurn]
    dsimp only
    generalize (p.bytes.getD start 0 >>> 2) &&& 0x1 = extensionFlag
    by_cases hext : extensionFlag ≠ 0 ∧ start + 1 ≥ p.bytes.length
    · rw [if_pos hext]
      refine ⟨fun r hr => ?_, nofun, nofun⟩
      rwa [List.mem_singleton.mp hr]
    rw [if_neg hext]
    have hbehind : start < (if extensionFlag ≠ 0 then start + 1 + 1 else start + 1) ∧
        (if extensionFlag ≠ 0 then start + 1 + 1 else start + 1) ≤ p.bytes.length := by
      split_ifs with hflag
      · exact ⟨by omega, Nat.lt_of_not_ge fun h => hext ⟨hflag, h⟩⟩
      · exact ⟨by omega, hstart⟩
    generalize (if extensionFlag ≠ 0 then start + 1 + 1 else start + 1) = i at hbehind
    have hsize := readPayloadSize_spec p ((p.bytes.getD start 0 >>> 1) &&& 0x1) hbehind.2
    generalize readPayloadSize p.bytes ((p.bytes.getD start 0 >>> 1) &&& 0x1) i = answer at hsize
    obtain ⟨reads, j, payloadSize⟩ := answer
    obtain ⟨hreads, hle, hsum⟩ := hsize
    dsimp only at hreads hle hsum ⊢
    rw [addSize_eq hsum]
    refine ⟨fun r hr => ?_, ?_, ?_⟩
    · rcases List.mem_cons.mp hr with rfl | hr
      · exact hstart
      · exact hreads r hr
    · intro obu hobu
      dsimp only at hobu
      split_ifs at hobu with htype hend hend
      · exact absurd hobu nofun
      · obtain rfl := Option.some.inj (Except.ok.inj (Turn.stop.inj hobu))
        exact ⟨rfl, Nat.lt_of_lt_of_le hbehind.1 hle, Nat.le_of_not_gt hend⟩
      · exact absurd hobu nofun
    · intro next hnext
      dsimp only at hnext
      split_ifs at hnext with htype hend hend
      obtain rfl := Turn.next.inj hnext
      exact ⟨by omega, Nat.le_of_not_gt hend⟩
  · rw [if_neg hstart]
    exact ⟨nofun, nofun, nofun⟩

/-- A round of the scan. -/
theorem scanObus_turn (p : Packet) (n start : Nat) :
    scanObus p.bytes (n + 1) start =
      match (turn p.bytes start).2 with
      | .stop result => result
      | .next j => scanObus p.bytes n j := by
  rw [turn, scanObus]
  by_cases hstart : start < p.bytes.length
  · have hget : p.bytes[start]? = some (p.bytes.getD start 0) := by
      rw [List.getElem?_eq_getElem hstart, List.getD_eq_getElem _ _ hstart]
    rw [if_pos hstart, hget, obuTurn]
    dsimp only
    generalize (p.bytes.getD start 0 >>> 2) &&& 0x1 = extensionFlag
    by_cases hext : extensionFlag ≠ 0 ∧ start + 1 ≥ p.bytes.length
    · rw [if_pos hext, if_pos hext]
    rw [if_neg hext, if_neg hext]
    have hbehind : (if extensionFlag ≠ 0 then start + 1 + 1 else start + 1) ≤ p.bytes.length := by
      split_ifs with hflag
      · exact Nat.lt_of_not_ge fun h => hext ⟨hflag, h⟩
      · exact hstart
    generalize (if extensionFlag ≠ 0 then start + 1 + 1 else start + 1) = i at hbehind
    obtain ⟨-, -, hsum⟩ := readPayloadSize_spec p ((p.bytes.getD start 0 >>> 1) &&& 0x1) hbehind
    rw [← readPayloadSize_eq]
    generalize readPayloadSize p.bytes ((p.bytes.getD start 0 >>> 1) &&& 0x1) i = answer at hsum
    obtain ⟨reads, j, payloadSize⟩ := answer
    dsimp only at hsum ⊢
    rw [addSize_eq hsum]
    split_ifs <;> rfl
  · rw [if_neg hstart, List.getElem?_eq_none (Nat.le_of_not_lt hstart)]

/-! ## The scan -/

/-- The loop, from `i` on: its reads, and what it finds. -/
def scan (p : Packet) (i : Nat) : List Nat × Except String (Option Obu) :=
  match _ : turn p.bytes i with
  | (reads, .stop result) => (reads, result)
  | (reads, .next j) =>
      let (behind, result) := scan p j
      (reads ++ behind, result)
termination_by p.bytes.length - i
decreasing_by
  rename_i hturn
  obtain ⟨hlt, hle⟩ := (turn_inside p i).moves j (by rw [hturn])
  omega

theorem scan_reads (p : Packet) (i : Nat) : ∀ r ∈ (scan p i).1, r < p.bytes.length := by
  fun_induction scan p i with
  | case1 i reads result hturn =>
      have hreads := (turn_inside p i).reads
      rwa [hturn] at hreads
  | case2 i reads j hturn behind result hscan ih =>
      have hreads := (turn_inside p i).reads
      rw [hturn] at hreads
      rw [hscan] at ih
      intro r hr
      exact (List.mem_append.mp hr).elim (hreads r) (ih r)

theorem scan_found (p : Packet) (i : Nat) {obu : Obu} (h : (scan p i).2 = .ok (some obu)) :
    obu.start < obu.payload ∧ obu.payload + obu.payloadSize ≤ p.bytes.length := by
  fun_induction scan p i with
  | case1 i reads result hturn =>
      have hfound : (turn p.bytes i).2 = .stop (.ok (some obu)) := by
        rw [hturn]
        exact congrArg Turn.stop h
      obtain ⟨rfl, hlt, hle⟩ := (turn_inside p i).found obu hfound
      exact ⟨hlt, hle⟩
  | case2 i reads j hturn behind result hscan ih =>
      rw [hscan] at ih
      exact ih h

/-- The scan is that of the model with as many rounds as there are bytes left. -/
theorem scan_eq (p : Packet) (i n : Nat) (h : p.bytes.length ≤ i + n) :
    (scan p i).2 = scanObus p.bytes n i := by
  fun_induction scan p i generalizing n with
  | case1 i reads result hturn =>
      cases n with
      | zero =>
          have hend : ¬ i < p.bytes.length := Nat.not_lt.mpr h
          rw [turn, if_neg hend] at hturn
          cases hturn
          rfl
      | succ n => rw [scanObus_turn, hturn]
  | case2 i reads j hturn behind result hscan ih =>
      obtain ⟨hlt, hle⟩ := (turn_inside p i).moves j (by rw [hturn])
      obtain ⟨n, rfl⟩ : ∃ k, n = k + 1 := ⟨n - 1, by omega⟩
      rw [scanObus_turn, hturn]
      rw [hscan] at ih
      exact ih n (by omega)

/-! ## Serialised OBUs -/

/-- Every OBU is right by itself, and all but the last have a size field. -/
structure SerializedStream (obus : List SerializedObu) : Prop where
  wellFormed : ∀ o ∈ obus, o.WellFormed
  sized : ∀ o ∈ obus.dropLast, o.size ≠ none

def isSequenceHeader (o : SerializedObu) : Bool := o.obuType = 1

namespace SerializedStream

variable {o : SerializedObu} {obus : List SerializedObu}

theorem tail (h : SerializedStream (o :: obus)) : SerializedStream obus where
  wellFormed x hx := h.wellFormed x (List.mem_cons_of_mem _ hx)
  sized x hx := by
    have hne : obus ≠ [] := by
      rintro rfl
      exact absurd hx List.not_mem_nil
    refine h.sized x ?_
    rw [List.dropLast_cons_of_ne_nil hne]
    exact List.mem_cons_of_mem _ hx

/-- An OBU without a size field is the last. -/
theorem last (h : SerializedStream (o :: obus)) (hsize : o.size = none) : obus = [] := by
  by_contra hne
  refine h.sized o ?_ hsize
  rw [List.dropLast_cons_of_ne_nil hne]
  exact List.mem_cons_self

end SerializedStream

theorem scanObus_none {bs : List UInt8} {obus : List SerializedObu} (h : SerializedStream obus)
    (hother : ∀ o ∈ obus, o.obuType ≠ 1) {start : Nat} (hdrop : bs.drop start = obuStream obus)
    (n : Nat) : scanObus bs n start = .ok none := by
  induction obus generalizing start n with
  | nil =>
      cases n with
      | zero => rfl
      | succ n =>
          have hend : bs.length ≤ start := List.drop_eq_nil_iff.mp hdrop
          rw [scanObus, List.getElem?_eq_none hend]
  | cons o obus ih =>
      cases n with
      | zero => rfl
      | succ n =>
          have hcons : obuStream (o :: obus) = o.bytes ++ obuStream obus := rfl
          have hlast : o.size = none → obuStream obus = [] := fun hsize => by
            rw [h.last hsize]
            rfl
          rw [hcons] at hdrop
          rw [scanObus_obu (h.wellFormed o List.mem_cons_self) hdrop hlast,
            if_neg (hother o List.mem_cons_self)]
          exact ih h.tail (fun x hx => hother x (List.mem_cons_of_mem _ hx))
            (drop_add_length hdrop) n

theorem deriveAv1CodecPrivate_none {obus : List SerializedObu} (h : SerializedStream obus)
    (hother : ∀ o ∈ obus, o.obuType ≠ 1) :
    ∃ reason, deriveAv1CodecPrivate (obuStream obus) = .error reason := by
  rw [deriveAv1CodecPrivate]
  split_ifs
  · exact ⟨_, rfl⟩
  · rw [scanObus_none h hother (List.drop_zero) _]
    exact ⟨_, rfl⟩

/-- The OBUs in front of the first sequence header, and what may stand behind it. -/
theorem split_of_find {obus : List SerializedObu} (h : SerializedStream obus) {o : SerializedObu}
    (hfind : obus.find? isSequenceHeader = some o) :
    ∃ before after, obus = before ++ o :: after ∧ (∀ x ∈ before, x.Skipped) ∧
      o.WellFormed ∧ o.obuType = 1 ∧ (o.size = none → after = []) := by
  induction obus with
  | nil => exact absurd hfind nofun
  | cons x obus ih =>
      have hx := h.wellFormed x List.mem_cons_self
      rw [List.find?_cons] at hfind
      cases htype : isSequenceHeader x with
      | true =>
          rw [htype] at hfind
          obtain rfl := Option.some.inj hfind
          exact ⟨[], obus, rfl, nofun, hx, of_decide_eq_true htype, h.last⟩
      | false =>
          rw [htype] at hfind
          obtain ⟨before, after, rfl, hbefore, ho⟩ := ih h.tail hfind
          refine ⟨x :: before, after, rfl, fun y hy => ?_, ho⟩
          rcases List.mem_cons.mp hy with rfl | hy
          · refine ⟨hx, fun hsize => ?_, of_decide_eq_false htype⟩
            exact absurd (h.last hsize) (List.append_ne_nil_of_right_ne_nil _ (List.cons_ne_nil _ _))
          · exact hbefore y hy

/-- The scan ends, and reads and finds inside the packet only; and of serialised OBUs the record ends
    with the bytes of the first sequence header, if there is one and it is one that is parsed. -/
theorem obu_scan :
    (∀ p : Packet, (∀ r ∈ (scan p 0).1, r < p.bytes.length) ∧
      (scan p 0).2 = scanObus p.bytes p.bytes.length 0 ∧
      ∀ obu, (scan p 0).2 = .ok (some obu) →
        obu.start < obu.payload ∧ obu.payload + obu.payloadSize ≤ p.bytes.length) ∧
    ∀ obus, SerializedStream obus →
      match obus.find? isSequenceHeader with
      | some o =>
          (∀ record, deriveAv1CodecPrivate (obuStream obus) = .ok record →
            record.drop 4 = o.bytes) ∧
          ((∃ record, deriveAv1CodecPrivate (obuStream obus) = .ok record) ↔
            ∃ parsed, parseSequenceHeaderObu { data := o.payload } = .ok parsed)
      | none => ∃ reason, deriveAv1CodecPrivate (obuStream obus) = .error reason := by
  refine ⟨fun p => ⟨scan_reads p 0, scan_eq p 0 _ (by omega), fun obu => scan_found p 0⟩,
    fun obus h => ?_⟩
  cases hfind : obus.find? isSequenceHeader with
  | none =>
      refine deriveAv1CodecPrivate_none h fun o ho htype => ?_
      exact List.find?_eq_none.mp hfind o ho (decide_eq_true htype)
  | some o =>
      obtain ⟨before, after, rfl, hbefore, hformed, htype, hlast⟩ := split_of_find h hfind
      have hstream : obuStream (before ++ o :: after) =
          obuStream before ++ (o.bytes ++ obuStream after) := by
        simp only [obuStream, List.flatMap_append, List.flatMap_cons]
      have htail : o.size = none → obuStream after = [] := fun hsize => by
        rw [hlast hsize]
        rfl
      dsimp only
      rw [hstream, deriveAv1CodecPrivate_stream hbefore hformed htype htail]
      cases parseSequenceHeaderObu { data := o.payload } with
      | error reason => exact ⟨(by intros; contradiction), iff_of_false (by rintro ⟨_, ⟨⟩⟩) (by rintro ⟨_, ⟨⟩⟩)⟩
      | ok parsed =>
          refine ⟨fun record hrecord => ?_, iff_of_true ⟨_, rfl⟩ ⟨_, rfl⟩⟩
          rw [← Except.ok.inj hrecord]
          rfl

end Exosnap.Engine.CodecPrivate
