/-
  How the bytes of a client become request lines (`ServeLoop`), for the reads of one connection.

  The lines of a byte stream and what is to become of them (`framing`) know nothing of reads. The
  loop measures what it has gathered before it cuts lines out of it, so that the two agree exactly if
  no read leaves more than `kMaxRequestBytes` bytes there, unless these begin with a line that is too
  long (`serveLoop_iff`). Whether the answer to a request closes the connection is a parameter, which
  may look at all that was extracted.

  On the machine of the two threads the lines on record and those still gathered are the lines of
  what was read (`lines_of_run`).
-/
import Exosnap.Control.ControlServer
import Exosnap.Lib.LineCut
import Mathlib.Data.List.Induction
import Mathlib.Data.List.TakeDrop
import Mathlib.Data.List.TakeWhile

namespace Exosnap.Control

abbrev Bytes := List UInt8

def isNewline (byte : UInt8) : Bool := byte == 10

def chopReturn (line : Bytes) : Bytes := if line.getLast? = some 13 then line.dropLast else line

/-- The lines that are complete, without their line ends. -/
def linesOf (bytes : Bytes) : List Bytes := (LineCut.cut isNewline bytes).1.map chopReturn

/-- The bytes behind the last line end. -/
def restOf (bytes : Bytes) : Bytes := (LineCut.cut isNewline bytes).2

/-! ## The loop -/

theorem takeLine_eq (accumulator : Bytes) :
    (takeLine accumulator = none ∧ ∀ byte ∈ accumulator, isNewline byte = false) ∨
      ∃ line rest, takeLine accumulator = some (chopReturn line, rest) ∧
        accumulator = line ++ 10 :: rest ∧ ∀ byte ∈ line, isNewline byte = false := by
  unfold takeLine
  rw [List.span_eq_takeWhile_dropWhile]
  have hline : ∀ byte ∈ accumulator.takeWhile (· != 10), isNewline byte = false := fun byte h => by
    simpa [isNewline] using List.mem_takeWhile_imp h
  have hsplit : accumulator.takeWhile (· != 10) ++ accumulator.dropWhile (· != 10) = accumulator :=
    List.takeWhile_append_dropWhile
  cases hrest : accumulator.dropWhile (· != 10) with
  | nil =>
    rw [hrest, List.append_nil] at hsplit
    exact .inl ⟨rfl, hsplit ▸ hline⟩
  | cons byte rest =>
    have hbyte : byte = 10 := by
      have hhead := List.head?_dropWhile_not (· != (10 : UInt8)) accumulator
      rw [hrest] at hhead
      simpa using hhead
    rw [hrest, hbyte] at hsplit
    exact .inr ⟨_, rest, rfl, hsplit.symm, hline⟩

theorem length_lt_of_takeLine {accumulator line rest : Bytes}
    (h : takeLine accumulator = some (line, rest)) : rest.length < accumulator.length := by
  obtain ⟨hnone, -⟩ | ⟨raw, tail, hsome, hsplit, -⟩ := takeLine_eq accumulator
  · cases hnone.symm.trans h
  · obtain ⟨-, rfl⟩ := Prod.mk.inj (Option.some.inj (hsome.symm.trans h))
    rw [hsplit, List.length_append, List.length_cons]
    omega

/-- What is extracted: a request line, or a refusal of one that is too long. -/
inductive Frame where
  | request (line : Bytes)
  | tooLarge
  deriving DecidableEq

section
variable (closes : List Frame → Bool)

/-- The line loop: what is extracted, whether the connection closes, and what is left. -/
def lineLoop (served : List Frame) (accumulator : Bytes) : List Frame × Bool × Bytes :=
  match h : takeLine accumulator with
  | none => (served, false, accumulator)
  | some (line, rest) =>
      have := length_lt_of_takeLine h
      if line.all isSpaceByte then lineLoop served rest
      else if kMaxRequestBytes < line.length then (served ++ [.tooLarge], true, rest)
      else if closes (served ++ [.request line]) then (served ++ [.request line], true, rest)
      else lineLoop (served ++ [.request line]) rest
  termination_by accumulator.length

/-- The reads of a connection: what is extracted, and whether it was closed. -/
def serveLoop (served : List Frame) (accumulator : Bytes) : List Bytes → List Frame × Bool
  | [] => (served, false)
  | chunk :: chunks =>
      let accumulator := accumulator ++ chunk
      if accumulator.length > kMaxRequestBytes then (served ++ [.tooLarge], true)
      else
        match lineLoop closes served accumulator with
        | (served, true, _) => (served, true)
        | (served, false, rest) => serveLoop served rest chunks

/-! ## What is to be extracted -/

def answerLines (served : List Frame) : List Bytes → List Frame × Bool
  | [] => (served, false)
  | line :: lines =>
      if kMaxRequestBytes < line.length then (served ++ [.tooLarge], true)
      else if line.all isSpaceByte then answerLines served lines
      else if closes (served ++ [.request line]) then (served ++ [.request line], true)
      else answerLines (served ++ [.request line]) lines

/-- What a stream of bytes is to give behind `served`: its lines up to the first one that closes the
    connection, and the rest of it if that is too long already. -/
def framing (served : List Frame) (bytes : Bytes) : List Frame × Bool :=
  match answerLines closes served (linesOf bytes) with
  | (served, true) => (served, true)
  | (served, false) =>
      if kMaxRequestBytes < (chopReturn (restOf bytes)).length then (served ++ [.tooLarge], true)
      else (served, false)

end

/-- A line that is not passed over. -/
def counts (line : Bytes) : Bool := !line.all isSpaceByte || decide (kMaxRequestBytes < line.length)

/-- The first line that is not passed over is too long. -/
def StartsTooLarge (bytes : Bytes) : Prop :=
  ∃ line ∈ (linesOf bytes ++ [chopReturn (restOf bytes)]).find? counts,
    kMaxRequestBytes < line.length

variable {closes : List Frame → Bool} {served : List Frame}

/-! ## Lines -/

theorem linesOf_append (l m : Bytes) : linesOf (l ++ m) = linesOf l ++ linesOf (restOf l ++ m) := by
  unfold linesOf restOf
  rw [LineCut.cut_append, List.map_append]

theorem restOf_append (l m : Bytes) : restOf (l ++ m) = restOf (restOf l ++ m) := by
  unfold restOf
  rw [LineCut.cut_append]

theorem restOf_restOf (bytes : Bytes) : restOf (restOf bytes) = restOf bytes := by
  unfold restOf
  rw [LineCut.cut_rest]

theorem linesOf_restOf (bytes : Bytes) : linesOf (restOf bytes) = [] := by
  unfold linesOf restOf
  rw [LineCut.cut_rest, List.map_nil]

theorem length_chopReturn_le (line : Bytes) : (chopReturn line).length ≤ line.length := by
  unfold chopReturn
  split
  · rw [List.length_dropLast]
    omega
  · exact Nat.le_refl _

theorem length_restOf_le (bytes : Bytes) : (restOf bytes).length ≤ bytes.length :=
  (LineCut.length_cut_le bytes).1

theorem length_le_of_mem_linesOf {bytes line : Bytes} (h : line ∈ linesOf bytes) :
    line.length ≤ bytes.length := by
  obtain ⟨raw, hraw, rfl⟩ := List.mem_map.mp h
  exact (length_chopReturn_le raw).trans ((LineCut.length_cut_le bytes).2 raw hraw)

theorem linesOf_of_forall {bytes : Bytes} (h : ∀ byte ∈ bytes, isNewline byte = false) :
    linesOf bytes = [] ∧ restOf bytes = bytes := by
  unfold linesOf restOf
  rw [LineCut.cut_of_forall h]
  exact ⟨rfl, rfl⟩

theorem linesOf_line {line : Bytes} (h : ∀ byte ∈ line, isNewline byte = false) (rest : Bytes) :
    linesOf (line ++ 10 :: rest) = chopReturn line :: linesOf rest ∧
      restOf (line ++ 10 :: rest) = restOf rest := by
  unfold linesOf restOf
  rw [LineCut.cut_line h rfl]
  exact ⟨rfl, rfl⟩

/-- Where the lines are short enough the line loop does what is to be done with them. -/
theorem lineLoop_eq (closes : List Frame → Bool) (served : List Frame) (accumulator : Bytes)
    (h : ∀ line ∈ linesOf accumulator, line.length ≤ kMaxRequestBytes) :
    ∃ rest, lineLoop closes served accumulator =
        ((answerLines closes served (linesOf accumulator)).1,
          (answerLines closes served (linesOf accumulator)).2, rest) ∧
      ((answerLines closes served (linesOf accumulator)).2 = false → rest = restOf accumulator) := by
  induction hn : accumulator.length using Nat.strong_induction_on
    generalizing served accumulator with
  | _ n ih =>
    subst hn
    rw [lineLoop]
    obtain ⟨hnone, hbytes⟩ | ⟨raw, rest, hsome, hsplit, hraw⟩ := takeLine_eq accumulator
    · obtain ⟨hlines, hrest⟩ := linesOf_of_forall hbytes
      rw [hlines, hrest]
      split
      · exact ⟨accumulator, rfl, fun _ => rfl⟩
      next hsome => cases hnone.symm.trans hsome
    · obtain ⟨hlines, hrest⟩ := linesOf_line hraw rest
      have hlength := length_lt_of_takeLine hsome
      rw [← hsplit] at hlines hrest
      rw [hlines] at h ⊢
      obtain ⟨hshort, hmore⟩ := List.forall_mem_cons.mp h
      rw [hrest, answerLines, if_neg (Nat.not_lt.mpr hshort)]
      split
      next hnone => cases hsome.symm.trans hnone
      next line rest' hsome' =>
        obtain ⟨rfl, rfl⟩ := Prod.mk.inj (Option.some.inj (hsome.symm.trans hsome'))
        dsimp only
        rw [if_neg (Nat.not_lt.mpr hshort)]
        split
        · exact ih rest.length hlength served rest hmore rfl
        split
        · exact ⟨rest, rfl, nofun⟩
        · exact ih rest.length hlength _ rest hmore rfl

theorem answerLines_append (served : List Frame) (lines more : List Bytes) :
    answerLines closes served (lines ++ more) =
      match answerLines closes served lines with
      | (served, true) => (served, true)
      | (served, false) => answerLines closes served more := by
  induction lines generalizing served with
  | nil => rfl
  | cons line lines ih =>
    simp only [List.cons_append, answerLines]
    split
    · rfl
    split
    · exact ih served
    split
    · rfl
    · exact ih _

/-- What comes behind a piece of the stream is looked at with the rest of it in front. -/
theorem framing_append (served : List Frame) (bytes more : Bytes) :
    framing closes served (bytes ++ more) =
      match answerLines closes served (linesOf bytes) with
      | (served, true) => (served, true)
      | (served, false) => framing closes served (restOf bytes ++ more) := by
  unfold framing
  rw [linesOf_append, answerLines_append, restOf_append]
  cases answerLines closes served (linesOf bytes) with
  | mk served closed => cases closed <;> rfl

theorem framing_short (served : List Frame) {bytes : Bytes} (hlines : linesOf bytes = [])
    (h : (restOf bytes).length ≤ kMaxRequestBytes) :
    framing closes served bytes = (served, false) := by
  unfold framing
  rw [hlines, answerLines]
  exact if_neg (by have := length_chopReturn_le (restOf bytes); omega)

/-- What was extracted stays. -/
theorem answerLines_extends (served : List Frame) (lines : List Bytes) :
    served <+: (answerLines closes served lines).1 := by
  induction lines generalizing served with
  | nil => exact List.prefix_rfl
  | cons line lines ih =>
    rw [answerLines]
    split
    · exact List.prefix_append _ _
    split
    · exact ih served
    split
    · exact List.prefix_append _ _
    · exact (List.prefix_append _ _).trans (ih _)

theorem framing_extends (served : List Frame) (bytes : Bytes) :
    (answerLines closes served (linesOf bytes)).1 <+: (framing closes served bytes).1 := by
  unfold framing
  split
  next heq =>
    rewrite [heq]
    exact List.prefix_rfl
  next heq =>
    rewrite [heq]
    split
    · exact List.prefix_append _ _
    · exact List.prefix_rfl

/-- Lines are passed over up to the first one that counts. -/
theorem answerLines_eq (closes : List Frame → Bool) (served : List Frame) (lines : List Bytes) :
    (lines.find? counts = none ∧ answerLines closes served lines = (served, false)) ∨
      ∃ line, lines.find? counts = some line ∧
        (kMaxRequestBytes < line.length ∧
            answerLines closes served lines = (served ++ [.tooLarge], true) ∨
          line.length ≤ kMaxRequestBytes ∧
            served ++ [.request line] <+: (answerLines closes served lines).1) := by
  induction lines with
  | nil => exact .inl ⟨rfl, rfl⟩
  | cons line lines ih =>
    rw [answerLines, List.find?_cons]
    by_cases hlong : kMaxRequestBytes < line.length
    · rw [if_pos hlong, show counts line = true by simp [counts, hlong]]
      exact .inr ⟨line, rfl, .inl ⟨hlong, rfl⟩⟩
    rw [if_neg hlong]
    by_cases hblank : line.all isSpaceByte = true
    · rw [if_pos hblank, show counts line = false by simp only [counts, hblank, hlong]; rfl]
      exact ih
    · rw [if_neg hblank, show counts line = true by simp [counts, hblank]]
      refine .inr ⟨line, rfl, .inr ⟨Nat.le_of_not_lt hlong, ?_⟩⟩
      split
      · exact List.prefix_rfl
      · exact answerLines_extends _ lines

theorem framing_eq_tooLarge_iff (served : List Frame) (bytes : Bytes) :
    framing closes served bytes = (served ++ [.tooLarge], true) ↔ StartsTooLarge bytes := by
  unfold StartsTooLarge
  rw [List.find?_append]
  obtain ⟨hnone, hanswer⟩ | ⟨line, hsome, hanswer⟩ := answerLines_eq closes served (linesOf bytes)
  · rw [framing, hanswer, hnone, Option.none_or, List.find?_singleton]
    by_cases hlong : kMaxRequestBytes < (chopReturn (restOf bytes)).length
    · rw [show counts (chopReturn (restOf bytes)) = true by simp [counts, hlong]]
      simp [hlong]
    · dsimp only
      rw [if_neg hlong]
      refine iff_of_false (fun h => nomatch (Prod.mk.inj h).2) ?_
      rintro ⟨line, hline, hlarge⟩
      split at hline
      · cases hline
        exact hlong hlarge
      · cases hline
  · rw [hsome, Option.some_or]
    obtain ⟨hlong, hanswer⟩ | ⟨hshort, hextends⟩ := hanswer
    · rw [framing, hanswer]
      exact iff_of_true rfl ⟨line, rfl, hlong⟩
    · refine iff_of_false (fun h => ?_) ?_
      · have := hextends.trans (framing_extends served bytes)
        rw [h, List.prefix_append_right_inj] at this
        cases (List.cons_prefix_cons.mp this).1
      · rintro ⟨other, hother, hlong⟩
        cases hother
        omega

theorem answerLines_sound (closes : List Frame → Bool) (served : List Frame) (lines : List Bytes) :
    ∀ frame ∈ (answerLines closes served lines).1, frame ∈ served ∨
      (frame = .tooLarge ∧ (answerLines closes served lines).2 = true ∧
        ∃ line ∈ lines, kMaxRequestBytes < line.length) ∨
      ∃ line ∈ lines, frame = .request line ∧ line.length ≤ kMaxRequestBytes := by
  induction lines generalizing served with
  | nil => exact fun frame hframe => .inl hframe
  | cons line lines ih =>
    intro frame hframe
    rw [answerLines] at hframe ⊢
    by_cases hlong : kMaxRequestBytes < line.length
    · rw [if_pos hlong] at hframe ⊢
      obtain hframe | hframe := List.mem_append.mp hframe
      · exact .inl hframe
      · exact .inr (.inl ⟨List.mem_singleton.mp hframe, rfl, line, List.mem_cons_self, hlong⟩)
    rw [if_neg hlong] at hframe ⊢
    have hrequest : ∀ {frame}, frame ∈ served ++ [.request line] → frame ∈ served ∨
        ∃ l ∈ line :: lines, frame = .request l ∧ l.length ≤ kMaxRequestBytes := fun hframe =>
      (List.mem_append.mp hframe).imp_right fun hframe =>
        ⟨line, List.mem_cons_self, List.mem_singleton.mp hframe, Nat.le_of_not_lt hlong⟩
    have hlater : ∀ {served}, frame ∈ (answerLines closes served lines).1 → frame ∈ served ∨
        (frame = .tooLarge ∧ (answerLines closes served lines).2 = true ∧
          ∃ l ∈ line :: lines, kMaxRequestBytes < l.length) ∨
        ∃ l ∈ line :: lines, frame = .request l ∧ l.length ≤ kMaxRequestBytes :=
        fun {served} hframe => by
      obtain hserved | ⟨hframe, hclosed, l, hl, hlong⟩ | ⟨l, hl, hframe⟩ := ih served frame hframe
      · exact .inl hserved
      · exact .inr (.inl ⟨hframe, hclosed, l, List.mem_cons_of_mem line hl, hlong⟩)
      · exact .inr (.inr ⟨l, List.mem_cons_of_mem line hl, hframe⟩)
    split at hframe
    next hblank =>
      rw [if_pos hblank]
      exact hlater hframe
    next hblank =>
      rw [if_neg hblank]
      split at hframe
      next hclosed =>
        rw [if_pos hclosed]
        exact (hrequest hframe).imp_right .inr
      next hclosed =>
        rw [if_neg hclosed]
        obtain hframe | hframe := hlater hframe
        · exact (hrequest hframe).imp_right .inr
        · exact .inr hframe

/-- Nothing is refused but a line that is too long, and the connection closes behind it; what is
    requested is a line that was sent, of no more than the limit. -/
theorem framing_sound (served : List Frame) (bytes : Bytes) :
    ∀ frame ∈ (framing closes served bytes).1, frame ∈ served ∨
      (frame = .tooLarge ∧ (framing closes served bytes).2 = true ∧
        ∃ line ∈ linesOf bytes ++ [chopReturn (restOf bytes)], kMaxRequestBytes < line.length) ∨
      ∃ line ∈ linesOf bytes, frame = .request line ∧ line.length ≤ kMaxRequestBytes := by
  intro frame hframe
  have hsound := answerLines_sound closes served (linesOf bytes) frame
  have hopen : ∀ {after}, answerLines closes served (linesOf bytes) = (after, false) →
      frame ∈ after → frame ∈ served ∨
        ∃ line ∈ linesOf bytes, frame = .request line ∧ line.length ≤ kMaxRequestBytes :=
      fun {after} hafter hframe => by
    rw [hafter] at hsound
    obtain hserved | ⟨-, hclosed, -⟩ | hrequest := hsound hframe
    · exact .inl hserved
    · cases hclosed
    · exact .inr hrequest
  unfold framing at hframe ⊢
  cases hafter : answerLines closes served (linesOf bytes) with
  | mk after closed =>
    rw [hafter] at hframe
    cases closed with
    | true =>
      rw [hafter] at hsound
      obtain hserved | ⟨htoo, -, line, hline, hlong⟩ | hrequest := hsound hframe
      · exact .inl hserved
      · exact .inr (.inl ⟨htoo, rfl, line, List.mem_append_left _ hline, hlong⟩)
      · exact .inr (.inr hrequest)
    | false =>
      dsimp only at hframe ⊢
      split at hframe
      next hlong =>
        rw [if_pos hlong]
        obtain hframe | hframe := List.mem_append.mp hframe
        · exact (hopen hafter hframe).imp_right .inr
        · exact .inr (.inl ⟨List.mem_singleton.mp hframe, rfl, _, by simp, hlong⟩)
      next hlong =>
        rw [if_neg hlong]
        exact (hopen hafter hframe).imp_right .inr

/-! ## Reads -/

/-- No read behind `bytes` leaves too much in the accumulator while the connection is open, unless
    that is the start of a line that is too long. -/
def Fits (closes : List Frame → Bool) (served : List Frame) (bytes : Bytes) (chunks : List Bytes) :
    Prop :=
  ∀ before chunk later, chunks = before ++ chunk :: later →
    (framing closes served (bytes ++ before.flatten)).2 = false →
      (restOf (bytes ++ before.flatten) ++ chunk).length ≤ kMaxRequestBytes ∨
        StartsTooLarge (restOf (bytes ++ before.flatten) ++ (chunk ++ later.flatten))

theorem fits_cons {bytes chunk : Bytes} {chunks : List Bytes}
    (hopen : (framing closes served bytes).2 = false) :
    Fits closes served bytes (chunk :: chunks) ↔
      ((restOf bytes ++ chunk).length ≤ kMaxRequestBytes ∨
          StartsTooLarge (restOf bytes ++ (chunk ++ chunks.flatten))) ∧
        Fits closes served (bytes ++ chunk) chunks := by
  constructor
  · intro h
    refine ⟨by simpa [hopen] using h [] chunk chunks rfl, fun before c later hsplit hstill => ?_⟩
    have := h (chunk :: before) c later (by rw [hsplit, List.cons_append])
    rw [List.flatten_cons, ← List.append_assoc] at this
    exact this hstill
  · rintro ⟨hhead, htail⟩ before c later hsplit hstill
    cases before with
    | nil =>
      obtain ⟨rfl, rfl⟩ := List.cons.inj hsplit
      simpa using hhead
    | cons first before =>
      obtain ⟨rfl, rfl⟩ := List.cons.inj hsplit
      rw [List.flatten_cons, ← List.append_assoc] at hstill ⊢
      exact htail before c later rfl hstill

/-- The lines that are answered are behind us. -/
theorem fits_restOf {bytes : Bytes} {chunks : List Bytes} {after : List Frame}
    (h : answerLines closes served (linesOf bytes) = (after, false)) :
    Fits closes served bytes chunks ↔ Fits closes after (restOf bytes) chunks := by
  have hframing : ∀ more, framing closes served (bytes ++ more) =
      framing closes after (restOf bytes ++ more) := fun more => by
    rw [framing_append, h]
  unfold Fits
  simp only [hframing, restOf_append bytes]

/-- A line that is too long is found at the start of what follows any part of the stream that does
    not close the connection. -/
theorem startsTooLarge_restOf (closes : List Frame → Bool) (served : List Frame)
    {bytes more : Bytes} (h : StartsTooLarge (bytes ++ more))
    (hopen : (framing closes served bytes).2 = false) : StartsTooLarge (restOf bytes ++ more) := by
  obtain ⟨line, hline, hlong⟩ := h
  rw [linesOf_append, restOf_append, List.append_assoc, List.find?_append] at hline
  obtain ⟨hnone, -⟩ | ⟨first, hfirst, hanswer⟩ := answerLines_eq closes served (linesOf bytes)
  · rw [hnone, Option.none_or] at hline
    exact ⟨line, hline, hlong⟩
  · rw [hfirst, Option.some_or] at hline
    cases hline
    obtain ⟨-, hanswer⟩ | ⟨hshort, -⟩ := hanswer
    · rw [framing, hanswer] at hopen
      cases hopen
    · omega

/-- A read that gathers no more than the limit: the lines in it are answered. -/
theorem serveLoop_cons {accumulator chunk : Bytes} {chunks : List Bytes}
    (h : (accumulator ++ chunk).length ≤ kMaxRequestBytes) :
    serveLoop closes served accumulator (chunk :: chunks) =
      match answerLines closes served (linesOf (accumulator ++ chunk)) with
      | (served, true) => (served, true)
      | (served, false) => serveLoop closes served (restOf (accumulator ++ chunk)) chunks := by
  obtain ⟨rest, hloop, hrest⟩ := lineLoop_eq closes served (accumulator ++ chunk)
    fun line hline => (length_le_of_mem_linesOf hline).trans h
  rw [serveLoop, if_neg (Nat.not_lt.mpr h), hloop]
  cases hanswer : answerLines closes served (linesOf (accumulator ++ chunk)) with
  | mk after closed =>
    cases closed with
    | true => rfl
    | false =>
      rw [hanswer] at hrest
      rw [← hrest rfl]

/-- From any place between two lines. -/
theorem serveLoop_eq_framing (chunks : List Bytes) (served : List Frame) {accumulator : Bytes}
    (hlines : linesOf accumulator = []) (hrest : restOf accumulator = accumulator)
    (hshort : accumulator.length ≤ kMaxRequestBytes) :
    serveLoop closes served accumulator chunks =
        framing closes served (accumulator ++ chunks.flatten) ↔
      Fits closes served accumulator chunks := by
  induction chunks generalizing served accumulator with
  | nil =>
    refine iff_of_true ?_ fun before chunk later h => ?_
    · rw [List.flatten_nil, List.append_nil,
        framing_short served hlines (hrest.symm ▸ hshort), serveLoop]
    · exact absurd h (by simp)
  | cons chunk chunks ih =>
    have hopen : (framing closes served accumulator).2 = false := by
      rw [framing_short served hlines (hrest.symm ▸ hshort)]
    rw [fits_cons hopen, hrest, List.flatten_cons]
    by_cases hfits : (accumulator ++ chunk).length ≤ kMaxRequestBytes
    · rw [serveLoop_cons hfits, ← List.append_assoc, framing_append]
      cases hanswer : answerLines closes served (linesOf (accumulator ++ chunk)) with
      | mk after closed =>
        cases closed with
        | true =>
          refine iff_of_true rfl ⟨.inl hfits, fun before c later _ hstill => ?_⟩
          rw [framing_append, hanswer] at hstill
          cases hstill
        | false =>
          have hgathered := (length_restOf_le (accumulator ++ chunk)).trans hfits
          refine (ih after (linesOf_restOf _) (restOf_restOf _) hgathered).trans ?_
          rw [fits_restOf hanswer]
          exact (and_iff_right (.inl hfits)).symm
    · rw [serveLoop, if_pos (Nat.lt_of_not_le hfits), eq_comm, framing_eq_tooLarge_iff]
      constructor
      · refine fun hlong => ⟨.inr hlong, fun before c later hsplit hstill => .inr ?_⟩
        refine startsTooLarge_restOf closes served ?_ hstill
        rw [hsplit, List.flatten_append, List.flatten_cons] at hlong
        simpa only [List.append_assoc] using hlong
      · exact fun h => h.1.resolve_left hfits

namespace ControlServer

variable {α State : Type}

/-- The lines that are handed over. -/
def requestsOf (bytes : Bytes) : List Bytes :=
  (linesOf bytes).filter fun line => !line.all isSpaceByte

/-- The bytes that were read from the last client, by what was done. -/
def readBytes (bytes : Bytes) : Action α → Bytes
  | .pipe (.connect true) => []
  | .pipe (.read chunk) => bytes ++ chunk
  | _ => bytes

/-- The lines on record of the last client, and those gathered still, are the lines of what was
    read. -/
structure Reading (s : ControlServer α) (bytes : Bytes) : Prop where
  bounded : ∀ p ∈ s.lines, p.1 ≤ s.connection
  extracted : (s.lines.filter (·.1 == s.connection)).map Prod.snd ++ requestsOf s.accumulator =
    requestsOf bytes
  rest : restOf s.accumulator = restOf bytes

section
variable {fromJson : List UInt8 → Except String JsonValue} {process : Process α State}
  {s s' : ControlServer α} {bytes : Bytes}

theorem requestsOf_append (l m : Bytes) :
    requestsOf (l ++ m) = requestsOf l ++ requestsOf (restOf l ++ m) := by
  unfold requestsOf
  rw [linesOf_append, List.filter_append]

theorem Reading.frame (h : s.Reading bytes) (hlines : s'.lines = s.lines)
    (haccumulator : s'.accumulator = s.accumulator) (hconnection : s'.connection = s.connection) :
    s'.Reading bytes :=
  ⟨by rw [hlines, hconnection]; exact h.bounded,
    by rw [hlines, haccumulator, hconnection]; exact h.extracted,
    by rw [haccumulator]; exact h.rest⟩

theorem Reading.connect (h : s.Reading bytes) (hlines : s'.lines = s.lines)
    (haccumulator : s'.accumulator = []) (hconnection : s'.connection = s.connection + 1) :
    s'.Reading [] := by
  have hnone : s.lines.filter (·.1 == s.connection + 1) = [] := by
    refine List.filter_eq_nil_iff.mpr fun p hp heq => ?_
    have := h.bounded p hp
    rw [beq_iff_eq] at heq
    omega
  refine ⟨?_, ?_, by rw [haccumulator]⟩
  · rw [hlines, hconnection]
    exact fun p hp => Nat.le_succ_of_le (h.bounded p hp)
  · rw [hlines, hconnection, haccumulator, hnone]
    rfl

theorem Reading.read (h : s.Reading bytes) (chunk : Bytes) (hlines : s'.lines = s.lines)
    (haccumulator : s'.accumulator = s.accumulator ++ chunk)
    (hconnection : s'.connection = s.connection) : s'.Reading (bytes ++ chunk) := by
  refine ⟨by rw [hlines, hconnection]; exact h.bounded, ?_, ?_⟩
  · rw [hlines, hconnection, haccumulator, requestsOf_append s.accumulator,
      requestsOf_append bytes, ← h.rest, ← List.append_assoc, h.extracted]
  · rw [haccumulator, restOf_append, restOf_append bytes, h.rest]

theorem Reading.take (h : s.Reading bytes) {line rest : Bytes}
    (htaken : requestsOf s.accumulator = line :: requestsOf rest)
    (hrest : restOf s.accumulator = restOf rest)
    (hlines : s'.lines = s.lines ++ [(s.connection, line)]) (haccumulator : s'.accumulator = rest)
    (hconnection : s'.connection = s.connection) : s'.Reading bytes := by
  refine ⟨?_, ?_, ?_⟩
  · rw [hlines, hconnection]
    intro p hp
    obtain hp | hp := List.mem_append.mp hp
    · exact h.bounded p hp
    · rw [List.mem_singleton.mp hp]
  · rw [hlines, hconnection, haccumulator, List.filter_append, List.map_append, ← h.extracted,
      htaken]
    simp
  · rw [haccumulator, ← hrest, h.rest]

theorem Reading.parseNext (h : s.Reading bytes) : (s.parseNext fromJson).Reading bytes := by
  unfold ControlServer.parseNext
  obtain ⟨hnone, -⟩ | ⟨raw, rest, hsome, hsplit, hraw⟩ := takeLine_eq s.accumulator
  · rw [hnone]
    exact h.frame rfl rfl rfl
  · obtain ⟨hlines, hrest⟩ := linesOf_line hraw rest
    rw [← hsplit] at hlines hrest
    have htaken : requestsOf s.accumulator =
        (chopReturn raw :: linesOf rest).filter fun line => !line.all isSpaceByte := by
      rw [requestsOf, hlines]
    rw [hsome]
    dsimp only
    split
    next hblank =>
      rw [List.filter_cons_of_neg (by simpa using hblank)] at htaken
      have hextracted := h.extracted
      rw [htaken] at hextracted
      exact ⟨h.bounded, hextracted, hrest.symm.trans h.rest⟩
    next hcounts =>
      rw [List.filter_cons_of_pos (by simpa using hcounts)] at htaken
      cases ParseRequest fromJson (chopReturn raw) with
      | ok request => exact h.take htaken hrest rfl rfl rfl
      | error failure => exact h.take htaken hrest rfl rfl rfl

theorem reading_pipeStep {action : PipeAction} (h : s.Reading bytes)
    (hs : s.pipeStep fromJson action = some s') :
    s'.Reading (readBytes bytes (.pipe action : Action α)) := by
  cases action with
  | connect accepted =>
    rw [pipeStep] at hs
    split at hs
    · cases accepted with
      | true =>
        obtain rfl := Option.some.inj hs
        exact h.connect rfl rfl rfl
      | false =>
        obtain rfl := Option.some.inj hs
        exact h.frame rfl rfl rfl
    · cases hs
  | read chunk =>
    rw [pipeStep] at hs
    split at hs
    · split at hs
      · cases hs
      · obtain rfl := Option.some.inj hs
        exact h.read chunk rfl rfl rfl
    · cases hs
  | readFailed =>
    rw [pipeStep] at hs
    split at hs
    · obtain rfl := Option.some.inj hs
      exact h.frame rfl rfl rfl
    · cases hs
  | takeOutbound =>
    rw [pipeStep] at hs
    split at hs
    · split at hs
      · obtain rfl := Option.some.inj hs
        exact h.frame rfl rfl rfl
      · cases hs
    · cases hs
  | write ok =>
    rw [pipeStep, pipeWrite] at hs
    split at hs
    · split at hs
      all_goals
        obtain rfl := Option.some.inj hs
        exact h.frame rfl rfl rfl
    · obtain rfl := Option.some.inj hs
      exact h.frame rfl rfl rfl
    · split at hs
      all_goals
        obtain rfl := Option.some.inj hs
        exact h.frame rfl rfl rfl
    · cases hs
  | ready =>
    rw [pipeStep] at hs
    split at hs
    · obtain ⟨response, -, rfl⟩ := Option.map_eq_some_iff.mp hs
      exact h.frame rfl rfl rfl
    · cases hs
  | timeout =>
    rw [pipeStep] at hs
    split at hs
    · obtain rfl := Option.some.inj hs
      exact h.frame rfl rfl rfl
    · cases hs
  | stopSeen =>
    rw [pipeStep] at hs
    split at hs
    · split at hs
      · obtain rfl := Option.some.inj hs
        exact h.frame rfl rfl rfl
      · obtain rfl := Option.some.inj hs
        exact h.frame rfl rfl rfl
      · cases hs
    · cases hs
  | advance =>
    rw [pipeStep, pipeAdvance] at hs
    split at hs
    case h_3 =>
      obtain rfl := Option.some.inj hs
      exact h.parseNext
    case h_8 => cases hs
    all_goals
      obtain rfl := Option.some.inj hs
      exact h.frame rfl rfl rfl

theorem reading_ownerStep {action : OwnerAction α} (h : s.Reading bytes)
    (hs : s.ownerStep process action = some s') : s'.Reading bytes := by
  cases action with
  | run =>
    rw [ownerStep] at hs
    split at hs
    · unfold runNext at hs
      split at hs
      · cases hs
      all_goals
        obtain rfl := Option.some.inj hs
        exact h.frame rfl rfl rfl
    · cases hs
  | emit event | change app | stop =>
    rw [ownerStep] at hs
    split at hs
    · obtain rfl := Option.some.inj hs
      exact h.frame rfl rfl rfl
    · cases hs
  | advance =>
    rw [ownerStep, ownerAdvance] at hs
    split at hs
    · cases hs
    all_goals
      obtain rfl := Option.some.inj hs
      exact h.frame rfl rfl rfl

/-- In every run of the server the lines on record of the last client, and those that are gathered
    still, are the lines of the bytes that were read from it. -/
theorem lines_of_run {runId : String} {app : α} {actions : List (Action α)}
    (hrun : exec fromJson process (start runId app) actions = some s) :
    s.Reading (actions.foldl readBytes []) := by
  induction actions using List.reverseRecOn generalizing s with
  | nil =>
    obtain rfl := Option.some.inj hrun
    exact ⟨nofun, rfl, rfl⟩
  | append_singleton actions action ih =>
    obtain ⟨before, hbefore, hlast⟩ := StepRun.exec_append_some.mp hrun
    obtain ⟨after, hstep, hdone⟩ := StepRun.exec_cons_some.mp hlast
    obtain rfl := Option.some.inj hdone
    rw [List.foldl_append]
    cases action with
    | pipe action => exact reading_pipeStep (ih hbefore) hstep
    | owner action => exact reading_ownerStep (ih hbefore) hstep

end

end ControlServer

/-- The reads of a connection give what its bytes are to give, exactly if none leaves more than the
    limit in the accumulator while the connection is open, unless that is the start of a line which
    is too long. -/
theorem serveLoop_iff (closes : List Frame → Bool) (chunks : List Bytes) :
    serveLoop closes [] [] chunks = framing closes [] chunks.flatten ↔
      ∀ before chunk later, chunks = before ++ chunk :: later →
        (framing closes [] before.flatten).2 = false →
          (restOf before.flatten ++ chunk).length ≤ kMaxRequestBytes ∨
            StartsTooLarge (restOf before.flatten ++ (chunk ++ later.flatten)) :=
  serveLoop_eq_framing chunks [] rfl rfl (Nat.zero_le _)

/-- A read without a line end is gathered. -/
theorem serveLoop_quiet {accumulator chunk : Bytes} {chunks : List Bytes}
    (hquiet : ∀ byte ∈ accumulator ++ chunk, isNewline byte = false)
    (h : (accumulator ++ chunk).length ≤ kMaxRequestBytes) :
    serveLoop closes served accumulator (chunk :: chunks) =
      serveLoop closes served (accumulator ++ chunk) chunks := by
  obtain ⟨hlines, hrest⟩ := linesOf_of_forall hquiet
  rw [serveLoop_cons h, hlines, hrest]
  rfl

theorem isNewline_of_mem_replicate {n : Nat} :
    ∀ byte ∈ List.replicate n (120 : UInt8), isNewline byte = false := fun byte hbyte => by
  rw [List.eq_of_mem_replicate hbyte]
  rfl

/-- A read of one letter, behind others of it. -/
theorem serveLoop_letter {gathered more : Nat} {chunks : List Bytes}
    (h : gathered + more ≤ kMaxRequestBytes) :
    serveLoop closes served (List.replicate gathered 120) (List.replicate more 120 :: chunks) =
      serveLoop closes served (List.replicate (gathered + more) 120) chunks := by
  have happend := List.replicate_append_replicate (a := (120 : UInt8)) (n := gathered) (m := more)
  rw [serveLoop_quiet, happend]
  · rw [happend]
    exact isNewline_of_mem_replicate
  · rwa [happend, List.length_replicate]

/-- Full reads of one letter. -/
theorem serveLoop_letters (n gathered : Nat) {chunks : List Bytes}
    (h : gathered + kReadBufferBytes * n ≤ kMaxRequestBytes) :
    serveLoop closes served (List.replicate gathered 120)
        (List.replicate n (List.replicate kReadBufferBytes 120) ++ chunks) =
      serveLoop closes served (List.replicate (gathered + kReadBufferBytes * n) 120) chunks := by
  induction n generalizing gathered with
  | zero => rfl
  | succ n ih =>
    rw [Nat.mul_succ] at h
    have hnext : gathered + kReadBufferBytes + kReadBufferBytes * n =
        gathered + kReadBufferBytes * (n + 1) := by
      rw [Nat.mul_succ]
      omega
    rw [List.replicate_succ, List.cons_append, serveLoop_letter (by omega),
      ih (gathered + kReadBufferBytes) (by omega), hnext]

/-- Seven full reads of a line, and the rest of it but for its last byte. -/
def letters : List Bytes :=
  List.replicate 7 (List.replicate kReadBufferBytes 120) ++ [List.replicate 8191 120]

/-- One stream in two ways of cutting it: with the next request in the read that ends the line, the
    line is refused, though it is shorter than the limit. -/
theorem follower_refuses_line :
    let early := letters ++ [[10], [120]]
    let late := letters ++ [[10, 120]]
    early.flatten = late.flatten ∧
      (∀ chunk ∈ early ++ late, 1 ≤ chunk.length ∧ chunk.length ≤ kReadBufferBytes) ∧
      serveLoop (fun _ => false) [] [] early =
        ([.request (List.replicate 65535 120)], false) ∧
      serveLoop (fun _ => false) [] [] late = ([.tooLarge], true) := by
  have hgathered : ∀ chunks, serveLoop (fun _ => false) [] [] (letters ++ chunks) =
      serveLoop (fun _ => false) [] (List.replicate 65535 120) chunks := fun chunks => by
    rw [letters, List.append_assoc]
    exact (serveLoop_letters 7 0 (by decide)).trans (serveLoop_letter (by decide))
  have hline := linesOf_line (isNewline_of_mem_replicate (n := 65535)) []
  have hchop : chopReturn (List.replicate 65535 120) = List.replicate 65535 120 :=
    if_neg (by rw [List.getLast?_replicate]; decide)
  have hlength : ∀ more : Bytes, (List.replicate 65535 120 ++ more).length = 65535 + more.length :=
    fun more => by rw [List.length_append, List.length_replicate]
  have hlines : linesOf [] = [] := rfl
  refine ⟨by simp, ?_, ?_, ?_⟩
  · intro chunk hchunk
    simp only [letters, List.mem_append, List.mem_replicate, List.mem_cons, List.not_mem_nil,
      or_false] at hchunk
    obtain ((⟨-, rfl⟩ | rfl) | rfl | rfl) | (⟨-, rfl⟩ | rfl) | rfl := hchunk
    all_goals
      simp only [List.length_replicate, List.length_cons, List.length_nil]
      decide
  · rw [hgathered, serveLoop_cons (by rw [hlength]; decide), hline.1, hline.2, hchop]
    have hanswer : answerLines (fun _ => false) [] [List.replicate 65535 120] =
        ([.request (List.replicate 65535 120)], false) := by
      simp only [answerLines, List.length_replicate, List.all_replicate]
      rfl
    rw [hlines, hanswer]
    have hquiet : ∀ byte ∈ (restOf [] ++ [120] : Bytes), isNewline byte = false := by
      intro byte hbyte
      rw [List.mem_singleton.mp hbyte]
      rfl
    exact serveLoop_quiet hquiet (Nat.le_add_left 1 _)
  · rw [hgathered, serveLoop, if_pos (by rw [hlength]; decide)]
    rfl

end Exosnap.Control
