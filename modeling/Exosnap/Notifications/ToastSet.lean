/-
  The invariants of the visible toasts: the standing cards in the order of their enqueue, then at
  most one timed card, and the dismiss timer for that card (`Toasts`).

  They hold over every run in which an expiry is neither before the epoch nor more than an `int` of
  milliseconds ahead when the timer is started for it, and in which no sequence number is given out
  twice (`Timely`).
-/
import Exosnap.Notifications.NotificationManager

namespace Exosnap.Notifications

open NotificationManager

/-! ## Cards -/

/-- The two lists of the manager are the cards, taken apart. -/
def Shows (s : NotificationManager) (cards : List Card) : Prop :=
  s.visible = cards.map Prod.fst ∧ s.visibleShownAt = cards.map Prod.snd

theorem Shows.zip {s : NotificationManager} {cards : List Card} (h : Shows s cards) :
    s.visible.zip s.visibleShownAt = cards := by
  rw [h.1, h.2]
  exact List.zip_of_prod rfl rfl |>.symm

theorem shows_removeAt {s : NotificationManager} {cards : List Card} (h : Shows s cards) (i : Nat) :
    Shows (s.removeAt i) (cards.eraseIdx i) := by
  refine ⟨?_, ?_⟩
  · rw [removeAt, h.1, List.eraseIdx_map]
  · rw [removeAt, h.2, List.eraseIdx_map]

/-- The card is shown for good, or not past its expiry. -/
def stays (fired : Int) (c : Card) : Bool := IsStanding c.1.type || decide (fired < expiry c)

theorem dismissInterval_nonneg (type : NotificationType) : 0 ≤ DismissIntervalMs type := by
  cases type <;> decide

theorem standing_iff (type : NotificationType) :
    IsStanding type = true ↔ DismissIntervalMs type = 0 := by
  simp [IsStanding]

theorem timed_pos {type : NotificationType} (h : IsStanding type = false) :
    0 < DismissIntervalMs type := by
  have hne : DismissIntervalMs type ≠ 0 := fun hz => by
    rw [(standing_iff type).mpr hz] at h
    exact absurd h (by simp)
  have hpos := dismissInterval_nonneg type
  omega

theorem isExpired_eq {s : NotificationManager} {cards : List Card} (h : Shows s cards)
    (fired : Int) {i : Nat} (hi : i < cards.length) :
    s.isExpired fired i = !stays fired cards[i] := by
  have hget : cards[i]? = some cards[i] := List.getElem?_eq_getElem hi
  rw [isExpired, h.1, h.2, List.getElem?_map, List.getElem?_map, hget]
  cases hst : IsStanding cards[i].1.type with
  | true => simp [stays, hst, (standing_iff _).mp hst]
  | false =>
      by_cases hle : expiry cards[i] ≤ fired
      · simp [stays, hst, timed_pos hst, Int.not_lt.mpr hle,
          show cards[i].2 + _ ≤ fired from hle]
      · simp [stays, hst, timed_pos hst, Int.not_le.mp hle,
          show ¬ cards[i].2 + _ ≤ fired from hle]

theorem shows_dropExpired (fired : Int) (i : Nat) :
    ∀ {s : NotificationManager} {cards : List Card}, Shows s cards → i ≤ cards.length →
      Shows (dropExpired fired i s) ((cards.take i).filter (stays fired) ++ cards.drop i) := by
  induction i with
  | zero =>
      intro s cards h _
      simpa [dropExpired] using h
  | succ i ih =>
      intro s cards h hi
      have htake : cards.take (i + 1) = cards.take i ++ [cards[i]] := by
        rw [List.take_add_one, List.getElem?_eq_getElem (by omega)]
        rfl
      rw [dropExpired, isExpired_eq h fired (by omega)]
      by_cases hstays : stays fired cards[i] = true
      · have hrest := ih h (by omega)
        rw [if_neg (by simp [hstays]), htake, List.filter_append, List.filter_singleton, hstays]
        rw [List.drop_eq_getElem_cons (by omega)] at hrest
        simpa using hrest
      · have hrest := ih (shows_removeAt h i) (by rw [List.length_eraseIdx]; split <;> omega)
        have hno : stays fired cards[i] = false := by simpa using hstays
        rw [if_pos (by simp [hno]), htake, List.filter_append, List.filter_singleton, hno,
          cond_false, List.append_nil]
        rwa [List.eraseIdx_eq_take_drop_succ, List.take_left' (by simp; omega),
          List.drop_left' (by simp; omega)] at hrest

/-! ## The invariant -/

/-- The timer is armed for the card, if there is one. -/
def ArmedFor (timer : Option DismissTimer) : Option Card → Prop
  | none => timer = none
  | some c => ∃ now, timer = some ⟨max 0 (expiry c - now), now⟩

structure Toasts (s : NotificationManager) (st : List Card) (tm : Option Card) : Prop where
  shows : Shows s (st ++ tm.toList)
  standing : ∀ c ∈ st, IsStanding c.1.type = true
  timed : ∀ c ∈ tm, IsStanding c.1.type = false
  order : st.Sublist s.recorded
  recorded : ∀ c ∈ tm, c ∈ s.recorded
  armed : ArmedFor s.timer tm

/-- The sequence numbers are given out from 1 on. -/
structure Numbered (s : NotificationManager) : Prop where
  length : s.recorded.length ≤ 2 ^ 64
  next : s.nextSequence = (s.recorded.length + 1) % 2 ^ 64
  sequences : ∀ i c, s.recorded[i]? = some c → c.1.sequence = (i + 1) % 2 ^ 64

/-- An expiry that an `int` of milliseconds reaches from `now`. -/
def Reaches (now : Int) (s : NotificationManager) : Prop :=
  ∀ c ∈ s.visible.zip s.visibleShownAt, IsStanding c.1.type = false →
    0 ≤ expiry c ∧ expiry c - now < 2 ^ 31

instance (now : Int) (s : NotificationManager) : Decidable (Reaches now s) :=
  inferInstanceAs (Decidable (∀ _ ∈ _, _))

/-- The condition of a step. -/
def Timely (s : NotificationManager) : ToastAction → Prop
  | .enqueue type shownAt now =>
      s.recorded.length < 2 ^ 64 ∧
        (type ≠ .presetSwitched ∧ s.toastsEnabled = true →
          Reaches now (s.promote ⟨type, s.nextSequence⟩ shownAt))
  | .dismiss sequence now =>
      ∀ i ∈ s.visible.findIdx? (·.sequence == sequence), Reaches now (s.removeAt i)
  | .setToastsEnabled _ _ => True
  | .timerFired fired now => Reaches now (dropExpired fired s.visible.length s)

instance (s : NotificationManager) : (a : ToastAction) → Decidable (Timely s a)
  | .enqueue _ _ _ => inferInstanceAs (Decidable (_ ∧ _))
  | .dismiss _ _ => inferInstanceAs (Decidable (∀ _ ∈ _, Reaches _ _))
  | .setToastsEnabled _ _ => inferInstanceAs (Decidable True)
  | .timerFired _ _ => inferInstanceAs (Decidable (Reaches _ _))

/-! ## The timer -/

theorem earliestExpiry_standing {standing : List Card}
    (hs : ∀ c ∈ standing, IsStanding c.1.type = true) (earliest : Int) (cards : List Card) :
    earliestExpiry earliest ((standing ++ cards).map Prod.fst) ((standing ++ cards).map Prod.snd) =
      earliestExpiry earliest (cards.map Prod.fst) (cards.map Prod.snd) := by
  induction standing with
  | nil => rfl
  | cons c standing ih =>
      have hc := (standing_iff _).mp (hs c (by simp))
      rw [List.cons_append, List.map_cons, List.map_cons, earliestExpiry]
      simp only [hc, Int.le_refl, if_true]
      exact ih fun d hd => hs d (List.mem_cons_of_mem c hd)

theorem toInt32_of_range {x : Int} (h0 : 0 ≤ x) (h1 : x < 2 ^ 31) : toInt32 x = x := by
  rw [toInt32, Int.bmod_def]
  omega

theorem armedFor_reschedule (negative : Int → Option Int) {now : Int} {s : NotificationManager}
    {standing : List Card} {timed : Option Card} (h : Shows s (standing ++ timed.toList))
    (hs : ∀ c ∈ standing, IsStanding c.1.type = true)
    (ht : ∀ c ∈ timed, IsStanding c.1.type = false) (hr : Reaches now s) :
    ArmedFor (s.rescheduleTimer negative now).timer timed := by
  cases timed with
  | none =>
      have hearliest : earliestExpiry (-1) s.visible s.visibleShownAt = -1 := by
        rw [h.1, h.2, earliestExpiry_standing hs]
        rfl
      simp [ArmedFor, rescheduleTimer, hearliest]
  | some c =>
      have hc := ht c rfl
      have hpos := timed_pos hc
      have hmem : c ∈ s.visible.zip s.visibleShownAt := by
        rw [h.zip]
        simp
      obtain ⟨hepoch, hahead⟩ := hr c hmem hc
      have hearliest : earliestExpiry (-1) s.visible s.visibleShownAt = expiry c := by
        rw [h.1, h.2, earliestExpiry_standing hs]
        simp [earliestExpiry, Int.not_le.mpr hpos, expiry]
      have hdelay : toInt32 (max 0 (expiry c - now)) = max 0 (expiry c - now) :=
        toInt32_of_range (by omega) (by omega)
      refine ⟨now, ?_⟩
      simp only [rescheduleTimer, hearliest, if_pos hepoch, hdelay]
      exact if_neg (by omega)

/-! ## Steps -/

section
variable {s : NotificationManager} {st : List Card} {tm : Option Card}

theorem Toasts.lastIsTimed_eq (h : Toasts s st tm) : s.lastIsTimed = tm.isSome := by
  rw [lastIsTimed, h.shows.1]
  cases tm with
  | some c => simp [h.timed c rfl]
  | none =>
      rw [Option.toList_none, List.append_nil, List.getLast?_map]
      cases hlast : st.getLast? with
      | none => rfl
      | some c => simp [h.standing c (List.mem_of_getLast? hlast)]

theorem insertIdx_concat {α : Type*} (xs ys : List α) (a : α) :
    (xs ++ ys).insertIdx xs.length a = xs ++ a :: ys := by
  induction xs with
  | nil => rfl
  | cons x xs ih => simpa using ih

/-- A standing card goes above the timed one, a timed one takes the other's place. -/
theorem Toasts.shows_promote (h : Toasts s st tm) (e : NotificationEvent) (at_ : Int) :
    Shows (s.promote e at_)
      (if IsStanding e.type then st ++ (e, at_) :: tm.toList else st ++ [(e, at_)]) := by
  have hlast := h.lastIsTimed_eq
  obtain ⟨hvisible, hshownAt⟩ := h.shows
  rw [promote]
  by_cases hst : IsStanding e.type = true
  · have hat : (if s.lastIsTimed then s.visible.length - 1 else s.visible.length) =
        st.length := by
      rw [hlast, hvisible]
      cases tm <;> simp
    rw [if_pos hst, if_pos hst, hat]
    refine ⟨?_, ?_⟩
    · change s.visible.insertIdx st.length e = _
      have hlen : st.length = (st.map Prod.fst).length := (List.length_map ..).symm
      rw [hvisible, List.map_append, hlen, insertIdx_concat]
      simp
    · change s.visibleShownAt.insertIdx st.length at_ = _
      have hlen : st.length = (st.map Prod.snd).length := (List.length_map ..).symm
      rw [hshownAt, List.map_append, hlen, insertIdx_concat]
      simp
  · rw [if_neg hst, if_neg hst, hlast]
    cases tm with
    | none => simpa [Shows] using And.intro hvisible hshownAt
    | some c =>
        refine ⟨?_, ?_⟩
        · simp [hvisible]
        · simp [hshownAt]

theorem Toasts.record (h : Toasts s st tm) (type : NotificationType) (now : Int) :
    Toasts (s.record type now).2 st tm :=
  { h with
    shows := h.shows
    order := h.order.trans (List.sublist_append_left _ _)
    recorded := fun c hc => List.mem_append_left _ (h.recorded c hc)
    armed := h.armed }

theorem Numbered.record (h : Numbered s) (hroom : s.recorded.length < 2 ^ 64)
    (type : NotificationType) (now : Int) : Numbered (s.record type now).2 := by
  refine ⟨?_, ?_, ?_⟩
  · simp only [NotificationManager.record, List.length_append, List.length_singleton]
    omega
  · simp only [NotificationManager.record, List.length_append, List.length_singleton, h.next]
    omega
  · intro i c hc
    simp only [NotificationManager.record] at hc
    rcases Nat.lt_trichotomy i s.recorded.length with hi | rfl | hi
    · rw [List.getElem?_append_left hi] at hc
      exact h.sequences i c hc
    · rw [List.getElem?_concat_length] at hc
      obtain rfl := Option.some.inj hc
      exact h.next
    · rw [List.getElem?_eq_none (by simp; omega)] at hc
      exact absurd hc (by simp)

theorem Toasts.enqueue (h : Toasts s st tm) (negative : Int → Option Int)
    {type : NotificationType} {shownAt now : Int}
    (ht : type ≠ .presetSwitched ∧ s.toastsEnabled = true →
      Reaches now (s.promote ⟨type, s.nextSequence⟩ shownAt)) :
    ∃ st' tm', Toasts (s.Enqueue negative type shownAt now) st' tm' ∧ ∀ c ∈ st, c ∈ st' := by
  have hrecord := h.record type shownAt
  by_cases hshow : type ≠ .presetSwitched ∧ s.toastsEnabled = true
  · have heq : s.Enqueue negative type shownAt now =
        ((s.record type shownAt).2.promote ⟨type, s.nextSequence⟩ shownAt).rescheduleTimer
          negative now := by
      rw [Enqueue]
      simp only [NotificationManager.record, if_neg hshow.1, hshow.2, Bool.not_true,
        Bool.false_eq_true, if_false]
    have hshows := hrecord.shows_promote ⟨type, s.nextSequence⟩ shownAt
    have hreaches : Reaches now
        ((s.record type shownAt).2.promote ⟨type, s.nextSequence⟩ shownAt) := by
      have hr := ht hshow
      unfold Reaches at hr ⊢
      rwa [hshows.zip, ← (h.shows_promote ⟨type, s.nextSequence⟩ shownAt).zip]
    have hmem : ((⟨type, s.nextSequence⟩, shownAt) : Card) ∈
        ((s.record type shownAt).2.promote ⟨type, s.nextSequence⟩ shownAt).recorded := by
      rw [promote]
      split
      · simp [NotificationManager.record]
      · split <;> simp [NotificationManager.record]
    have hrec : ((s.record type shownAt).2.promote ⟨type, s.nextSequence⟩ shownAt).recorded =
        s.recorded ++ [(⟨type, s.nextSequence⟩, shownAt)] := by
      rw [promote]
      split
      · rfl
      · split <;> rfl
    rw [heq]
    by_cases hst : IsStanding type = true
    · refine ⟨st ++ [(⟨type, s.nextSequence⟩, shownAt)], tm, ?_, fun c hc => by simp [hc]⟩
      have hshows' : Shows ((s.record type shownAt).2.promote ⟨type, s.nextSequence⟩ shownAt)
          ((st ++ [(⟨type, s.nextSequence⟩, shownAt)]) ++ tm.toList) := by
        rw [if_pos hst] at hshows
        simpa using hshows
      have hstanding : ∀ c ∈ st ++ [((⟨type, s.nextSequence⟩, shownAt) : Card)],
          IsStanding c.1.type = true := by
        intro c hc
        rcases List.mem_append.mp hc with hc | hc
        · exact h.standing c hc
        · rw [List.mem_singleton.mp hc]
          exact hst
      refine ⟨hshows', hstanding, h.timed, ?_, ?_,
        armedFor_reschedule negative hshows' hstanding h.timed hreaches⟩
      · exact hrec ▸ h.order.append (List.Sublist.refl _)
      · exact fun c hc => hrec ▸ List.mem_append_left _ (h.recorded c hc)
    · refine ⟨st, some (⟨type, s.nextSequence⟩, shownAt), ?_, fun c hc => hc⟩
      rw [if_neg hst] at hshows
      have htimed : ∀ c ∈ some ((⟨type, s.nextSequence⟩, shownAt) : Card),
          IsStanding c.1.type = false := by
        intro c hc
        obtain rfl := Option.some.inj hc
        simpa using hst
      refine ⟨hshows, h.standing, htimed, ?_, ?_,
        armedFor_reschedule negative hshows h.standing htimed hreaches⟩
      · exact hrec ▸ h.order.trans (List.sublist_append_left _ _)
      · intro c hc
        obtain rfl := Option.some.inj hc
        exact hmem
  · have heq : s.Enqueue negative type shownAt now = (s.record type shownAt).2 := by
      rw [Enqueue]
      by_cases hp : type = .presetSwitched
      · simp only [NotificationManager.record, if_pos hp]
      · have hoff : s.toastsEnabled = false := by
          simpa using fun hon => hshow ⟨hp, hon⟩
        simp only [NotificationManager.record, if_neg hp, hoff, Bool.not_false, if_true]
    rw [heq]
    exact ⟨st, tm, hrecord, fun c hc => hc⟩

theorem Toasts.dismiss (h : Toasts s st tm) (negative : Int → Option Int) {sequence : Nat}
    {now : Int} (ht : ∀ i ∈ s.visible.findIdx? (·.sequence == sequence),
      Reaches now (s.removeAt i)) :
    ∃ st' tm', Toasts (s.Dismiss negative sequence now) st' tm' ∧
      ∀ c ∈ st, c ∈ st' ∨ c.1.sequence = sequence := by
  rw [Dismiss]
  cases hfind : s.visible.findIdx? (·.sequence == sequence) with
  | none => exact ⟨st, tm, h, fun c hc => .inl hc⟩
  | some i =>
      have hreaches := ht i hfind
      obtain ⟨hi, hseq, -⟩ := List.findIdx?_eq_some_iff_getElem.mp hfind
      have hshows := shows_removeAt h.shows i
      have hlen : s.visible.length = st.length + tm.toList.length := by
        rw [h.shows.1, List.length_map, List.length_append]
      by_cases hlt : i < st.length
      · -- a standing card
        rw [List.eraseIdx_append_of_lt_length hlt] at hshows
        have hsub : (st.eraseIdx i).Sublist st := List.eraseIdx_sublist st i
        have hstanding : ∀ c ∈ st.eraseIdx i, IsStanding c.1.type = true :=
          fun c hc => h.standing c (hsub.subset hc)
        refine ⟨st.eraseIdx i, tm, ⟨hshows, hstanding, h.timed, hsub.trans h.order, h.recorded,
          armedFor_reschedule negative hshows hstanding h.timed hreaches⟩, fun c hc => ?_⟩
        have hat : s.visible[i] = st[i].1 := by
          simp only [h.shows.1, List.getElem_map, List.getElem_append_left hlt]
        rw [hat] at hseq
        by_cases hcs : c = st[i]
        · exact .inr (hcs ▸ by simpa using hseq)
        · exact .inl ((List.mem_eraseIdx_iff_getElem).mpr (by
            obtain ⟨j, hj, rfl⟩ := List.getElem_of_mem hc
            exact ⟨j, hj, fun hji => hcs (by simp only [hji]), rfl⟩))
      · -- the timed card, which is last
        have htm : ∃ c, tm = some c ∧ i = st.length := by
          cases tm with
          | none => simp only [Option.toList_none, List.length_nil] at hlen; omega
          | some c =>
              simp only [Option.toList_some, List.length_singleton] at hlen
              exact ⟨c, rfl, by omega⟩
        obtain ⟨c, rfl, rfl⟩ := htm
        have hshows' : Shows (s.removeAt st.length) (st ++ (none : Option Card).toList) := by
          rw [List.eraseIdx_append_of_length_le (Nat.le_refl _), Nat.sub_self] at hshows
          exact hshows
        exact ⟨st, none, ⟨hshows', h.standing, (fun c hc => nomatch hc), h.order,
          (fun c hc => nomatch hc), armedFor_reschedule negative hshows' h.standing
            (fun c hc => nomatch hc) hreaches⟩, fun c hc => .inl hc⟩

theorem Toasts.setToastsEnabled (h : Toasts s st tm) (negative : Int → Option Int) (enabled : Bool)
    (now : Int) :
    ∃ st' tm', Toasts (s.SetToastsEnabled negative enabled now) st' tm' ∧
      (enabled = true → ∀ c ∈ st, c ∈ st') := by
  rw [SetToastsEnabled]
  by_cases hclear : (!enabled && !s.visible.isEmpty) = true
  · rw [if_pos hclear]
    refine ⟨[], none, ⟨⟨rfl, rfl⟩, (fun c hc => nomatch hc), (fun c hc => nomatch hc),
      List.nil_sublist _, (fun c hc => nomatch hc), rfl⟩, fun hon => ?_⟩
    rw [hon] at hclear
    exact absurd hclear (by simp)
  · rw [if_neg hclear]
    exact ⟨st, tm, ⟨h.shows, h.standing, h.timed, h.order, h.recorded, h.armed⟩,
      fun _ c hc => hc⟩

theorem Toasts.timerFired (h : Toasts s st tm) (negative : Int → Option Int) {fired now : Int}
    (hr : Reaches now (dropExpired fired s.visible.length s)) :
    ∃ st' tm', Toasts (s.onTimerFired negative fired now) st' tm' ∧ ∀ c ∈ st, c ∈ st' := by
  have hlen : s.visible.length = (st ++ tm.toList).length := by
    rw [h.shows.1, List.length_map]
  have hdrop : ∀ t : NotificationManager, Shows t (st ++ tm.toList) →
      Shows (dropExpired fired s.visible.length t) (st ++ (tm.filter (stays fired)).toList) := by
    intro t hshows
    have hall := shows_dropExpired fired s.visible.length hshows (Nat.le_of_eq hlen)
    have hst : st.filter (stays fired) = st :=
      List.filter_eq_self.mpr fun c hc => by simp [stays, h.standing c hc]
    have htm : tm.toList.filter (stays fired) = (tm.filter (stays fired)).toList := by
      cases tm with
      | none => rfl
      | some c => cases hc : stays fired c <;> simp [Option.filter, hc]
    rwa [hlen, List.take_length, List.drop_length, List.append_nil, List.filter_append, hst, htm,
      ← hlen] at hall
  have hstopped := hdrop { s with timer := none } h.shows
  have hreaches : Reaches now (dropExpired fired s.visible.length { s with timer := none }) := by
    unfold Reaches at hr ⊢
    rwa [hstopped.zip, ← (hdrop s h.shows).zip]
  have hrecorded : ∀ (i : Nat) (t : NotificationManager),
      (dropExpired fired i t).recorded = t.recorded := by
    intro i
    induction i with
    | zero => exact fun t => rfl
    | succ i ih =>
        intro t
        rw [dropExpired, ih]
        split <;> rfl
  have htimed : ∀ c ∈ tm.filter (stays fired), IsStanding c.1.type = false :=
    fun c hc => h.timed c (Option.filter_eq_some_iff.mp hc).1
  refine ⟨st, tm.filter (stays fired), ⟨hstopped, h.standing, htimed, ?_, ?_,
    armedFor_reschedule negative hstopped h.standing htimed hreaches⟩, fun c hc => hc⟩
  · exact (hrecorded _ { s with timer := none }).symm ▸ h.order
  · exact fun c hc => (hrecorded _ { s with timer := none }).symm ▸
      h.recorded c (Option.filter_eq_some_iff.mp hc).1

end

/-! ## Runs -/

theorem Numbered.of_eq {s s' : NotificationManager} (h : Numbered s)
    (hr : s'.recorded = s.recorded) (hn : s'.nextSequence = s.nextSequence) : Numbered s' :=
  ⟨hr ▸ h.length, by rw [hn, hr]; exact h.next, hr ▸ h.sequences⟩

theorem dropExpired_frame (fired : Int) (i : Nat) (s : NotificationManager) :
    (dropExpired fired i s).recorded = s.recorded ∧
      (dropExpired fired i s).nextSequence = s.nextSequence := by
  induction i generalizing s with
  | zero => exact ⟨rfl, rfl⟩
  | succ i ih =>
      rw [dropExpired]
      obtain ⟨hr, hn⟩ := ih (if s.isExpired fired i then s.removeAt i else s)
      rw [hr, hn]
      split <;> exact ⟨rfl, rfl⟩

theorem promote_frame (s : NotificationManager) (e : NotificationEvent) (shownAt : Int) :
    (s.promote e shownAt).recorded = s.recorded ∧
      (s.promote e shownAt).nextSequence = s.nextSequence := by
  rw [promote]
  split
  · exact ⟨rfl, rfl⟩
  · split <;> exact ⟨rfl, rfl⟩

theorem Numbered.enqueue {s : NotificationManager} (h : Numbered s) (negative : Int → Option Int)
    (type : NotificationType) (shownAt now : Int) (hroom : s.recorded.length < 2 ^ 64) :
    Numbered (s.Enqueue negative type shownAt now) := by
  have hrecord := h.record hroom type shownAt
  rw [Enqueue]
  dsimp only
  split
  · exact hrecord
  · split
    · exact hrecord
    · obtain ⟨hr, hn⟩ := promote_frame (s.record type shownAt).2 (s.record type shownAt).1 shownAt
      exact hrecord.of_eq hr hn

/-- One step keeps the invariant. -/
theorem toasts_step {negative : Int → Option Int} {s s' : NotificationManager} {st : List Card}
    {tm : Option Card} {a : ToastAction} (h : Toasts s st tm) (hn : Numbered s) (ht : Timely s a)
    (hs : step negative s a = some s') : Numbered s' ∧ ∃ st' tm', Toasts s' st' tm' := by
  cases a with
  | enqueue type shownAt now =>
      obtain rfl := Option.some.inj hs
      obtain ⟨st', tm', h', -⟩ := h.enqueue negative ht.2
      exact ⟨hn.enqueue negative type shownAt now ht.1, st', tm', h'⟩
  | dismiss sequence now =>
      obtain rfl := Option.some.inj hs
      obtain ⟨st', tm', h', -⟩ := h.dismiss negative ht
      refine ⟨?_, st', tm', h'⟩
      rw [Dismiss]
      split
      · exact hn.of_eq rfl rfl
      · exact hn
  | setToastsEnabled enabled now =>
      obtain rfl := Option.some.inj hs
      obtain ⟨st', tm', h', -⟩ := h.setToastsEnabled negative enabled now
      refine ⟨?_, st', tm', h'⟩
      rw [SetToastsEnabled]
      split
      · exact hn.of_eq rfl rfl
      · exact hn.of_eq rfl rfl
  | timerFired fired now =>
      rw [step] at hs
      split at hs
      · obtain rfl := Option.some.inj hs
        obtain ⟨st', tm', h', -⟩ := h.timerFired negative ht
        obtain ⟨hr, hn'⟩ := dropExpired_frame fired s.visible.length { s with timer := none }
        exact ⟨hn.of_eq hr hn', st', tm', h'⟩
      · exact nomatch hs

/-- What holds of the visible toasts. -/
structure ToastSet (s : NotificationManager) : Prop where
  /-- Every visible event stands beside the reading at which it was shown. -/
  inStep : ∃ cards : List Card, s.visible = cards.map Prod.fst ∧
    s.visibleShownAt = cards.map Prod.snd ∧ ∀ c ∈ cards, c ∈ s.recorded
  oneTimed : ∃ standing timed, s.visible = standing ++ timed ∧ timed.length ≤ 1 ∧
    (∀ e ∈ standing, IsStanding e.type = true) ∧ ∀ e ∈ timed, IsStanding e.type = false
  order : (s.visible.filter fun e => IsStanding e.type).Sublist (s.recorded.map Prod.fst)
  once : (s.visible.map NotificationEvent.sequence).Nodup
  armed : s.timer.isSome = s.visible.any fun e => !IsStanding e.type
  expiry : ∀ t ∈ s.timer, ∃ c ∈ s.visible.zip s.visibleShownAt, IsStanding c.1.type = false ∧
    t.interval = max 0 (expiry c - t.startedAt)

theorem Numbered.nodup {s : NotificationManager} (h : Numbered s) :
    (s.recorded.map fun c => c.1.sequence).Nodup := by
  rw [List.nodup_iff_getElem?_ne_getElem?]
  intro i j hij hj heq
  rw [List.length_map] at hj
  have hi : i < s.recorded.length := by omega
  rw [List.getElem?_map, List.getElem?_map, List.getElem?_eq_getElem hi,
    List.getElem?_eq_getElem hj] at heq
  have hseq : s.recorded[i].1.sequence = s.recorded[j].1.sequence := by simpa using heq
  rw [h.sequences i _ (List.getElem?_eq_getElem hi),
    h.sequences j _ (List.getElem?_eq_getElem hj)] at hseq
  have hlen := h.length
  omega

theorem Toasts.toastSet {s : NotificationManager} {st : List Card} {tm : Option Card}
    (h : Toasts s st tm) (hn : Numbered s) : ToastSet s := by
  obtain ⟨hvisible, hshownAt⟩ := h.shows
  have hmem : ∀ c ∈ st ++ tm.toList, c ∈ s.recorded := by
    intro c hc
    rcases List.mem_append.mp hc with hc | hc
    · exact h.order.subset hc
    · exact h.recorded c (Option.mem_toList.mp hc)
  refine ⟨⟨_, hvisible, hshownAt, hmem⟩, ?_, ?_, ?_, ?_, ?_⟩
  · refine ⟨st.map Prod.fst, tm.toList.map Prod.fst, by rw [hvisible, List.map_append], ?_, ?_, ?_⟩
    · cases tm <;> simp
    · intro e he
      obtain ⟨c, hc, rfl⟩ := List.mem_map.mp he
      exact h.standing c hc
    · intro e he
      obtain ⟨c, hc, rfl⟩ := List.mem_map.mp he
      exact h.timed c (Option.mem_toList.mp hc)
  · have hst : (st.map Prod.fst).filter (fun e => IsStanding e.type) = st.map Prod.fst := by
      refine List.filter_eq_self.mpr fun e he => ?_
      obtain ⟨c, hc, rfl⟩ := List.mem_map.mp he
      exact h.standing c hc
    have htm : (tm.toList.map Prod.fst).filter (fun e => IsStanding e.type) = [] := by
      refine List.filter_eq_nil_iff.mpr fun e he => ?_
      obtain ⟨c, hc, rfl⟩ := List.mem_map.mp he
      simp [h.timed c (Option.mem_toList.mp hc)]
    rw [hvisible, List.map_append, List.filter_append, hst, htm, List.append_nil]
    exact h.order.map _
  · rw [hvisible, List.map_map]
    have hst : (st.map fun c => c.1.sequence).Nodup := hn.nodup.sublist (h.order.map _)
    cases tm with
    | none => simpa [Function.comp_def] using hst
    | some c =>
        have hnew : c.1.sequence ∉ st.map fun c => c.1.sequence := by
          intro hc
          obtain ⟨d, hd, hseq⟩ := List.mem_map.mp hc
          have hdc : d = c :=
            List.inj_on_of_nodup_map hn.nodup (h.order.subset hd) (h.recorded c rfl) hseq
          have hstanding := h.standing d hd
          rw [hdc, h.timed c rfl] at hstanding
          exact absurd hstanding (by simp)
        rw [Option.toList_some, List.map_append, List.nodup_append']
        exact ⟨hst, by simp, by simpa [Function.comp_def] using hnew⟩
  · have hst : (st.map Prod.fst).any (fun e => !IsStanding e.type) = false := by
      refine List.any_eq_false.mpr fun e he => ?_
      obtain ⟨c, hc, rfl⟩ := List.mem_map.mp he
      simp [h.standing c hc]
    rw [hvisible, List.map_append, List.any_append, hst, Bool.false_or]
    have harmed := h.armed
    cases tm with
    | none => simp [show s.timer = none from harmed]
    | some c =>
        obtain ⟨now, hnow⟩ := harmed
        simp [hnow, h.timed c rfl]
  · intro t ht
    have harmed := h.armed
    cases tm with
    | none =>
        rw [show s.timer = none from harmed] at ht
        exact nomatch ht
    | some c =>
        obtain ⟨now, hnow⟩ := harmed
        rw [hnow] at ht
        obtain rfl := Option.some.inj ht
        exact ⟨c, by rw [h.shows.zip]; simp, h.timed c rfl, rfl⟩

/-- The way a standing event can leave. -/
theorem standing_leaves {negative : Int → Option Int} {s s' : NotificationManager}
    {st : List Card} {tm : Option Card} {a : ToastAction} (h : Toasts s st tm) (ht : Timely s a)
    (hs : step negative s a = some s') {e : NotificationEvent} (he : e ∈ s.visible)
    (hst : IsStanding e.type = true) (hgone : e ∉ s'.visible) :
    (∃ now, a = .dismiss e.sequence now) ∨ ∃ now, a = .setToastsEnabled false now := by
  obtain ⟨c, hc, hce⟩ : ∃ c ∈ st, c.1 = e := by
    rw [h.shows.1] at he
    obtain ⟨c, hc, rfl⟩ := List.mem_map.mp he
    rcases List.mem_append.mp hc with hc | hc
    · exact ⟨c, hc, rfl⟩
    · rw [h.timed c (Option.mem_toList.mp hc)] at hst
      exact absurd hst (by simp)
  have hkept : ∀ {t : NotificationManager} {st' : List Card} {tm' : Option Card},
      Toasts t st' tm' → c ∈ st' → e ∈ t.visible := by
    intro t st' tm' ht hc
    rw [ht.shows.1, List.map_append]
    exact List.mem_append_left _ (hce ▸ List.mem_map_of_mem hc)
  cases a with
  | enqueue type shownAt now =>
      obtain rfl := Option.some.inj hs
      obtain ⟨st', tm', h', hsub⟩ := h.enqueue negative ht.2
      exact absurd (hkept h' (hsub c hc)) hgone
  | dismiss sequence now =>
      obtain rfl := Option.some.inj hs
      obtain ⟨st', tm', h', hsub⟩ := h.dismiss negative ht
      rcases hsub c hc with hc' | hseq
      · exact absurd (hkept h' hc') hgone
      · exact .inl ⟨now, by rw [← hce, hseq]⟩
  | setToastsEnabled enabled now =>
      obtain rfl := Option.some.inj hs
      obtain ⟨st', tm', h', hsub⟩ := h.setToastsEnabled negative enabled now
      cases enabled with
      | true => exact absurd (hkept h' (hsub rfl c hc)) hgone
      | false => exact .inr ⟨now, rfl⟩
  | timerFired fired now =>
      rw [step] at hs
      split at hs
      · obtain rfl := Option.some.inj hs
        obtain ⟨st', tm', h', hsub⟩ := h.timerFired negative ht
        exact absurd (hkept h' (hsub c hc)) hgone
      · exact nomatch hs

theorem toasts_exec {negative : Int → Option Int} {as : List ToastAction} {s : NotificationManager}
    (hm : StepRun.Meets (step negative) Timely {} as)
    (he : StepRun.exec (step negative) {} as = some s) :
    Numbered s ∧ ∃ st tm, Toasts s st tm := by
  refine StepRun.exec_invariant
    (I := fun s : NotificationManager => Numbered s ∧ ∃ st tm, Toasts s st tm)
    (fun s a s' hI ht hs => ?_) ?_ hm he
  · obtain ⟨hn, st, tm, h⟩ := hI
    exact toasts_step h hn ht hs
  · refine ⟨⟨by simp, rfl, fun i c hc => nomatch hc⟩, [], none, ⟨rfl, rfl⟩,
      (fun c hc => nomatch hc),
      (fun c hc => nomatch hc), List.Sublist.slnil, (fun c hc => nomatch hc), rfl⟩

/-- The visible toasts after any run whose steps are timely, and the only ways in which a standing
    one leaves. -/
theorem toast_set (negative : Int → Option Int) (as : List ToastAction) (s : NotificationManager)
    (hm : StepRun.Meets (step negative) Timely {} as)
    (he : StepRun.exec (step negative) {} as = some s) :
    ToastSet s ∧ ∀ a s', Timely s a → step negative s a = some s' → ∀ e ∈ s.visible,
      IsStanding e.type = true → e ∉ s'.visible →
      (∃ now, a = .dismiss e.sequence now) ∨ ∃ now, a = .setToastsEnabled false now := by
  obtain ⟨hn, st, tm, h⟩ := toasts_exec hm he
  exact ⟨h.toastSet hn, fun a s' ht hs e hmem hst hgone =>
    standing_leaves h ht hs hmem hst hgone⟩

/-- A saved file is announced, then the disk runs low. -/
theorem toast_set_two :
    StepRun.Meets (step fun _ => none) Timely {}
        [.enqueue .saved 10 11, .enqueue .lowStorage 20 21] ∧
    ∃ s, StepRun.exec (step fun _ => none) {}
        [.enqueue .saved 10 11, .enqueue .lowStorage 20 21] = some s ∧ ToastSet s := by
  have hm : StepRun.Meets (step fun _ => none) Timely {}
      [.enqueue .saved 10 11, .enqueue .lowStorage 20 21] := by decide
  exact ⟨hm, _, rfl, (toast_set (fun _ => none) _ _ hm rfl).1⟩

/-- The clock is set back by 58 days while a timed toast is shown, and the delay no longer fits an
    `int`: the timer is not armed for the toast's expiry. -/
theorem timer_missed_expiry : ∃ s,
    StepRun.exec (step fun _ => none) {} [.enqueue .saved 1800000000000 1800000000000,
      .enqueue .lowStorage 1795000000000 1795000000000] = some s ∧ ¬ ToastSet s := by
  refine ⟨_, rfl, fun h => ?_⟩
  obtain ⟨c, hc, htimed, hinterval⟩ := h.expiry ⟨705042704, 1795000000000⟩ rfl
  have hcards : c ∈ [((⟨.lowStorage, 2⟩, 1795000000000) : Card),
      (⟨.saved, 1⟩, 1800000000000)] := hc
  rcases List.mem_cons.mp hcards with rfl | hsaved
  · exact absurd htimed (by decide)
  · obtain rfl := List.mem_singleton.mp hsaved
    exact absurd hinterval (by decide)

end Exosnap.Notifications
