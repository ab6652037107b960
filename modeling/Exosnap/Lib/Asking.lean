/-
  Programs that ask an environment, one question at a time, and a logic for them.

  A program is its answer, or a question and what it does with the reply. An environment keeps a
  world: a choice of its own decides the reply to a question and the world behind it. `wp` is the
  weakest precondition under a contract: where every choice so far was allowed, the contract's
  invariant holds whenever a question is open, and the postcondition holds at the end.
-/

namespace Asking

structure Interface where
  Request : Type
  Reply : Request → Type

inductive Prog (I : Interface) (α : Type) where
  | done (a : α)
  | ask (r : I.Request) (k : I.Reply r → Prog I α)

variable {I : Interface} {α β W : Type}

def Prog.bind : Prog I α → (α → Prog I β) → Prog I β
  | .done a, f => f a
  | .ask r k, f => .ask r fun reply => (k reply).bind f

instance : Monad (Prog I) where
  pure := .done
  bind := Prog.bind

/-- The question alone. -/
def query (r : I.Request) : Prog I (I.Reply r) := .ask r .done

structure Environment (I : Interface) (W : Type) where
  Choice : I.Request → Type
  reply : W → (r : I.Request) → Choice r → I.Reply r
  next : W → (r : I.Request) → Choice r → W

/-- What may be chosen, and what holds whenever a question is open. -/
structure Contract (E : Environment I W) where
  allowed : W → (r : I.Request) → E.Choice r → Prop
  inv : W → I.Request → Prop

variable {E : Environment I W} {C : Contract E}

def wp (C : Contract E) (post : α → W → Prop) : Prog I α → W → Prop
  | .done a, w => post a w
  | .ask r k, w =>
      C.inv w r ∧ ∀ c, C.allowed w r c → wp C post (k (E.reply w r c)) (E.next w r c)

@[simp] theorem wp_done {post : α → W → Prop} (a : α) (w : W) :
    wp C post (.done a) w ↔ post a w := Iff.rfl

@[simp] theorem wp_pure {post : α → W → Prop} (a : α) (w : W) :
    wp C post (pure a) w ↔ post a w := Iff.rfl

theorem wp_ask {post : α → W → Prop} {r : I.Request} {k : I.Reply r → Prog I α} {w : W} :
    wp C post (.ask r k) w ↔
      C.inv w r ∧ ∀ c, C.allowed w r c → wp C post (k (E.reply w r c)) (E.next w r c) := Iff.rfl

theorem wp_bind {post : β → W → Prop} {x : Prog I α} {f : α → Prog I β} {w : W} :
    wp C post (x >>= f) w ↔ wp C (fun a w => wp C post (f a) w) x w := by
  induction x generalizing w with
  | done a => exact Iff.rfl
  | ask r k ih => exact and_congr Iff.rfl (forall_congr' fun c => imp_congr Iff.rfl (ih _))

theorem wp_query_bind {post : α → W → Prop} {r : I.Request} {f : I.Reply r → Prog I α} {w : W} :
    wp C post (query r >>= f) w ↔
      C.inv w r ∧ ∀ c, C.allowed w r c → wp C post (f (E.reply w r c)) (E.next w r c) := Iff.rfl

/-- The rule of consequence. -/
theorem wp_mono {post post' : α → W → Prop} {x : Prog I α} {w : W} (hx : wp C post x w)
    (h : ∀ a w, post a w → post' a w) : wp C post' x w := by
  induction x generalizing w with
  | done a => exact h a w hx
  | ask r k ih => exact ⟨hx.1, fun c hc => ih _ (hx.2 c hc)⟩

/-- A part of a program that is known by its specification. -/
theorem wp_seq {mid : α → W → Prop} {post : β → W → Prop} {x : Prog I α} {f : α → Prog I β}
    {w : W} (hx : wp C mid x w) (h : ∀ a w, mid a w → wp C post (f a) w) :
    wp C post (x >>= f) w :=
  wp_bind.mpr (wp_mono hx h)

end Asking
