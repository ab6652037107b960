/-
  What `lexically_normal` leaves of the names of a path: a stack on which `..` takes the name below it
  away. Names that are joined to a normal path are left alone by normalizing it again.
-/
import Mathlib
import Exosnap.Services.FilesystemPath

namespace Exosnap.Services.Path

/-- A name that normalizing leaves alone wherever it stands. -/
def IsOrdinary (name : String) : Prop := name ≠ "" ∧ name ≠ "." ∧ name ≠ ".."

/-- The names of a normal path, the last one first: `..` stands at the bottom, and only where there is
    no root directory. -/
def NormalStack (rootDirectory : Bool) : List String → Prop
  | [] => True
  | name :: stack =>
      name ≠ "" ∧ name ≠ "." ∧
        (name = ".." → rootDirectory = false ∧ ∀ below ∈ stack, below = "..") ∧
        NormalStack rootDirectory stack

theorem pushName_ordinary {rootDirectory : Bool} {name : String} (h : IsOrdinary name)
    (stack : List String) : pushName rootDirectory stack name = name :: stack := by
  unfold pushName
  rw [if_neg (by simp [h.1, h.2.1]), if_neg h.2.2]

theorem normalStack_pushName {rootDirectory : Bool} {stack : List String} (name : String)
    (h : NormalStack rootDirectory stack) :
    NormalStack rootDirectory (pushName rootDirectory stack name) := by
  unfold pushName
  split
  · exact h
  next hname =>
  rw [not_or] at hname
  split
  · next hparent =>
    cases stack with
    | nil =>
      cases rootDirectory with
      | true => trivial
      | false => exact ⟨by decide, by decide, fun _ => ⟨rfl, fun _ hb => nomatch hb⟩, trivial⟩
    | cons top rest =>
      obtain ⟨hempty, hdot, hbelow, hrest⟩ := h
      dsimp only
      split
      · next htop =>
        refine ⟨by decide, by decide, fun _ => ⟨(hbelow htop).1, ?_⟩, hempty, hdot, hbelow, hrest⟩
        rintro below (_ | ⟨_, hb⟩)
        · exact htop
        · exact (hbelow htop).2 below hb
      · exact hrest
  · next hparent => exact ⟨hname.1, hname.2, fun h => absurd h hparent, h⟩

theorem normalStack_foldl {rootDirectory : Bool} (names : List String) {stack : List String}
    (h : NormalStack rootDirectory stack) :
    NormalStack rootDirectory (names.foldl (pushName rootDirectory) stack) := by
  induction names generalizing stack with
  | nil => exact h
  | cons name names ih => exact ih (normalStack_pushName name h)

/-- Normalizing what is normal. -/
theorem foldl_pushName_reverse {rootDirectory : Bool} {stack : List String}
    (h : NormalStack rootDirectory stack) :
    stack.reverse.foldl (pushName rootDirectory) [] = stack := by
  induction stack with
  | nil => rfl
  | cons name stack ih =>
    obtain ⟨hempty, hdot, hbelow, hstack⟩ := h
    rw [List.reverse_cons, List.foldl_append, ih hstack, List.foldl_cons, List.foldl_nil]
    by_cases hparent : name = ".."
    · obtain ⟨hroot, hall⟩ := hbelow hparent
      rw [hparent, hroot]
      cases stack with
      | nil => rfl
      | cons top rest => simp [pushName, hall top List.mem_cons_self]
    · exact pushName_ordinary ⟨hempty, hdot, hparent⟩ stack

theorem foldl_pushName_ordinary {rootDirectory : Bool} {names : List String}
    (h : ∀ name ∈ names, IsOrdinary name) (stack : List String) :
    names.foldl (pushName rootDirectory) stack = names.reverse ++ stack := by
  induction names generalizing stack with
  | nil => rfl
  | cons name names ih =>
    rw [List.foldl_cons, pushName_ordinary (h name List.mem_cons_self), ih fun n hn => h n (List.mem_cons_of_mem name hn)]
    simp

/-- The stack of a path's names. -/
def nameStack (p : Path) : List String := p.names.foldl (pushName p.rootDirectory) []

theorem normalStack_nameStack (p : Path) : NormalStack p.rootDirectory p.nameStack :=
  normalStack_foldl p.names trivial

/-- The names of the stack, with an empty one at the end if the path ends in a separator. -/
def normalNames (p : Path) : List String :=
  let trailing := p.names.getLast?.any fun name => name == "" || name == "." || name == ".."
  p.nameStack.reverse ++
    if trailing ∧ p.nameStack ≠ [] ∧ p.nameStack.head? ≠ some ".." then [""] else []

theorem lexicallyNormal_eq (p : Path) :
    p.lexicallyNormal =
      if p.names ≠ [] ∧ p.normalNames = [] ∧ p.rootName = "" ∧ p.rootDirectory = false then
        { p with names := ["."] }
      else { p with names := p.normalNames } := rfl

@[simp] theorem lexicallyNormal_rootName (p : Path) : p.lexicallyNormal.rootName = p.rootName := by
  rw [lexicallyNormal_eq]
  split <;> rfl

@[simp] theorem lexicallyNormal_rootDirectory (p : Path) :
    p.lexicallyNormal.rootDirectory = p.rootDirectory := by
  rw [lexicallyNormal_eq]
  split <;> rfl

/-- A normal path has the names of the stack, and after them nothing, or an empty name for the
    separator at the end; or it is `.` alone. -/
theorem lexicallyNormal_names (p : Path) :
    p.lexicallyNormal.names = p.nameStack.reverse ∨
      (p.lexicallyNormal.names = p.nameStack.reverse ++ [""] ∧ p.nameStack ≠ []) ∨
      (p.lexicallyNormal.names = ["."] ∧ p.nameStack = [] ∧ p.rootName = "" ∧
        p.rootDirectory = false) := by
  rw [lexicallyNormal_eq]
  split
  · next h =>
    refine .inr (.inr ⟨rfl, ?_, h.2.2⟩)
    exact List.reverse_eq_nil_iff.mp (List.append_eq_nil_iff.mp h.2.1).1
  · dsimp only [normalNames]
    split
    · next h => exact .inr (.inl ⟨rfl, h.2.1⟩)
    · exact .inl (List.append_nil _)

/-- Ordinary names at the end of a path stay there. -/
theorem lexicallyNormal_append {p : Path} {base names : List String} (hne : names ≠ [])
    (hnames : ∀ name ∈ names, IsOrdinary name) (hp : p.names = base ++ names) :
    p.lexicallyNormal.names = (base.foldl (pushName p.rootDirectory) []).reverse ++ names := by
  have hlast : p.names.getLast? = some (names.getLast hne) := by
    rw [hp, List.getLast?_append_of_ne_nil _ hne, List.getLast?_eq_some_getLast hne]
  obtain ⟨hempty, hdot, hparent⟩ := hnames _ (List.getLast_mem hne)
  have hnormal : p.normalNames = (base.foldl (pushName p.rootDirectory) []).reverse ++ names := by
    have htrailing : (p.names.getLast?.any fun name => name == "" || name == "." || name == "..") =
        false := by
      rw [hlast]
      simp [hempty, hdot, hparent]
    rw [normalNames, htrailing, if_neg (by simp), nameStack, hp, List.foldl_append,
      foldl_pushName_ordinary hnames]
    simp
  rw [lexicallyNormal_eq, if_neg, hnormal]
  rw [hnormal]
  simp [hne]

end Exosnap.Services.Path
