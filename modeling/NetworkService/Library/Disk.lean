import Mathlib.Logic.Function.Basic

/-!
# Files and their history

A disk maps paths to contents.  Besides what it holds now it remembers what it held at every earlier
point, so that a statement about a path can be one about every point of a run of file operations,
including those at which the machine might stop.  `Apart q` is what a sequence of operations on the
one path `q` does to all other paths: nothing, at any point.
-/

namespace Disk

variable {Path Content : Type}

/-- What the disk holds, and what it held at every earlier point, newest first. -/
structure Files (Path Content : Type) where
  now : Path → Option Content
  past : List (Path → Option Content) := []

namespace Files

variable [DecidableEq Path]

def put (f : Files Path Content) (path : Path) (content : Content) : Files Path Content :=
  ⟨Function.update f.now path (some content), f.now :: f.past⟩

def remove (f : Files Path Content) (path : Path) : Files Path Content :=
  ⟨Function.update f.now path none, f.now :: f.past⟩

/-- The file at `source` takes the place of the one at `target`, at one point. -/
def rename (f : Files Path Content) (source target : Path) : Files Path Content :=
  ⟨Function.update (Function.update f.now target (f.now source)) source none, f.now :: f.past⟩

variable (f : Files Path Content) {path source target p : Path} {content : Content}

@[simp] theorem put_now : (f.put path content).now path = some content :=
  Function.update_self path _ f.now

@[simp] theorem remove_now : (f.remove path).now path = none := Function.update_self path _ f.now

theorem rename_source : (f.rename source target).now source = none :=
  Function.update_self source _ _

theorem rename_target (h : target ≠ source) :
    (f.rename source target).now target = f.now source := by
  exact (Function.update_of_ne h _ _).trans (Function.update_self target _ f.now)

theorem rename_other (hs : p ≠ source) (ht : p ≠ target) :
    (f.rename source target).now p = f.now p := by
  exact (Function.update_of_ne hs _ _).trans (Function.update_of_ne ht _ f.now)

end Files

/-! ### Operations on one path -/

/-- From `f` to `g` no path but `q` was touched at any point. -/
structure Apart (q : Path) (f g : Files Path Content) : Prop where
  now : ∀ p, p ≠ q → g.now p = f.now p
  past : ∃ added, g.past = added ++ f.past ∧ ∀ held ∈ added, ∀ p, p ≠ q → held p = f.now p

variable {q : Path} {f g h : Files Path Content} {content : Content}

theorem Apart.refl (q : Path) (f : Files Path Content) : Apart q f f :=
  ⟨fun _ _ => rfl, [], rfl, fun _ hheld => nomatch hheld⟩

theorem Apart.trans (hfg : Apart q f g) (hgh : Apart q g h) : Apart q f h := by
  obtain ⟨earlier, hearlier, hbefore⟩ := hfg.past
  obtain ⟨later, hlater, hafter⟩ := hgh.past
  refine ⟨fun p hp => (hgh.now p hp).trans (hfg.now p hp), later ++ earlier, ?_, ?_⟩
  · rw [hlater, hearlier, List.append_assoc]
  · intro held hheld p hp
    rcases List.mem_append.mp hheld with hheld | hheld
    · exact (hafter held hheld p hp).trans (hfg.now p hp)
    · exact hbefore held hheld p hp

/-- A step whose earlier point is the disk before it. -/
theorem Apart.step {held : Path → Option Content} (hheld : ∀ p, p ≠ q → held p = f.now p) :
    Apart q f ⟨held, f.now :: f.past⟩ := by
  refine ⟨hheld, [f.now], rfl, fun d hd p _ => ?_⟩
  rw [List.mem_singleton.mp hd]

theorem Apart.put [DecidableEq Path] (q : Path) (f : Files Path Content) (content : Content) :
    Apart q f (f.put q content) :=
  Apart.step fun _ hp => Function.update_of_ne hp _ _

theorem Apart.remove [DecidableEq Path] (q : Path) (f : Files Path Content) : Apart q f (f.remove q) :=
  Apart.step fun _ hp => Function.update_of_ne hp _ _

end Disk
