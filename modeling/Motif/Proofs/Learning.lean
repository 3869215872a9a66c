import Motif.Engine

/-!
What learning leaves alone.  Raising base confidences never touches the outline of a pattern, which
is all that recognising reads, and the order in which the names of the matches come does not matter
to the catalog after it.
-/

namespace Motif

/-- All of a pattern but its base confidence. -/
def Pattern.outline (p : Pattern) : String × WordSet × String :=
  (p.name, p.indicators, p.description)

namespace Catalog

def outlines (c : Catalog) : List (String × WordSet × String) := c.patterns.map Pattern.outline

/-! ## One reinforcement -/

theorem reinforce_fst (c : Catalog) (name : String) (delta : Float) :
    (c.reinforce name delta).1 =
      { c with
        patterns := Sequence.changeFirst (·.name == name) (·.reinforce delta c.cap) c.patterns } := by
  unfold reinforce
  cases h : c.get? name with
  | none => rw [Sequence.changeFirst_eq_self h]
  | some p => rfl

theorem reinforce_comm (c : Catalog) (m n : String) (delta : Float) :
    ((c.reinforce m delta).1.reinforce n delta).1 =
      ((c.reinforce n delta).1.reinforce m delta).1 := by
  have hname (q : Pattern) : (q.reinforce delta c.cap).name = q.name := rfl
  simp only [reinforce_fst]
  rw [Sequence.changeFirst_comm (fun q => by rw [hname]) (fun q => by rw [hname])]

theorem outlines_reinforce (c : Catalog) (name : String) (delta : Float) :
    (c.reinforce name delta).1.outlines = c.outlines := by
  rw [reinforce_fst]
  exact Sequence.map_changeFirst fun _ => rfl

theorem cap_reinforce (c : Catalog) (name : String) (delta : Float) :
    (c.reinforce name delta).1.cap = c.cap := by
  rw [reinforce_fst]

/-! ## All reinforcements of a commit -/

section

variable {delta : Float} {fragment : Uuid} {now : Timestamp}

theorem learn_cons_fst (c : Catalog) (m : Match) (rest : List Match) :
    (c.learn delta fragment now (m :: rest)).1 =
      ((c.reinforce m.pattern delta).1.learn delta fragment now rest).1 := by
  rw [learn]
  split
  · next c' h => rw [h]
  · next c' r h => rw [h]

theorem learn_fst (c : Catalog) (ms : List Match) :
    (c.learn delta fragment now ms).1 =
      (ms.map (·.pattern)).foldl (fun c name => (c.reinforce name delta).1) c := by
  induction ms generalizing c with
  | nil => rfl
  | cons m rest ih => rw [learn_cons_fst, ih, List.map_cons, List.foldl_cons]

theorem outlines_learn (c : Catalog) (ms : List Match) :
    (c.learn delta fragment now ms).1.outlines = c.outlines := by
  induction ms generalizing c with
  | nil => rfl
  | cons m rest ih => rw [learn_cons_fst, ih, outlines_reinforce]

/-- What is learned depends on how often each name matched and on nothing else. -/
theorem learn_perm (c : Catalog) {ms ns : List Match}
    (h : (ms.map (·.pattern)).Perm (ns.map (·.pattern))) (fragment' : Uuid) (now' : Timestamp) :
    (c.learn delta fragment now ms).1 = (c.learn delta fragment' now' ns).1 := by
  rw [learn_fst, learn_fst]
  exact h.foldl_eq' (fun m _ n _ z => reinforce_comm z m n delta) c

end

end Catalog
end Motif
