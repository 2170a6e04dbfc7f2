import Dossier.Model.Transform
import Dossier.Proofs.Context.Registration
import Dossier.Proofs.Deferred.Parity
import Mathlib.Logic.Relation

/-! Lineages. A history of calls makes a forest of instances: some start from settings, some are
derived from others, and some are others with a registration. What an instance carries is told by
its own chain of ancestors alone: the settings at its root and the registrations along the chain,
the latest of each name. What happens beside the chain, or later to an ancestor, does not reach
it. -/

namespace Dossier

inductive Member (μ : Type) where
  | collection (c : Collection μ)
  | deferred (d : Deferred μ)
  | model (m : Model μ)

namespace Member

variable {μ : Type}

def context : Member μ → Context μ
  | collection c => c.context
  | deferred d => d.context
  | model m => m.context

def captured : Member μ → List (Context μ)
  | deferred d => d.pending.map Deferred.Pending.context
  | _ => []

def register : Member μ → Registration μ → Except Fault (Member μ)
  | collection c, .addOperator name op => return collection (← c.addOperator name op)
  | collection c, .addMacro name body => return collection (← c.addMacro name body)
  | deferred d, .addOperator name op => return deferred (← d.addOperator name op)
  | deferred d, .addMacro name body => return deferred (← d.addMacro name body)
  | model m, .addOperator name op => return model (← m.addOperator name op)
  | model m, .addMacro name body => return model (← m.addMacro name body)

variable {x y : Member μ} {s : Settings}

/-- A registration on an instance is made in its context, and the steps that wait keep theirs. -/
theorem context_of_register {r : Registration μ} (h : x.register r = .ok y) :
    x.context.register r = .ok y.context ∧ y.captured = x.captured := by
  cases x <;> cases r <;>
  · obtain ⟨z, hz, hy⟩ := bind_eq_ok_iff.mp h
    cases hy
    obtain ⟨c, hc, hz⟩ := bind_eq_ok_iff.mp hz
    cases hz
    exact ⟨hc, rfl⟩

/-- What an instance carries after registrations along its chain: its context has them all, and the
context that a waiting step took has those made before. -/
structure Carries (x : Member μ) (s : Settings) (rs : List (Registration μ)) : Prop where
  context : x.context.Carries s rs
  captured : ∀ c ∈ x.captured, ∃ before, before <+: rs ∧ c.Carries s before

variable {rs : List (Registration μ)}

theorem Carries.register {r : Registration μ} (hx : x.Carries s rs) (h : x.register r = .ok y) :
    y.Carries s (rs ++ [r]) where
  context := hx.context.register (context_of_register h).1
  captured c hc := by
    rw [(context_of_register h).2] at hc
    obtain ⟨before, hbefore, hc⟩ := hx.captured c hc
    exact ⟨before, hbefore.trans (List.prefix_append rs [r]), hc⟩

end Member

/-! ### A history of calls -/

/-- Where an instance comes from. -/
inductive Origin (μ : Type) where
  | root (s : Settings)
  | derived (parent : Nat)
  | registered (parent : Nat) (r : Registration μ)

/-- The instances of a history in the order in which they came, each with where it comes from. An
instance that a method changes stays as it was, and what it becomes is another. -/
abbrev Forest (μ : Type) := List (Member μ × Origin μ)

namespace Forest

variable {μ : Type}

/-- The chain of ancestors of an instance, as the settings at its root and the registrations along
it, from the earliest to the latest. -/
inductive Lineage (f : Forest μ) : Nat → Settings → List (Registration μ) → Prop
  | root {i : Nat} {x : Member μ} {s : Settings} (hx : f[i]? = some (x, .root s)) : Lineage f i s []
  | derived {i parent : Nat} {x : Member μ} {s : Settings} {rs : List (Registration μ)}
      (hx : f[i]? = some (x, .derived parent)) (h : Lineage f parent s rs) : Lineage f i s rs
  | registered {i parent : Nat} {x : Member μ} {r : Registration μ} {s : Settings}
      {rs : List (Registration μ)} (hx : f[i]? = some (x, .registered parent r))
      (h : Lineage f parent s rs) : Lineage f i s (rs ++ [r])

variable {f f' : Forest μ}

theorem getElem?_of_isPrefix (h : f <+: f') {i : Nat} {n : Member μ × Origin μ}
    (hn : f[i]? = some n) : f'[i]? = some n := by
  obtain ⟨more, rfl⟩ := h
  rw [List.getElem?_append_left (List.getElem?_eq_some_iff.mp hn).1, hn]

variable {i : Nat} {s : Settings} {rs : List (Registration μ)}

theorem Lineage.mono (hl : f.Lineage i s rs) (h : f <+: f') : f'.Lineage i s rs := by
  induction hl with
  | root hx => exact .root (getElem?_of_isPrefix h hx)
  | derived hx _ ih => exact .derived (getElem?_of_isPrefix h hx) ih
  | registered hx _ ih => exact .registered (getElem?_of_isPrefix h hx) ih

/-- An instance has one chain of ancestors. -/
theorem Lineage.unique (hl : f.Lineage i s rs) {s' : Settings} {rs' : List (Registration μ)}
    (hl' : f.Lineage i s' rs') : s' = s ∧ rs' = rs := by
  induction hl generalizing rs' with
  | root hx =>
    cases hl' with
    | root hx' =>
      cases hx.symm.trans hx'
      exact ⟨rfl, rfl⟩
    | derived hx' => cases hx.symm.trans hx'
    | registered hx' => cases hx.symm.trans hx'
  | derived hx _ ih =>
    cases hl' with
    | root hx' => cases hx.symm.trans hx'
    | derived hx' hl' =>
      cases hx.symm.trans hx'
      exact ih hl'
    | registered hx' => cases hx.symm.trans hx'
  | registered hx _ ih =>
    cases hl' with
    | root hx' => cases hx.symm.trans hx'
    | derived hx' => cases hx.symm.trans hx'
    | registered hx' hl' =>
      cases hx.symm.trans hx'
      obtain ⟨rfl, rfl⟩ := ih hl'
      exact ⟨rfl, rfl⟩

/-- Every instance carries what its chain of ancestors tells. -/
def Sound (f : Forest μ) : Prop :=
  ∀ i x o, f[i]? = some (x, o) → ∃ s rs, f.Lineage i s rs ∧ x.Carries s rs

theorem Sound.concat (hf : f.Sound) {x : Member μ} {o : Origin μ}
    (hl : Lineage (f ++ [(x, o)]) f.length s rs) (hx : x.Carries s rs) :
    Sound (f ++ [(x, o)]) := by
  intro i y o' hi
  rcases Nat.lt_trichotomy i f.length with hlt | rfl | hgt
  · rw [List.getElem?_append_left hlt] at hi
    obtain ⟨s', rs', hl', hy⟩ := hf i y o' hi
    exact ⟨s', rs', hl'.mono (List.prefix_append f _), hy⟩
  · rw [List.getElem?_concat_length] at hi
    cases hi
    exact ⟨s, rs, hl, hx⟩
  · have hnone : (f ++ [(x, o)])[i]? = none := by
      rw [List.getElem?_eq_none_iff, List.length_append, List.length_singleton]
      omega
    rw [hnone] at hi
    cases hi

end Forest

end Dossier
