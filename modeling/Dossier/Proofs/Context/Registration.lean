import Dossier.Context

/-! Registrations: what they put into a context, and what a context carries after a row of them. The
latest registration of a name counts, a name that nothing was registered under keeps what a new
context has there, and a blank name is refused. -/

namespace Dossier

variable {μ : Type}

inductive Registration (μ : Type) where
  | addOperator (name : String) (op : Operator)
  | addMacro (name : String) (body : μ)

namespace Registration

def name : Registration μ → String
  | addOperator name _ => name
  | addMacro name _ => name

/-- The operator that a registration binds a name to; an alias is the name it stands for. -/
def operator? (key : String) : Registration μ → Option Operator
  | addOperator name op =>
    if Operator.canonicalName name = Operator.canonicalName key then some op else none
  | addMacro _ _ => none

def body? (key : String) : Registration μ → Option μ
  | addOperator _ _ => none
  | addMacro name body => if name = key then some body else none

/-- What the latest of a row of registrations gives that gives anything. -/
def latest? {α : Type} (f : Registration μ → Option α) (rs : List (Registration μ)) : Option α :=
  rs.reverse.findSome? f

theorem latest?_append {α : Type} (f : Registration μ → Option α) (rs : List (Registration μ))
    (r : Registration μ) : latest? f (rs ++ [r]) = (f r).or (latest? f rs) := by
  rw [latest?, List.reverse_append, List.reverse_singleton, List.singleton_append,
    List.findSome?_cons]
  cases f r <;> rfl

end Registration

namespace Context

def register (c : Context μ) : Registration μ → Except Fault (Context μ)
  | .addOperator name op => c.addOperator name op
  | .addMacro name body => c.addMacro name body

/-- What a context carries after a row of registrations on new settings: these settings, the latest
operator of each name or else the built-in one, and the latest macro of each name. No name is in a
table twice. -/
structure Carries (c : Context μ) (s : Settings) (rs : List (Registration μ)) : Prop where
  settings : c.settings = s
  operators : ∀ key, c.operators.get? key =
    (Registration.latest? (·.operator? key) rs).or (Operators.builtIn.get? key)
  macros : ∀ key, c.macros.get? key = Registration.latest? (·.body? key) rs
  nodup_operators : c.operators.bindings.keys.Nodup
  nodup_macros : c.macros.keys.Nodup

theorem carries_new (s : Settings) : (new s : Context μ).Carries s [] where
  settings := rfl
  operators _ := rfl
  macros _ := rfl
  nodup_operators := by
    show Operators.builtIn.bindings.keys.Nodup
    decide
  nodup_macros := List.nodup_nil

theorem addOperator_eq (c : Context μ) (name : String) (op : Operator) :
    c.addOperator name op =
      if isBlankText name then .error .blankOperatorName
      else .ok { c with
        operators := ⟨c.operators.bindings.insert (Operator.canonicalName name) op⟩ } := by
  rw [addOperator, Operators.register]
  cases isBlankText name <;> rfl

variable {c c' : Context μ} {s : Settings} {rs : List (Registration μ)} {r : Registration μ}

theorem exists_register_iff : (∃ c', c.register r = .ok c') ↔ isBlankText r.name = false := by
  cases r with
  | addOperator name op =>
    rw [register, addOperator_eq, Registration.name]
    cases isBlankText name <;> simp
  | addMacro name body =>
    rw [register, addMacro, Registration.name]
    cases isBlankText name <;> simp

/-- A registration that is made is the latest of its name, and no other name is touched. -/
theorem Carries.register (h : c.Carries s rs) (hr : c.register r = .ok c') :
    c'.Carries s (rs ++ [r]) := by
  cases r with
  | addOperator name op =>
    rw [Context.register, addOperator_eq] at hr
    split at hr
    · cases hr
    · cases hr
      refine ⟨h.settings, fun key => ?_, fun key => ?_, ?_, h.nodup_macros⟩
      · rw [Registration.latest?_append, Option.or_assoc, ← h.operators key, Operators.get?_bind]
        by_cases hname : Operator.canonicalName name = Operator.canonicalName key <;>
          simp [Registration.operator?, hname]
      · rw [Registration.latest?_append, ← h.macros key]
        rfl
      · exact Entries.nodup_keys_insert h.nodup_operators _ op
  | addMacro name body =>
    rw [Context.register, addMacro] at hr
    split at hr
    · cases hr
    · cases hr
      refine ⟨h.settings, fun key => ?_, fun key => ?_, h.nodup_operators, ?_⟩
      · rw [Registration.latest?_append, Option.or_assoc, ← h.operators key]
        rfl
      · rw [Registration.latest?_append, ← h.macros key, Entries.get?_insert]
        by_cases hname : name = key <;> simp [Registration.body?, hname]
      · exact Entries.nodup_keys_insert h.nodup_macros name body

end Context

end Dossier
