import Dossier.Deferred
import Dossier.Proofs.Context.Registration
import Mathlib.Tactic

/-! A chain kept for later gives what the same chain gives when it is run at once. The two are
compared link by link through the collection at the end of the chain so far: the items of a stage go
on in both, and so does the context, as long as the stage gives back the one it is run in, which no
stage fails to do but by a closure; a registration changes the context for what follows in both. -/

namespace Dossier

variable {μ : Type}

/-! ### Contexts along a chain -/

/-- Whether the closures of a stage give back the context that they are given. -/
def Stage.KeepsContext : Stage μ → Prop
  | .when _ f => ∀ c, (f c).context = c.context
  | .whenElse _ f g => (∀ c, (f c).context = c.context) ∧ ∀ c, (g c).context = c.context
  | .whenEmpty f => ∀ c, (f c).context = c.context
  | .whenNotEmpty f => ∀ c, (f c).context = c.context
  | _ => True

def Link.KeepsContext : Link μ → Prop
  | .stage s => s.KeepsContext
  | _ => True

def Link.Named : Link μ → Prop
  | .stage _ => True
  | .addOperator name _ => isBlankText name = false
  | .addMacro name _ => isBlankText name = false

namespace Collection

theorem context_of_bind {α : Type} {x : Except Fault α} {make : α → Collection μ}
    {context : Context μ} (hm : ∀ a, (make a).context = context) {c : Collection μ}
    (h : (do return make (← x)) = Except.ok c) : c.context = context := by
  cases x with
  | error e => cases h
  | ok a =>
    cases h
    exact hm a

theorem context_of_find {c c' : Collection μ} {q : Query.Source} (h : c.find q = .ok c') :
    c'.context = c.context := by
  unfold Collection.find at h
  refine context_of_bind (fun a => ?_) h
  rfl

theorem context_of_not {c c' : Collection μ} {q : Query.Source} (h : c.not q = .ok c') :
    c'.context = c.context := by
  unfold Collection.not at h
  refine context_of_bind (fun a => ?_) h
  rfl

theorem context_of_only {c c' : Collection μ} {paths : List String} (h : c.only paths = .ok c') :
    c'.context = c.context := by
  unfold Collection.only at h
  refine context_of_bind (fun a => ?_) h
  rfl

theorem context_of_whereOp {c c' : Collection μ} {field operator : String} {operand : Value}
    (h : c.whereOp field operator operand = .ok c') : c'.context = c.context := by
  unfold whereOp at h
  split at h
  · cases h
  · exact context_of_find h

theorem context_when {c : Collection μ} {f : Collection μ → Collection μ}
    (hf : (f c).context = c.context) (condition : Bool) :
    (c.when condition f).context = c.context := by
  cases condition with
  | false => rfl
  | true => exact hf

end Collection

namespace Stage

def closures : Stage μ → List (Collection μ → Collection μ)
  | when _ f => [f]
  | whenElse _ f g => [f, g]
  | whenEmpty f => [f]
  | whenNotEmpty f => [f]
  | _ => []

theorem KeepsContext.closures {s : Stage μ} (hs : s.KeepsContext) (c : Collection μ) :
    ∀ f ∈ s.closures, (f c).context = c.context := by
  cases s with
  | when condition f => simpa [Stage.closures] using hs c
  | whenElse condition f g => simpa [Stage.closures] using And.intro (hs.1 c) (hs.2 c)
  | whenEmpty f => simpa [Stage.closures] using hs c
  | whenNotEmpty f => simpa [Stage.closures] using hs c
  | _ => nofun

/-- A stage gives a collection in the context of the one it is run on, if its closures do so. -/
theorem context_of_run_of_closures {s : Stage μ} {c c' : Collection μ}
    (hs : ∀ f ∈ s.closures, (f c).context = c.context) (h : s.run c = .ok c') :
    c'.context = c.context := by
  cases s with
  | find q => exact Collection.context_of_find h
  | not q => exact Collection.context_of_not h
  | whereOp field operator operand => exact Collection.context_of_whereOp h
  | only paths => exact Collection.context_of_only h
  | when condition f =>
    cases h
    exact Collection.context_when (hs f List.mem_cons_self) condition
  | whenElse condition f g =>
    cases h
    cases condition with
    | false => exact hs g (List.mem_cons_of_mem f List.mem_cons_self)
    | true => exact hs f List.mem_cons_self
  | whenEmpty f =>
    cases h
    exact Collection.context_when (hs f List.mem_cons_self) c.isEmpty
  | whenNotEmpty f =>
    cases h
    exact Collection.context_when (hs f List.mem_cons_self) (!c.isEmpty)
  | pad size fill side =>
    cases h
    cases side <;> rfl
  | _ =>
    cases h
    rfl

theorem context_of_run {s : Stage μ} (hs : s.KeepsContext) {c c' : Collection μ}
    (h : s.run c = .ok c') : c'.context = c.context :=
  context_of_run_of_closures (hs.closures c) h

end Stage

/-! ### Queries read early -/

theorem Context.matcher_read (c : Context μ) (q : Query.Source) :
    (do c.matcher (.built (← q.read c.settings.marker))) = c.matcher q := by
  unfold Context.matcher
  cases q.read c.settings.marker <;> rfl

namespace Collection

theorem find_read (c : Collection μ) (q : Query.Source) :
    (do c.find (.built (← q.read c.context.settings.marker))) = c.find q := by
  unfold Collection.find
  rw [← c.context.matcher_read q]
  cases q.read c.context.settings.marker <;> rfl

theorem not_read (c : Collection μ) (q : Query.Source) :
    (do c.not (.built (← q.read c.context.settings.marker))) = c.not q := by
  unfold Collection.not
  rw [← c.context.matcher_read q]
  cases q.read c.context.settings.marker <;> rfl

theorem findOne_read (c : Collection μ) (q : Query.Source) :
    (do c.findOne (.built (← q.read c.context.settings.marker))) = c.findOne q := by
  unfold Collection.findOne
  rw [← c.context.matcher_read q]
  cases q.read c.context.settings.marker <;> rfl

end Collection

/-! ### One link -/

theorem Context.addOperator_of_named (c : Context μ) {name : String} (op : Operator)
    (hn : isBlankText name = false) : ∃ c', c.addOperator name op = .ok c' :=
  (exists_register_iff (r := .addOperator name op)).mpr hn

theorem Context.addMacro_of_named (c : Context μ) {name : String} (body : μ)
    (hn : isBlankText name = false) : ∃ c', c.addMacro name body = .ok c' :=
  (exists_register_iff (r := .addMacro name body)).mpr hn

namespace Deferred

theorem items_andThen (d : Deferred μ) (step : Collection μ → Except Fault (List Value)) :
    (d.andThen step).items = (do step ⟨← d.items, d.context⟩) := by
  unfold items andThen
  cases d.source with
  | error e => rfl
  | ok items => simp [List.foldlM_append, Pending.run]

@[simp] theorem context_add (d : Deferred μ) (s : Stage μ) : (d.add s).context = d.context := by
  cases s <;> rfl

/-- A stage is put into a chain as one step, which makes of items what the stage makes of them. -/
theorem exists_add_eq_andThen (d : Deferred μ) (s : Stage μ) :
    ∃ step, d.add s = d.andThen step ∧
      ∀ items, step ⟨items, d.context⟩ = do return (← s.run ⟨items, d.context⟩).items := by
  cases s with
  | find q =>
    refine ⟨_, rfl, fun items => ?_⟩
    rw [Stage.run, ← Collection.find_read]
    cases q.read d.context.settings.marker <;> rfl
  | not q =>
    refine ⟨_, rfl, fun items => ?_⟩
    rw [Stage.run, ← Collection.not_read]
    cases q.read d.context.settings.marker <;> rfl
  | _ => exact ⟨_, rfl, fun _ => rfl⟩

/-- A stage that is put into a chain makes of the items so far what it makes of them at once. -/
theorem items_add (d : Deferred μ) (s : Stage μ) :
    (d.add s).items = (do return (← s.run ⟨← d.items, d.context⟩).items) := by
  obtain ⟨step, hd, hrun⟩ := d.exists_add_eq_andThen s
  rw [hd, items_andThen]
  cases d.items with
  | error e => rfl
  | ok items => exact hrun items

/-- So what is at the end of the chain is what the stage makes of what was there before, if the stage
gives back the context there. -/
theorem collection_add (d : Deferred μ) {s : Stage μ}
    (hs : ∀ c c', d.collection = .ok c → s.run c = .ok c' → c'.context = c.context) :
    (d.add s).collection = (do s.run (← d.collection)) := by
  unfold collection at hs ⊢
  rw [items_add, context_add]
  cases hi : d.items with
  | error e => rfl
  | ok items =>
    cases hr : s.run ⟨items, d.context⟩ with
    | error e => simp only [bind, Except.bind, pure, Except.pure, hr]
    | ok c =>
      have hc : c.context = d.context := hs ⟨items, d.context⟩ c (by rw [hi]; rfl) hr
      simp only [bind, Except.bind, pure, Except.pure, hr]
      rw [← hc]

theorem collection_setContext (d : Deferred μ) (context : Context μ) :
    ({ d with context } : Deferred μ).collection = (do return { ← d.collection with context }) := by
  have hi : ({ d with context } : Deferred μ).items = d.items := rfl
  unfold collection
  rw [hi]
  cases d.items <;> rfl

/-- A registration that is made changes the context alone, at the end of the chain as at once. -/
theorem collection_link_of_register (d : Deferred μ) {l : Link μ} {made : Except Fault (Context μ)}
    (hm : ∃ context, made = .ok context)
    (hlink : d.link l = (do return { d with context := ← made }))
    (hrun : ∀ items, l.run ⟨items, d.context⟩ = (do return ⟨items, ← made⟩)) :
    ∃ d', d.link l = .ok d' ∧ d'.collection = (do l.run (← d.collection)) := by
  obtain ⟨context, rfl⟩ := hm
  refine ⟨{ d with context }, hlink, ?_⟩
  rw [collection_setContext, collection]
  cases d.items with
  | error e => rfl
  | ok items => exact (hrun items).symm

/-- A link can be put into a chain unless it registers under a blank name, and what is at the end of
the chain is then what the link makes of what was there before. -/
theorem collection_link (d : Deferred μ) {l : Link μ}
    (hs : ∀ s c c', l = .stage s → d.collection = .ok c → s.run c = .ok c' → c'.context = c.context)
    (hn : l.Named) :
    ∃ d', d.link l = .ok d' ∧ d'.collection = (do l.run (← d.collection)) := by
  cases l with
  | stage s => exact ⟨d.add s, rfl, collection_add d fun c c' => hs s c c' rfl⟩
  | addOperator name op =>
    have hmade := Context.addOperator_of_named d.context op hn
    exact collection_link_of_register d hmade rfl fun _ => rfl
  | addMacro name body =>
    have hmade := Context.addMacro_of_named d.context body hn
    exact collection_link_of_register d hmade rfl fun _ => rfl

/-! ### A whole chain -/

theorem linkAll_concat (d : Deferred μ) (links : List (Link μ)) (l : Link μ) :
    d.linkAll (links ++ [l]) = (do (← d.linkAll links).link l) := by
  simp [linkAll, List.foldlM_append]

end Deferred

namespace Link

variable {start : Collection μ} {l : Link μ} {links : List (Link μ)}

theorem runAll_cons : runAll start (l :: links) = (do runAll (← l.run start) links) :=
  List.foldlM_cons

theorem runAll_concat : runAll start (links ++ [l]) = (do l.run (← runAll start links)) := by
  simp [runAll, List.foldlM_append]

/-- Whether every stage that a run of the chain comes to gives back the context that it is run in. -/
def KeptAlong (start : Collection μ) (links : List (Link μ)) : Prop :=
  ∀ before s c c', before ++ [.stage s] <+: links → runAll start before = .ok c →
    s.run c = .ok c' → c'.context = c.context

theorem KeptAlong.mono {before : List (Link μ)} (h : KeptAlong start links)
    (hp : before <+: links) : KeptAlong start before :=
  fun earlier s c c' hearlier => h earlier s c c' (hearlier.trans hp)

theorem keptAlong_cons :
    KeptAlong start (l :: links) ↔
      (∀ s c, l = .stage s → s.run start = .ok c → c.context = start.context) ∧
        ∀ c, l.run start = .ok c → KeptAlong c links := by
  constructor
  · refine fun h => ⟨?_, fun c hc before s c₁ c₂ hp hb => ?_⟩
    · rintro s c rfl
      exact h [] s start c (by simp) rfl
    · refine h (l :: before) s c₁ c₂ (List.cons_prefix_cons.mpr ⟨rfl, hp⟩) ?_
      rw [runAll_cons, hc]
      exact hb
  · rintro ⟨hl, hlinks⟩ before s c c' hp hb
    cases before with
    | nil =>
      cases hb
      exact hl s c' (List.cons_prefix_cons.mp hp).1.symm
    | cons l' before =>
      obtain ⟨rfl, hp'⟩ := List.cons_prefix_cons.mp hp
      rw [runAll_cons] at hb
      obtain ⟨c₁, hc₁, hb'⟩ := bind_eq_ok_iff.mp hb
      exact hlinks c₁ hc₁ before s c c' hp' hb'

theorem keptAlong_of_keepsContext (hk : ∀ l ∈ links, l.KeepsContext) : KeptAlong start links := by
  intro before s c c' hp _ hs
  have hmem : .stage s ∈ links := hp.subset (List.mem_append_right before List.mem_cons_self)
  exact Stage.context_of_run (hk _ hmem) hs

end Link

namespace Deferred

theorem collection_linkAll (d : Deferred μ) (links : List (Link μ))
    (hk : ∀ c, d.collection = .ok c → Link.KeptAlong c links) (hn : ∀ l ∈ links, l.Named) :
    ∃ d', d.linkAll links = .ok d' ∧
      d'.collection = (do Link.runAll (← d.collection) links) := by
  induction links generalizing d with
  | nil =>
    refine ⟨d, rfl, ?_⟩
    cases d.collection <;> rfl
  | cons l links ih =>
    have hstage : ∀ s c c', l = .stage s → d.collection = .ok c → s.run c = .ok c' →
        c'.context = c.context :=
      fun s c c' hl hc => (Link.keptAlong_cons.mp (hk c hc)).1 s c' hl
    obtain ⟨d₁, h₁, hc₁⟩ := collection_link d hstage (hn l List.mem_cons_self)
    -- The rest of the run starts where the first link ends, and the condition goes with it.
    have hk₁ : ∀ c₁, d₁.collection = .ok c₁ → Link.KeptAlong c₁ links := by
      intro c₁ h
      rw [hc₁] at h
      obtain ⟨c, hc, hrun⟩ := bind_eq_ok_iff.mp h
      exact (Link.keptAlong_cons.mp (hk c hc)).2 c₁ hrun
    obtain ⟨d₂, h₂, hc₂⟩ := ih d₁ hk₁ fun l hl => hn l (List.mem_cons_of_mem _ hl)
    refine ⟨d₂, ?_, ?_⟩
    · rw [linkAll, List.foldlM_cons, h₁]
      exact h₂
    · rw [hc₂, hc₁]
      simp only [Link.runAll, List.foldlM_cons, bind_assoc]

theorem exists_linkAll_of_keptAlong (outcome : Except Fault (List Value)) (context : Context μ)
    {links : List (Link μ)}
    (hk : ∀ items, outcome = .ok items → Link.KeptAlong ⟨items, context⟩ links)
    (hn : ∀ l ∈ links, l.Named) :
    ∃ d, (⟨outcome, [], context⟩ : Deferred μ).linkAll links = .ok d ∧
      d.collection = (do Link.runAll ⟨← outcome, context⟩ links) := by
  let start : Deferred μ := ⟨outcome, [], context⟩
  have hstart : start.collection = (do return ⟨← outcome, context⟩) := by
    cases outcome <;> rfl
  have hk' : ∀ c, start.collection = .ok c → Link.KeptAlong c links := by
    intro c hc
    rw [hstart] at hc
    obtain ⟨items, hitems, hc⟩ := bind_eq_ok_iff.mp hc
    cases hc
    exact hk items hitems
  obtain ⟨d, hd, hc⟩ := collection_linkAll start links hk' hn
  refine ⟨d, hd, ?_⟩
  rw [hc, hstart]
  simp only [bind_assoc, pure_bind]

/-- However a chain is ended, the result is what the same ending makes of an eager collection, or
that collection's failure. -/
structure EndsAs (d : Deferred μ) (eager : Except Fault (Collection μ)) : Prop where
  items : d.items = eager.map Collection.items
  findOne : ∀ q, d.findOne q = eager.bind (·.findOne q)
  resolve : ∀ {α : Type} (ending : Collection μ → Except Fault α),
    d.resolve ending = eager.bind ending

theorem endsAs_collection (d : Deferred μ) : d.EndsAs d.collection where
  items := by
    unfold collection
    cases d.items <;> rfl
  findOne q := by
    unfold Deferred.findOne Deferred.resolve collection
    cases d.items with
    | error e => rfl
    | ok items => exact Collection.findOne_read ⟨items, d.context⟩ q
  resolve _ := rfl

/-- The endings that are a `pipe` of what a collection reports give what it reports. -/
theorem EndsAs.pipe {d : Deferred μ} {eager : Except Fault (Collection μ)} (h : d.EndsAs eager)
    {α : Type} (f : Collection μ → α) : d.pipe f = eager.map f := by
  rw [Deferred.pipe, h.resolve]
  cases eager <;> rfl

theorem EndsAs.context {d : Deferred μ} {c : Collection μ} (h : d.EndsAs (.ok c)) :
    d.context = c.context := by
  have hcontext := h.pipe Collection.context
  rw [Deferred.pipe, Deferred.resolve, collection, h.items] at hcontext
  exact Except.ok.inj hcontext

end Deferred

namespace Deferred

end Deferred

end Dossier
