import Dossier.Proofs.Deferred.Parity

/-! Conditionals that change the context. A chain kept for later takes on the items of the collection
that a closure makes and nothing else of it, so what the closure registers is gone behind it. The
chain agrees with the one run at once as far as every stage on the way gives back the context that it
was run in: a conditional that is not taken does so whatever its closure is, and one that is taken has
to. -/

namespace Dossier

variable {μ : Type}

namespace Deferred

/-- A stage in a chain makes the items that it makes at once, whatever its closures do beside. -/
theorem items_add_eq_map (d : Deferred μ) (s : Stage μ) :
    (d.add s).items = (do s.run (← d.collection)).map Collection.items := by
  rw [items_add, collection]
  cases d.items with
  | error e => rfl
  | ok items =>
    change (do return (← s.run ⟨items, d.context⟩).items) =
      (s.run ⟨items, d.context⟩).map Collection.items
    cases s.run ⟨items, d.context⟩ <;> rfl

theorem linkAll_concat_stage {d d' : Deferred μ} {links : List (Link μ)} (h : d.linkAll links = .ok d')
    (s : Stage μ) : d.linkAll (links ++ [.stage s]) = .ok (d'.add s) := by
  rw [linkAll_concat, h]
  rfl

/-- A chain kept for later, over a source with any outcome, ends at each of its links as the same
chain run at once exactly when every stage that the run comes to gives back the context that it is
run in. Over a source that fails there is no such stage, and the failure is the result. The first
stage that does not give back its context still makes the items that it makes at once. -/
theorem ends_alike_iff_keptAlong (outcome : Except Fault (List Value)) (context : Context μ)
    (links : List (Link μ)) (hn : ∀ l ∈ links, l.Named) :
    ((∀ before, before <+: links → ∃ d,
        (⟨outcome, [], context⟩ : Deferred μ).linkAll before = .ok d ∧
          d.EndsAs (do Link.runAll ⟨← outcome, context⟩ before)) ↔
      ∀ items, outcome = .ok items → Link.KeptAlong ⟨items, context⟩ links) ∧
    ∀ items before s, outcome = .ok items → before ++ [.stage s] <+: links →
      Link.KeptAlong ⟨items, context⟩ before → ∃ d,
        (⟨outcome, [], context⟩ : Deferred μ).linkAll (before ++ [.stage s]) = .ok d ∧
          d.items = (Link.runAll ⟨items, context⟩ (before ++ [.stage s])).map Collection.items := by
  refine ⟨⟨?_, fun hk before hp => ?_⟩, ?_⟩
  · rintro hends items rfl before s c c' hp hb hs
    obtain ⟨d, hd, hbefore⟩ := hends before ((List.prefix_append before _).trans hp)
    obtain ⟨d', hd', hstage⟩ := hends _ hp
    rw [linkAll_concat_stage hd s] at hd'
    obtain rfl := Except.ok.inj hd'
    have hc : d.EndsAs (.ok c) := hb ▸ hbefore
    have hrun : Link.runAll ⟨items, context⟩ (before ++ [.stage s]) = .ok c' := by
      rw [Link.runAll_concat, hb]
      exact hs
    have hc' : (d.add s).EndsAs (.ok c') := hrun ▸ hstage
    calc c'.context = (d.add s).context := hc'.context.symm
      _ = d.context := d.context_add s
      _ = c.context := hc.context
  · obtain ⟨d, hd, hc⟩ := exists_linkAll_of_keptAlong outcome context
      (fun items hi => (hk items hi).mono hp) fun l hl => hn l (hp.subset hl)
    exact ⟨d, hd, hc ▸ d.endsAs_collection⟩
  · rintro items before s rfl hp hk
    have hbefore : before <+: links := (List.prefix_append before _).trans hp
    obtain ⟨d, hd, hc⟩ := exists_linkAll_of_keptAlong (.ok items) context
      (by rintro _ ⟨⟩; exact hk) fun l hl => hn l (hbefore.subset hl)
    refine ⟨d.add s, linkAll_concat_stage hd s, ?_⟩
    rw [items_add_eq_map, hc, Link.runAll_concat]
    rfl

/-- Two conditionals with a closure that registers, of which neither is run, before an operator that
the chain registers: it finds two of three items. Where the closure is run, its items go on. -/
theorem ends_alike_iff_keptAlong_untaken :
    let numbered (n : Number) : Value := .document ⟨[("n", .number n)]⟩
    let register (c : Collection Unit) : Collection Unit :=
      (c.addOperator "any" fun _ _ => true).toOption.getD c
    let links : List (Link Unit) := [.stage (.when false register),
      .stage (.whenElse true (·.push (numbered (.unsigned 1))) register),
      .addOperator "same" fun operand field => operand.equal field,
      .stage (.whereOp "n" "same" (.signed 1))]
    let items := [numbered (.signed 1), numbered (.signed 2)]
    ((∀ l ∈ links, l.Named) ∧ Link.KeptAlong ⟨items, .new .standard⟩ links) ∧
      (∃ d, (⟨.ok items, [], .new .standard⟩ : Deferred Unit).linkAll links = .ok d ∧
        d.count = .ok 2) ∧
      ∃ d, (⟨.ok items, [], .new .standard⟩ : Deferred Unit).linkAll
        [.stage (.whenNotEmpty register)] = .ok d ∧ d.items = .ok items := by
  intro numbered register links items
  have hn : ∀ l ∈ links, l.Named := by
    simp only [links, List.forall_mem_cons, Link.Named]
    exact ⟨trivial, trivial, by decide, trivial, List.forall_mem_nil _⟩
  have hk : Link.KeptAlong ⟨items, .new .standard⟩ links := by
    refine Link.keptAlong_cons.mpr ⟨by rintro s c ⟨⟩ ⟨⟩; rfl, ?_⟩
    rintro c ⟨⟩
    refine Link.keptAlong_cons.mpr ⟨by rintro s c ⟨⟩ ⟨⟩; rfl, fun c _ => ?_⟩
    refine Link.keptAlong_of_keepsContext ?_
    simp only [List.forall_mem_cons, Link.KeepsContext, Stage.KeepsContext]
    exact ⟨trivial, trivial, List.forall_mem_nil _⟩
  obtain ⟨d, hd, hends⟩ := (ends_alike_iff_keptAlong (.ok items) (.new .standard) links hn).1.mpr
    (by rintro _ ⟨⟩; exact hk) links List.prefix_rfl
  have htaken : ∀ l ∈ [(.stage (.whenNotEmpty register) : Link Unit)], l.Named :=
    List.forall_mem_singleton.mpr trivial
  obtain ⟨d', hd', hitems⟩ :=
    (ends_alike_iff_keptAlong (.ok items) (.new .standard) _ htaken).2 items [] _ rfl
      List.prefix_rfl (Link.keptAlong_of_keepsContext (List.forall_mem_nil _))
  refine ⟨⟨hn, hk⟩, ⟨d, hd, ?_⟩, d', hd', ?_⟩
  · refine (hends.pipe Collection.size).trans ?_
    cbv
  · rw [hitems]
    cbv

/-- An operator and a macro that a closure registers are found behind it in the chain run at once,
and not in the one kept for later. -/
theorem registered_inside_not_found_behind :
    let items : List Value := [.document ⟨[("n", .signed 1)]⟩]
    let closure (c : Collection Unit) : Collection Unit :=
      (do (← c.addOperator "any" fun _ _ => true).addMacro "m" ()).toOption.getD c
    let conditional : Link Unit := .stage (.when true closure)
    let chain : Deferred Unit := ⟨.ok items, [], .new .standard⟩
    let whereAny : Link Unit := .stage (.whereOp "n" "any" .null)
    (Link.runAll ⟨items, .new .standard⟩ [conditional, whereAny]).map Collection.items =
        .ok items ∧
      (Link.runAll ⟨items, .new .standard⟩ [conditional]).map (·.context.hasMacro "m") =
        .ok true ∧
      ((chain.linkAll [conditional, whereAny]).bind Deferred.items) =
        .error (.unknownOperator "any") ∧
      ((chain.linkAll [conditional]).bind Deferred.collection).map (·.context.hasMacro "m") =
        .ok false := by
  intro items closure conditional chain whereAny
  exact ⟨by cbv, by cbv, by cbv, by cbv⟩

end Deferred

end Dossier
