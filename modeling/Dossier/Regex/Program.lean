import Dossier.Regex.Syntax

/-! Regular expressions as programs: steps that take a character, test a position, or offer two ways
on, the preferred one first. A program is written from its end, so that each part knows what follows
it. -/

namespace Dossier.Regex

/-- One step; steps are named by their place in the program. -/
inductive Step where
  | accept
  | take (set : CharSet) (next : Nat)
  | test (condition : Look) (next : Nat)
  | fork (first second : Nat)
  deriving Inhabited

/-- The steps of a program and where it starts. -/
structure Program where
  steps : Array Step
  start : Nat
  deriving Inhabited

namespace Program

/-- A further step, which becomes the start. -/
def push (p : Program) (s : Step) : Program :=
  let start := p.steps.size
  ⟨p.steps.push s, start⟩

/-- A choice between going on at `first` and at `second`, the other way round when not greedy. -/
def fork (greedy : Bool) (first second : Nat) : Step :=
  if greedy then .fork first second else .fork second first

/-- A part one after the other, `n` times. -/
def times (body : Program → Program) : Nat → Program → Program
  | 0, p => p
  | n + 1, p => times body n (body p)

/-- A part that may be left out for `stop`. -/
def optional (body : Program → Program) (greedy : Bool) (stop : Nat) (p : Program) : Program :=
  let inner := body p
  inner.push (fork greedy inner.start stop)

/-- A part over and over. After each round comes a fork back to its start or on; where `skips` the
program starts at that fork, and otherwise with a first round. -/
def loop (body : Program → Program) (greedy skips : Bool) (p : Program) : Program :=
  let turn := p.steps.size
  let inner := body (p.push (.fork p.start p.start))
  ⟨inner.steps.set! turn (fork greedy inner.start p.start), if skips then turn else inner.start⟩

/-- The part with both bounds. Without an upper bound the last round is a loop. A part that may
match the empty text and may be left out is a loop behind a fork of its own: were it the loop's
fork, an empty round would come back to a place looked at already and be lost, although it is
preferred. -/
def repeated (body : Program → Program) (consumes : Bool) (least : Nat) (most : Option Nat)
    (greedy : Bool) (p : Program) : Program :=
  match most, least with
  | some most, least =>
    times body least (times (optional body greedy p.start) (most - least) p)
  | none, least + 1 => times body least (loop body greedy false p)
  | none, 0 =>
    if consumes then loop body greedy true p
    else
      let rounds := loop body greedy false p
      rounds.push (fork greedy rounds.start p.start)

end Program

namespace Tree

mutual

/-- The program that matches an expression and then goes on as `p`. -/
def before : Tree → Program → Program
  | empty, p => p
  | text cs, p => cs.foldr (fun c p => p.push (.take (.single c) p.start)) p
  | set s, p => p.push (.take s p.start)
  | look condition, p => p.push (.test condition p.start)
  | group t, p => t.before p
  | sequence ts, p => sequenceBefore ts p
  | choice ts, p => choiceBefore ts p.start p
  | repetition t least most greedy, p => Program.repeated t.before t.consumes least most greedy p

def sequenceBefore : List Tree → Program → Program
  | [], p => p
  | t :: ts, p => t.before (sequenceBefore ts p)

/-- Branches that all go on at `next`. -/
def choiceBefore : List Tree → Nat → Program → Program
  | [], _, p => p
  | [t], next, p => t.before { p with start := next }
  | t :: ts, next, p =>
    let others := choiceBefore ts next p
    let first := t.before { others with start := next }
    first.push (.fork first.start others.start)

end

/-- The program of a whole expression. -/
def program (t : Tree) : Program := t.before ⟨#[.accept], 0⟩

end Tree

end Dossier.Regex
