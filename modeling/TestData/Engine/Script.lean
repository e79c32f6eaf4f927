import TestData.Engine.Session

/-!
Scripts: what an evaluator does, laid open.

An evaluator reads what stays the same while nodes are evaluated, asks for the values of nodes,
for the index that a choice has drawn and for tables, and ends with a result or an error. Nothing
else of a session is within its reach. A script runs once it is said how a node is evaluated.
-/

namespace TestData.Engine

open Schema

/-- What an evaluator does. -/
inductive Script (α : Type)
  | done (a : α)
  | fail (e : EvalError)
  | look (k : Setting → Script α)
  /-- Asks for the value of a node. -/
  | ask (n : NodeRef) (k : Option Value → Script α)
  /-- Asks for the index that the generator of a node has drawn last. -/
  | selected (n : NodeRef) (k : Option Nat → Script α)
  /-- Asks for the table of a file that a node draws from. -/
  | table (n : NodeRef) (source : TableSource) (k : Table → Script α)

namespace Script

/-- A script and then another one, which has the result of the first. -/
protected def bind {α β : Type} : Script α → (α → Script β) → Script β
  | done a, f => f a
  | fail e, _ => fail e
  | look k, f => look fun c => (k c).bind f
  | ask n k, f => ask n fun v => (k v).bind f
  | selected n k, f => selected n fun i => (k i).bind f
  | table n source k, f => table n source fun t => (k t).bind f

instance : Monad Script where
  pure := done
  bind := Script.bind

/-- The value of a node. -/
def value (n : NodeRef) : Script (Option Value) := ask n done

/-- What stays the same. -/
def setting : Script Setting := look done

/-- Where a node is. -/
def location (n : NodeRef) : Script Location := return (← setting).location n

/-- What a node is. -/
def kind (n : NodeRef) : Script Kind := return (← setting).workspace.kind n

/-- Lifts a result that may be an error. -/
def lift {α : Type} : Except EvalError α → Script α
  | .ok a => done a
  | .error e => fail e

/-- What a node stands for. -/
def resolve (n : NodeRef) : Script Resolution := do lift ((← setting).scope.resolve n)

/-- Runs a script, given how a node is evaluated. -/
def run {α : Type} (value : NodeRef → Eval (Option Value)) : Script α → Eval α
  | done a => return a
  | fail e => Eval.fail e
  | look k => do (k ((← get).setting (← read))).run value
  | ask n k => do (k (← value n)).run value
  | selected n k => do (k ((← get).selected? n)).run value
  | table n source k => do (k (← Eval.table n source)).run value

end Script

end TestData.Engine
