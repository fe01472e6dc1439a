import ApiContract.Proofs.Exchange.Stages
import Mathlib.Data.List.Forall2

/-!
# Scripts

A handler or a stage of an endpoint's own names headers where it looks them up and where it sets
them.  As a script these names are in plain sight: two scripts that differ at most in the letter
case of such names take the same steps, for every lookup and every step folds its name.
-/

namespace ApiContract

variable {State Result : Type}

/-! ## Names of headers -/

section Names

variable {name other : String}

theorem lowered_eq_of_sameIgnoringCase (same : Text.sameIgnoringCase name other) :
    Text.lowered name = Text.lowered other :=
  eq_of_beq same

theorem Request.header?_eq (request : Request) (same : Text.sameIgnoringCase name other) :
    request.header? name = request.header? other := by
  rw [header?, header?, lowered_eq_of_sameIgnoringCase same]

theorem Request.addHeader_eq (request : Request) (same : Text.sameIgnoringCase name other)
    (text : String) : request.addHeader name text = request.addHeader other text := by
  rw [addHeader, addHeader, lowered_eq_of_sameIgnoringCase same]

theorem Response.header?_eq (response : Response) (same : Text.sameIgnoringCase name other) :
    response.header? name = response.header? other := by
  rw [header?, header?, lowered_eq_of_sameIgnoringCase same]

theorem Response.withHeader_eq (response : Response) (same : Text.sameIgnoringCase name other)
    (value : Value) : response.withHeader name value = response.withHeader other value := by
  rw [withHeader, withHeader, lowered_eq_of_sameIgnoringCase same]

end Names

/-- Two headers with one text, whose names differ at most in letter case. -/
structure HeaderRecased (header other : String × String) : Prop where
  name : Text.sameIgnoringCase header.1 other.1
  text : header.2 = other.2

/-- The request with headers added one after the other. -/
def Request.withHeaders (request : Request) (headers : List (String × String)) : Request :=
  headers.foldl (fun request header => request.addHeader header.1 header.2) request

theorem Request.withHeaders_eq {headers others : List (String × String)}
    (recased : List.Forall₂ HeaderRecased headers others) (request : Request) :
    request.withHeaders headers = request.withHeaders others := by
  induction recased generalizing request with
  | nil => rfl
  | cons first _ ih =>
      rw [withHeaders, withHeaders, List.foldl_cons, List.foldl_cons,
        request.addHeader_eq first.name, first.text]
      exact ih _

/-- Two steps on a response that differ at most in the letter case of a name. -/
inductive ResponseOp.Recased : ResponseOp → ResponseOp → Prop where
  | setHeader {name other : String} {value : Value} (same : Text.sameIgnoringCase name other) :
      Recased (.setHeader name value) (.setHeader other value)
  | same (op : ResponseOp) : Recased op op

theorem Exchange.respond_eq {op other : ResponseOp} (recased : op.Recased other)
    (exchange : Exchange State) : exchange.respond op = exchange.respond other := by
  cases recased with
  | setHeader same =>
      rw [respond, respond, Response.apply, Response.apply, Response.withHeader_eq _ same]
  | same => rfl

theorem Exchange.respondAll_eq {ops others : List ResponseOp}
    (recased : List.Forall₂ ResponseOp.Recased ops others) (exchange : Exchange State) :
    exchange.respondAll ops = exchange.respondAll others := by
  induction recased generalizing exchange with
  | nil => rfl
  | cons first _ ih =>
      rw [respondAll, respondAll, List.foldl_cons, List.foldl_cons, respond_eq first]
      exact ih _

/-! ## What a script does -/

/-- What is done with an exchange before it comes to a result: steps on the response, lookups of
headers of the request and of the response, and whatever else depends on the exchange. -/
inductive Script (State Result : Type) where
  | finish (result : Result)
  | respond (op : ResponseOp) (rest : Script State Result)
  | lookUp (name : String) (follow : Option String → Script State Result)
  | lookBack (name : String) (follow : Option String → Script State Result)
  | inspect (follow : Exchange State → Script State Result)

namespace Script

/-- The steps that a script takes on the response of an exchange, and its result. -/
def trace : Script State Result → Exchange State → List ResponseOp × Result
  | .finish result, _ => ([], result)
  | .respond op rest, exchange =>
      let later := trace rest (exchange.respond op)
      (op :: later.1, later.2)
  | .lookUp name follow, exchange => trace (follow (exchange.request.header? name)) exchange
  | .lookBack name follow, exchange => trace (follow (exchange.response.header? name)) exchange
  | .inspect follow, exchange => trace (follow exchange) exchange

/-- The handler that follows a script, which comes to a state of the service and maybe to a
failure. -/
def handler (script : Script State (State × Option Failure)) : Handler State := fun exchange =>
  let traced := script.trace exchange
  { state := traced.2.1, ops := traced.1, failure := traced.2.2 }

/-- The script that takes some steps and then finishes. -/
def ofOps (ops : List ResponseOp) (result : Result) : Script State Result :=
  ops.foldr .respond (.finish result)

theorem trace_ofOps (ops : List ResponseOp) (result : Result) (exchange : Exchange State) :
    (ofOps ops result).trace exchange = (ops, result) := by
  induction ops generalizing exchange with
  | nil => rfl
  | cons op rest ih =>
      have later : (ofOps rest result).trace (exchange.respond op) = (rest, result) := ih _
      rw [ofOps, List.foldr_cons, trace, ← ofOps, later]

/-- Every handler follows a script, if only one that does not tell which names it looks up. -/
theorem exists_handler_eq (handler : Handler State) :
    ∃ script : Script State (State × Option Failure), script.handler = handler := by
  refine ⟨.inspect fun exchange =>
    .ofOps (handler exchange).ops ((handler exchange).state, (handler exchange).failure), ?_⟩
  funext exchange
  rw [Script.handler, trace, trace_ofOps]

/-- Two scripts that differ at most in the letter case of the names of headers, and in results that
are related. -/
inductive Recased (related : Result → Result → Prop) :
    Script State Result → Script State Result → Prop where
  | finish {result other : Result} (results : related result other) :
      Recased related (.finish result) (.finish other)
  | respond {op otherOp : ResponseOp} {rest other : Script State Result}
      (ops : op.Recased otherOp) (rests : Recased related rest other) :
      Recased related (.respond op rest) (.respond otherOp other)
  | lookUp {name otherName : String} {follow other : Option String → Script State Result}
      (same : Text.sameIgnoringCase name otherName)
      (follows : ∀ found, Recased related (follow found) (other found)) :
      Recased related (.lookUp name follow) (.lookUp otherName other)
  | lookBack {name otherName : String} {follow other : Option String → Script State Result}
      (same : Text.sameIgnoringCase name otherName)
      (follows : ∀ found, Recased related (follow found) (other found)) :
      Recased related (.lookBack name follow) (.lookBack otherName other)
  | inspect {follow other : Exchange State → Script State Result}
      (follows : ∀ exchange, Recased related (follow exchange) (other exchange)) :
      Recased related (.inspect follow) (.inspect other)

variable {related : Result → Result → Prop} {script other : Script State Result}

/-- Such scripts take the same steps, up to letter case, and come to related results. -/
theorem Recased.trace (recased : Recased related script other) (exchange : Exchange State) :
    List.Forall₂ ResponseOp.Recased (script.trace exchange).1 (other.trace exchange).1 ∧
      related (script.trace exchange).2 (other.trace exchange).2 := by
  induction recased generalizing exchange with
  | finish results => exact ⟨.nil, results⟩
  | respond ops _ ih =>
      rcases ih (exchange.respond _) with ⟨later, results⟩
      -- Both first steps lead to one exchange, from which the scripts go on.
      rw [Script.trace, Script.trace, ← Exchange.respond_eq ops]
      exact ⟨.cons ops later, results⟩
  | lookUp same _ ih =>
      rw [Script.trace, Script.trace, exchange.request.header?_eq same]
      exact ih _ exchange
  | lookBack same _ ih =>
      rw [Script.trace, Script.trace, exchange.response.header?_eq same]
      exact ih _ exchange
  | inspect _ ih => exact ih exchange exchange

end Script

/-! ## Stages that follow a script -/

/-- How a stage goes on after its first steps: it ends the passage, or it lets the passage go on
with more headers and other changes and follows another script afterwards. -/
inductive Turn (State : Type) where
  | stop (failure : Option Failure)
  | pass (headers : List (String × String)) (change : Exchange State → Exchange State)
      (after : Option Failure → Script State (Option Failure))

namespace Turn

/-- Two turns that differ at most in the letter case of the names of headers. -/
inductive Recased : Turn State → Turn State → Prop where
  | stop (failure : Option Failure) : Recased (.stop failure) (.stop failure)
  | pass {headers others : List (String × String)} {change : Exchange State → Exchange State}
      {after other : Option Failure → Script State (Option Failure)}
      (headersRecased : List.Forall₂ HeaderRecased headers others)
      (afterwards : ∀ failure, Script.Recased Eq (after failure) (other failure)) :
      Recased (.pass headers change after) (.pass others change other)

end Turn

namespace Script

/-- The stage that follows a script. -/
def stage (script : Script State (Turn State)) : Stage State := fun next exchange =>
  let traced := script.trace exchange
  let exchange := exchange.respondAll traced.1
  match traced.2 with
  | .stop failure => ⟨exchange, failure⟩
  | .pass headers change after =>
      let passage :=
        next (change { exchange with request := exchange.request.withHeaders headers })
      let traced := (after passage.failure).trace passage.exchange
      ⟨passage.exchange.respondAll traced.1, traced.2⟩

theorem handle_eq {script other : Script State (State × Option Failure)}
    (recased : Recased Eq script other) :
    Stage.handle script.handler = Stage.handle other.handler := by
  funext next exchange
  rcases recased.trace exchange with ⟨ops, results⟩
  simp only [Stage.handle, handler, results, Exchange.respondAll_eq ops]

theorem stage_eq {script other : Script State (Turn State)}
    (recased : Recased Turn.Recased script other) : script.stage = other.stage := by
  funext next exchange
  rcases recased.trace exchange with ⟨ops, turns⟩
  simp only [stage, Exchange.respondAll_eq ops]
  generalize (script.trace exchange).2 = turn at turns ⊢
  generalize (other.trace exchange).2 = otherTurn at turns ⊢
  cases turns with
  | stop failure => rfl
  | pass headers afterwards =>
      simp only [Request.withHeaders_eq headers]
      generalize next _ = passage
      rcases (afterwards passage.failure).trace passage.exchange with ⟨later, failures⟩
      rw [failures, Exchange.respondAll_eq later]

end Script

end ApiContract
