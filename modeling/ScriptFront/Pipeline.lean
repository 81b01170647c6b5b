import ScriptFront.Diagnostic.Basic

/-!
# Pipelines

A pipeline is a list of stages, each fed with what the one before handed over. A stage works on a
state that all of them share, and so does the rescue that is called with the diagnostic of a stage
that reports one; the stages after it are then left out. Anything else that goes wrong, in a stage
or in a rescue, ends the run and is passed on.
-/

namespace ScriptFront

/-- A computation on a state that may fail; the state it reached is known in any case. -/
abbrev Work (σ χ α : Type) : Type :=
  σ → Except (Failure Diagnostic χ) α × σ

/-- What a stage hands over to the next. -/
inductive Handoff (α : Type) where
  | nothing
  | one (a : α)
  | spread (as : List α)
  deriving DecidableEq, Repr

/-- The arguments that the next stage is called with. -/
def Handoff.arguments {α : Type} : Handoff α → List α
  | nothing => []
  | one a => [a]
  | spread as => as

/-- A stage and its rescue. -/
structure Stage (σ χ α : Type) where
  run : List α → Work σ χ (Handoff α)
  rescue : Diagnostic → Work σ χ Unit

/-- Stages in the order in which they run. -/
abbrev Pipeline (σ χ α : Type) : Type :=
  List (Stage σ χ α)

namespace Pipeline

variable {σ χ α : Type}

/-- A pipeline with one more stage at its end. -/
def andThen (pipeline : Pipeline σ χ α) (stage : Stage σ χ α) : Pipeline σ χ α :=
  pipeline ++ [stage]

/-- Runs the stages in order. The answer is whether all of them succeeded. -/
def execute : Pipeline σ χ α → List α → Work σ χ Bool
  | [], _, state => (.ok true, state)
  | stage :: others, arguments, state =>
    match stage.run arguments state with
    | (.ok handoff, state) => execute others handoff.arguments state
    | (.error (.reported d), state) =>
      match stage.rescue d state with
      | (.ok (), state) => (.ok false, state)
      | (.error failure, state) => (.error failure, state)
    | (.error (.abort reason), state) => (.error (.abort reason), state)

/-- A request to a pipeline under construction. -/
inductive Request (σ χ α : Type) where
  | andThen (stage : Stage σ χ α)
  | execute (arguments : List α)

/-- The reply to a request. -/
inductive Reply (χ : Type) where
  /-- The stage was added. -/
  | added
  /-- The run ended, and says whether all stages succeeded. -/
  | ran (succeeded : Bool)
  | failed (failure : Failure Diagnostic χ)
  deriving DecidableEq

/-- Serves one request: the reply, the pipeline and the state after it. -/
def serve (pipeline : Pipeline σ χ α) (state : σ) :
    Request σ χ α → Reply χ × Pipeline σ χ α × σ
  | .andThen stage => (.added, pipeline.andThen stage, state)
  | .execute arguments =>
    match pipeline.execute arguments state with
    | (.ok succeeded, state) => (.ran succeeded, pipeline, state)
    | (.error failure, state) => (.failed failure, pipeline, state)

/-- Serves requests one after the other, and gives each reply with the state after it. -/
def serveAll (pipeline : Pipeline σ χ α) (state : σ) : List (Request σ χ α) → List (Reply χ × σ)
  | [] => []
  | request :: others =>
    let (reply, pipeline, state) := serve pipeline state request
    (reply, state) :: serveAll pipeline state others

end Pipeline

end ScriptFront
