import ScriptFront.Pipeline

/-!
# Calls that a pipeline makes

What a pipeline does can be seen from the calls it makes: of its stages, and of their rescues. To
see them, every stage is made to note its calls beside the state (`Stage.noting`), and this changes
nothing else (`serveAll_noting`). Then:

* `Passes` and `Ends` say how a run goes: some stages succeed, each called with what the one before
  handed over, and then no stage is left or one fails;
* `execute_noting_ends`: every run goes so;
* `serveAll_interleaved`: so does every run that is requested from a pipeline, whatever was
  requested before it, with the stages that had been added until then.
-/

namespace ScriptFront

variable {σ χ α : Type}

/-- Which arguments a handoff stands for: none, one, or several. -/
inductive Handoff.Feeds : Handoff α → List α → Prop where
  | nothing : Feeds .nothing []
  | one (a : α) : Feeds (.one a) [a]
  | spread (as : List α) : Feeds (.spread as) as

theorem Handoff.feeds_iff {handoff : Handoff α} {arguments : List α} :
    handoff.Feeds arguments ↔ handoff.arguments = arguments := by
  constructor
  · intro h
    cases h <;> rfl
  · intro h
    rw [← h]
    cases handoff with
    | nothing => exact .nothing
    | one a => exact .one a
    | spread as => exact .spread as

/-- A call that a pipeline makes. Stages are numbered in the order in which they were added. -/
inductive Call (α : Type) where
  | stage (number : Nat) (arguments : List α)
  | rescue (number : Nat) (d : Diagnostic)

/-- A stage that notes its calls beside the state. -/
def Stage.noting (number : Nat) (stage : Stage σ χ α) : Stage (σ × List (Call α)) χ α where
  run arguments state :=
    (stage.run arguments state.1).map id (·, state.2 ++ [.stage number arguments])
  rescue d state :=
    (stage.rescue d state.1).map id (·, state.2 ++ [.rescue number d])

namespace Pipeline

/-- A pipeline whose stages note their calls. -/
def noting (stages : Pipeline σ χ α) : Pipeline (σ × List (Call α)) χ α :=
  stages.mapIdx fun number stage => stage.noting number

/-! ## Runs -/

/-- Whether the first `k` stages succeed if stage `i` is called with `arguments i` in `states i`,
and each of them hands over the arguments of the next. -/
def Passes (stages : Pipeline σ χ α) (arguments : Nat → List α) (states : Nat → σ) (k : Nat) :
    Prop :=
  ∀ i < k, ∃ stage handoff, stages[i]? = some stage ∧
    stage.run (arguments i) (states i) = (.ok handoff, states (i + 1)) ∧
    handoff.Feeds (arguments (i + 1))

/-- One call of each of the first `k` stages, in order. -/
def called (arguments : Nat → List α) (k : Nat) : List (Call α) :=
  (List.range k).map fun i => .stage i (arguments i)

/-- How a run ends after its first `k` stages: the calls it has made, its result and the state it
leaves behind. -/
inductive Ends (stages : Pipeline σ χ α) (arguments : Nat → List α) (states : Nat → σ) (k : Nat) :
    List (Call α) → Except (Failure Diagnostic χ) Bool → σ → Prop where
  /-- No stage is left. -/
  | succeeded (hk : k = stages.length) :
      Ends stages arguments states k (called arguments k) (.ok true) (states k)
  /-- The next stage reports a diagnostic, and its rescue deals with it. -/
  | rescued {stage : Stage σ χ α} {d : Diagnostic} {failed final : σ}
      (hstage : stages[k]? = some stage)
      (hrun : stage.run (arguments k) (states k) = (.error (.reported d), failed))
      (hrescue : stage.rescue d failed = (.ok (), final)) :
      Ends stages arguments states k (called arguments (k + 1) ++ [.rescue k d]) (.ok false) final
  /-- The next stage reports a diagnostic, and its rescue fails, in whatever way. -/
  | rescueFailed {stage : Stage σ χ α} {d : Diagnostic} {failed final : σ}
      {failure : Failure Diagnostic χ} (hstage : stages[k]? = some stage)
      (hrun : stage.run (arguments k) (states k) = (.error (.reported d), failed))
      (hrescue : stage.rescue d failed = (.error failure, final)) :
      Ends stages arguments states k (called arguments (k + 1) ++ [.rescue k d]) (.error failure)
        final
  /-- The next stage breaks off. -/
  | brokenOff {stage : Stage σ χ α} {reason : χ} {final : σ} (hstage : stages[k]? = some stage)
      (hrun : stage.run (arguments k) (states k) = (.error (.abort reason), final)) :
      Ends stages arguments states k (called arguments (k + 1)) (.error (.abort reason)) final

theorem called_succ (arguments : Nat → List α) (k : Nat) :
    called arguments (k + 1) = called arguments k ++ [.stage k (arguments k)] := by
  simp [called, List.range_succ]

/-- What is left of a pipeline from a stage on, if it notes calls. -/
theorem drop_noting {stages : Pipeline σ χ α} {k : Nat} {stage : Stage σ χ α}
    (h : stages[k]? = some stage) :
    stages.noting.drop k = stage.noting k :: stages.noting.drop (k + 1) := by
  have hk : stages.noting[k]? = some (stage.noting k) := by
    rw [noting, List.getElem?_mapIdx, h]
    rfl
  obtain ⟨hlt, hget⟩ := List.getElem?_eq_some_iff.mp hk
  rw [List.drop_eq_getElem_cons hlt, hget]

/-- Stages that succeed are called once each, in order, and the run goes on after them. -/
theorem Passes.execute_noting {stages : Pipeline σ χ α} {arguments : Nat → List α}
    {states : Nat → σ} {k : Nat} (h : Passes stages arguments states k) (earlier : List (Call α)) :
    execute stages.noting (arguments 0) (states 0, earlier) =
      execute (stages.noting.drop k) (arguments k) (states k, earlier ++ called arguments k) := by
  induction k with
  | zero => simp [called]
  | succ k ih =>
    have hbefore : Passes stages arguments states k := fun i hi => h i (by omega)
    obtain ⟨stage, handoff, hstage, hrun, hfeeds⟩ := h k (by omega)
    have hnext : handoff.arguments = arguments (k + 1) := Handoff.feeds_iff.mp hfeeds
    rw [ih hbefore, drop_noting hstage, execute]
    simp only [Stage.noting, hrun, Prod.map, id, hnext, called_succ, List.append_assoc]

/-- A run that passes some stages and then ends is the one that is executed. -/
theorem Ends.execute_noting {stages : Pipeline σ χ α} {arguments : Nat → List α}
    {states : Nat → σ} {k : Nat} {calls : List (Call α)}
    {result : Except (Failure Diagnostic χ) Bool} {final : σ}
    (h : Ends stages arguments states k calls result final)
    (hpasses : Passes stages arguments states k) (earlier : List (Call α)) :
    execute stages.noting (arguments 0) (states 0, earlier) =
      (result, final, earlier ++ calls) := by
  rw [hpasses.execute_noting earlier]
  cases h with
  | succeeded hk =>
    have hnil : stages.noting.drop k = [] := by
      rw [List.drop_eq_nil_iff, noting, List.length_mapIdx]
      omega
    rw [hnil, execute]
  | rescued hstage hrun hrescue =>
    rw [drop_noting hstage, execute]
    simp only [Stage.noting, hrun, hrescue, Prod.map, id, called_succ, List.append_assoc]
  | rescueFailed hstage hrun hrescue =>
    rw [drop_noting hstage, execute]
    simp only [Stage.noting, hrun, hrescue, Prod.map, id, called_succ, List.append_assoc]
  | brokenOff hstage hrun =>
    rw [drop_noting hstage, execute]
    simp only [Stage.noting, hrun, Prod.map, id, called_succ, List.append_assoc]

/-! ## Every run goes so -/

/-- A first value, and then those of a sequence. -/
def preceded {β : Type} (first : β) (others : Nat → β) : Nat → β
  | 0 => first
  | i + 1 => others i

/-- A stage that succeeds comes before those that pass with what it hands over. -/
theorem Passes.cons {others : Pipeline σ χ α} {arguments : Nat → List α} {states : Nat → σ}
    {k : Nat} (h : Passes others arguments states k) {stage : Stage σ χ α} {input : List α}
    {state : σ} {handoff : Handoff α} (hrun : stage.run input state = (.ok handoff, states 0))
    (hfeeds : handoff.Feeds (arguments 0)) :
    Passes (stage :: others) (preceded input arguments) (preceded state states) (k + 1) := by
  intro i hi
  cases i with
  | zero => exact ⟨stage, handoff, rfl, hrun, hfeeds⟩
  | succ i => exact h i (by omega)

/-- In every run some stages pass, up to one that does not succeed. -/
theorem exists_passes (stages : Pipeline σ χ α) (input : List α) (state : σ) :
    ∃ arguments states k, arguments 0 = input ∧ states 0 = state ∧ k ≤ stages.length ∧
      Passes stages arguments states k ∧
      ∀ stage, stages[k]? = some stage → ∃ failure,
        (stage.run (arguments k) (states k)).1 = .error failure := by
  induction stages generalizing input state with
  | nil =>
    refine ⟨fun _ => input, fun _ => state, 0, rfl, rfl, Nat.le_refl _, ?_, ?_⟩
    · intro i hi
      omega
    · intro stage hstage
      cases hstage
  | cons stage others ih =>
    cases hrun : (stage.run input state).1 with
    | error failure =>
      refine ⟨fun _ => input, fun _ => state, 0, rfl, rfl, Nat.zero_le _, ?_, ?_⟩
      · intro i hi
        omega
      · intro other hother
        cases hother
        exact ⟨failure, hrun⟩
    | ok handoff =>
      obtain ⟨arguments, states, k, harguments, hstates, hk, hpasses, hstops⟩ :=
        ih handoff.arguments (stage.run input state).2
      have hfirst : stage.run input state = (.ok handoff, states 0) := by
        rw [hstates, ← hrun]
      refine ⟨preceded input arguments, preceded state states, k + 1, rfl, rfl, ?_,
        hpasses.cons hfirst (Handoff.feeds_iff.mpr harguments.symm), hstops⟩
      exact Nat.succ_le_succ hk

/-- After the stages that pass, a run ends in one of the ways that there are. -/
theorem exists_ends {stages : Pipeline σ χ α} {arguments : Nat → List α} {states : Nat → σ}
    {k : Nat} (hk : k ≤ stages.length) (hstops : ∀ stage, stages[k]? = some stage → ∃ failure,
      (stage.run (arguments k) (states k)).1 = .error failure) :
    ∃ calls result final, Ends stages arguments states k calls result final := by
  cases hstage : stages[k]? with
  | none =>
    have hlength : stages.length ≤ k := List.getElem?_eq_none_iff.mp hstage
    exact ⟨_, _, _, .succeeded (by omega)⟩
  | some stage =>
    obtain ⟨failure, hfailure⟩ := hstops stage hstage
    have hrun : stage.run (arguments k) (states k) =
        (.error failure, (stage.run (arguments k) (states k)).2) := by
      rw [← hfailure]
    cases failure with
    | abort reason => exact ⟨_, _, _, .brokenOff hstage hrun⟩
    | reported d =>
      cases hrescue : stage.rescue d (stage.run (arguments k) (states k)).2 with
      | mk outcome final =>
        cases outcome with
        | ok done => exact ⟨_, _, _, .rescued hstage hrun hrescue⟩
        | error failure => exact ⟨_, _, _, .rescueFailed hstage hrun hrescue⟩

/-- Every run passes some stages and then ends, and makes the calls of these only. -/
theorem execute_noting_ends (stages : Pipeline σ χ α) (input : List α) (state : σ)
    (earlier : List (Call α)) :
    ∃ arguments states k calls result final, arguments 0 = input ∧ states 0 = state ∧
      Passes stages arguments states k ∧ Ends stages arguments states k calls result final ∧
      execute stages.noting input (state, earlier) = (result, final, earlier ++ calls) := by
  obtain ⟨arguments, states, k, rfl, rfl, hk, hpasses, hstops⟩ := exists_passes stages input state
  obtain ⟨calls, result, final, hends⟩ := exists_ends hk hstops
  exact ⟨arguments, states, k, calls, result, final, rfl, rfl, hpasses, hends,
    hends.execute_noting hpasses earlier⟩

/-! ## Noting calls changes nothing else -/

/-- A run whose stages note their calls, under whatever numbers, has the result and the state of the
run without. -/
theorem execute_mapIdx_noting (stages : Pipeline σ χ α) (number : Nat → Nat) (input : List α)
    (state : σ) (earlier : List (Call α)) :
    (execute (stages.mapIdx fun i stage => stage.noting (number i)) input (state, earlier)).map
      id Prod.fst = execute stages input state := by
  induction stages generalizing number input state earlier with
  | nil => rfl
  | cons stage others ih =>
    rw [List.mapIdx_cons, execute, execute]
    cases hrun : stage.run input state with
    | mk outcome after =>
      cases outcome with
      | ok handoff =>
        simp only [Stage.noting, hrun, Prod.map, id]
        exact ih _ _ _ _
      | error failure =>
        cases failure with
        | abort reason => simp only [Stage.noting, hrun, Prod.map, id]
        | reported d =>
          cases hrescue : stage.rescue d after with
          | mk outcome final =>
            cases outcome <;> simp only [Stage.noting, hrun, hrescue, Prod.map, id]

/-! ## Requests -/

namespace Request

/-- Whether a request adds a stage. -/
def isAndThen : Request σ χ α → Bool
  | andThen _ => true
  | execute _ => false

/-- The stage that a request adds. -/
def stage? : Request σ χ α → Option (Stage σ χ α)
  | andThen stage => some stage
  | execute _ => none

/-- Requests whose stages note their calls, where some stages have been added already. -/
def notingAll (added : Nat) : List (Request σ χ α) → List (Request (σ × List (Call α)) χ α)
  | [] => []
  | andThen stage :: others => andThen (stage.noting added) :: notingAll (added + 1) others
  | execute arguments :: others => execute arguments :: notingAll added others

end Request

/-- The stages that requests add, in order. -/
def added (requests : List (Request σ χ α)) : Pipeline σ χ α :=
  requests.filterMap Request.stage?

/-- The reply that tells the result of a run. -/
def Reply.ofResult : Except (Failure Diagnostic χ) Bool → Reply χ
  | .ok succeeded => .ran succeeded
  | .error failure => .failed failure

/-- The state that requests lead to. -/
def reached (stages : Pipeline σ χ α) (state : σ) : List (Request σ χ α) → σ
  | [] => state
  | request :: others =>
    reached (serve stages state request).2.1 (serve stages state request).2.2 others

theorem serve_execute (stages : Pipeline σ χ α) (state : σ) (arguments : List α) :
    serve stages state (.execute arguments) =
      (.ofResult (execute stages arguments state).1, stages,
        (execute stages arguments state).2) := by
  simp only [serve]
  split
  · rename_i hexecute
    rw [hexecute]
    rfl
  · rename_i hexecute
    rw [hexecute]
    rfl

/-- A request adds its stage, if it has one, and leaves the other stages as they are. -/
theorem pipeline_serve (stages : Pipeline σ χ α) (state : σ) (request : Request σ χ α) :
    (serve stages state request).2.1 = stages ++ added [request] := by
  cases request with
  | andThen stage => rfl
  | execute arguments =>
    rw [serve_execute]
    exact (List.append_nil stages).symm

theorem serveAll_cons (stages : Pipeline σ χ α) (state : σ) (request : Request σ χ α)
    (others : List (Request σ χ α)) :
    serveAll stages state (request :: others) =
      ((serve stages state request).1, (serve stages state request).2.2) ::
        serveAll (stages ++ added [request]) (serve stages state request).2.2 others := by
  rw [← pipeline_serve stages state request]
  rfl

theorem serveAll_execute (stages : Pipeline σ χ α) (state : σ) (arguments : List α)
    (others : List (Request σ χ α)) :
    serveAll stages state (.execute arguments :: others) =
      (.ofResult (execute stages arguments state).1, (execute stages arguments state).2) ::
        serveAll stages (execute stages arguments state).2 others := by
  rw [serveAll_cons, serve_execute]
  show _ :: serveAll (stages ++ []) _ others = _
  rw [List.append_nil]

/-- Requests are served with the stages and the state that those before them lead to. -/
theorem serveAll_append (stages : Pipeline σ χ α) (state : σ)
    (requests others : List (Request σ χ α)) :
    serveAll stages state (requests ++ others) = serveAll stages state requests ++
      serveAll (stages ++ added requests) (reached stages state requests) others := by
  induction requests generalizing stages state with
  | nil =>
    show serveAll stages state others = serveAll (stages ++ []) state others
    rw [List.append_nil]
  | cons request requests ih =>
    have hadded : stages ++ added (request :: requests) =
        stages ++ added [request] ++ added requests := by
      rw [List.append_assoc, added, added, added, ← List.filterMap_append]
      rfl
    rw [List.cons_append, serveAll_cons, serveAll_cons, ih, hadded, reached, pipeline_serve]
    rfl

theorem length_serveAll (stages : Pipeline σ χ α) (state : σ) (requests : List (Request σ χ α)) :
    (serveAll stages state requests).length = requests.length := by
  induction requests generalizing stages state with
  | nil => rfl
  | cons request requests ih => rw [serveAll_cons, List.length_cons, ih, List.length_cons]

/-- Adding stages leads to the pipeline of them, and does nothing to the state. -/
theorem reached_filter_isAndThen (stages : Pipeline σ χ α) (state : σ)
    (requests : List (Request σ χ α)) :
    reached stages state (requests.filter Request.isAndThen) = state ∧
      added (requests.filter Request.isAndThen) = added requests := by
  induction requests generalizing stages with
  | nil => exact ⟨rfl, rfl⟩
  | cons request requests ih =>
    cases request with
    | andThen stage => exact ⟨(ih (stages.andThen stage)).1, congrArg (stage :: ·) (ih stages).2⟩
    | execute arguments => exact ih stages

/-! ## Requests whose stages note their calls -/

theorem notingAll_append (n : Nat) (requests others : List (Request σ χ α)) :
    Request.notingAll n (requests ++ others) =
      Request.notingAll n requests ++ Request.notingAll (n + (added requests).length) others := by
  induction requests generalizing n with
  | nil => rfl
  | cons request requests ih =>
    cases request with
    | andThen stage =>
      have hadded : n + (added (.andThen stage :: requests)).length =
          n + 1 + (added requests).length := by
        show n + (stage :: added requests).length = _
        rw [List.length_cons]
        omega
      rw [List.cons_append, Request.notingAll, Request.notingAll, ih, List.cons_append, hadded]
    | execute arguments =>
      rw [List.cons_append, Request.notingAll, Request.notingAll, ih, List.cons_append]
      rfl

/-- Stages that note their calls are numbered as they are added. -/
theorem added_notingAll (n : Nat) (requests : List (Request σ χ α)) :
    added (Request.notingAll n requests) =
      (added requests).mapIdx fun i stage => stage.noting (i + n) := by
  induction requests generalizing n with
  | nil => rfl
  | cons request requests ih =>
    cases request with
    | andThen stage =>
      show stage.noting n :: added (Request.notingAll (n + 1) requests) =
        (stage :: added requests).mapIdx fun i stage => stage.noting (i + n)
      rw [ih, List.mapIdx_cons, Nat.zero_add]
      simp only [Nat.add_assoc, Nat.add_comm 1]
    | execute arguments => exact ih n

/-- Noting the calls changes neither the replies nor the states. -/
theorem serveAll_noting (stages : Pipeline σ χ α) (state : σ) (earlier : List (Call α))
    (requests : List (Request σ χ α)) :
    (serveAll stages.noting (state, earlier) (Request.notingAll stages.length requests)).map
      (fun reply => (reply.1, reply.2.1)) = serveAll stages state requests := by
  induction requests generalizing stages state earlier with
  | nil => rfl
  | cons request requests ih =>
    cases request with
    | andThen stage =>
      have hnoting : stages.noting.andThen (stage.noting stages.length) =
          (stages.andThen stage).noting := by
        rw [andThen, andThen, noting, noting, List.mapIdx_concat]
      have hlength : (stages.andThen stage).length = stages.length + 1 := by
        rw [andThen, List.length_append, List.length_singleton]
      have htail := ih (stages.andThen stage) state earlier
      rw [← hnoting, hlength] at htail
      exact congrArg ((.added, state) :: ·) htail
    | execute arguments =>
      have hexecute : (execute stages.noting arguments (state, earlier)).map id Prod.fst =
          execute stages arguments state := execute_mapIdx_noting stages id arguments state earlier
      have htail := ih stages (execute stages.noting arguments (state, earlier)).2.1
        (execute stages.noting arguments (state, earlier)).2.2
      rw [Request.notingAll, serveAll_execute, serveAll_execute, ← hexecute]
      exact congrArg (_ :: ·) htail

theorem length_notingAll (n : Nat) (requests : List (Request σ χ α)) :
    (Request.notingAll n requests).length = requests.length := by
  induction requests generalizing n with
  | nil => rfl
  | cons request requests ih => cases request <;> simp [Request.notingAll, ih]

/-- What is noted from some request on is noted by the stages that have been added until then. -/
theorem serveAll_notingAll_append (state : σ) (before others : List (Request σ χ α)) :
    serveAll [] (state, []) (Request.notingAll 0 (before ++ others)) =
      serveAll [] (state, []) (Request.notingAll 0 before) ++
        serveAll (added before).noting (reached [] (state, []) (Request.notingAll 0 before))
          (Request.notingAll (added before).length others) := by
  rw [notingAll_append, serveAll_append, added_notingAll, Nat.zero_add]
  rfl

/-- Where stages have been added and nothing has been run, requests are served with these stages. -/
theorem drop_serveAll_isAndThen (state : σ) (before after : List (Request σ χ α)) :
    (serveAll [] state (before.filter Request.isAndThen ++ after)).drop
      (before.filter Request.isAndThen).length = serveAll (added before) state after := by
  obtain ⟨hstate, hsame⟩ := reached_filter_isAndThen ([] : Pipeline σ χ α) state before
  rw [serveAll_append, hstate, hsame, List.drop_left' (length_serveAll _ _ _)]
  rfl

/-- Whatever has been requested from a pipeline, and whatever comes after: a request to add a stage
calls nothing, and a request to run calls the stages that have been added until then, as `Passes`
and `Ends` say, starting with the arguments and the state that it is given. Noting the calls changes
neither replies nor states. And what comes after is served as if no run had been requested before,
from the state that this one leaves behind. -/
theorem serveAll_interleaved (state : σ) (before : List (Request σ χ α))
    (request : Request σ χ α) (after : List (Request σ χ α)) :
    let requests := before ++ request :: after
    let noted := serveAll [] (state, []) (Request.notingAll 0 requests)
    let start := reached [] (state, []) (Request.notingAll 0 before)
    noted.map (fun reply => (reply.1, reply.2.1)) = serveAll [] state requests ∧
      match request with
      | .andThen _ => noted[before.length]? = some (.added, start)
      | .execute input =>
        ∃ arguments states k calls result final,
          noted[before.length]? = some (.ofResult result, final, start.2 ++ calls) ∧
          arguments 0 = input ∧ states 0 = start.1 ∧
          Passes (added before) arguments states k ∧
          Ends (added before) arguments states k calls result final ∧
          let others := before.filter Request.isAndThen
          (serveAll [] state requests).drop (before.length + 1) =
            (serveAll [] final (others ++ after)).drop others.length := by
  intro requests noted start
  have herased : noted.map (fun reply => (reply.1, reply.2.1)) = serveAll [] state requests :=
    serveAll_noting [] state [] requests
  have hnoted := serveAll_notingAll_append state before (request :: after)
  have hlength : (serveAll [] (state, []) (Request.notingAll 0 before)).length = before.length := by
    rw [length_serveAll, length_notingAll]
  refine ⟨herased, ?_⟩
  cases request with
  | andThen stage =>
    show (serveAll _ _ _)[_]? = _
    rw [hnoted, List.getElem?_append_right (by omega), hlength, Nat.sub_self]
    rfl
  | execute input =>
    obtain ⟨arguments, states, k, calls, result, final, harguments, hstates, hpasses, hends,
      hexecute⟩ := execute_noting_ends (added before) input start.1 start.2
    rw [Request.notingAll, serveAll_execute, hexecute] at hnoted
    refine ⟨arguments, states, k, calls, result, final, ?_, harguments, hstates, hpasses, hends, ?_⟩
    · show (serveAll _ _ _)[_]? = _
      rw [hnoted, List.getElem?_append_right (by omega), hlength, Nat.sub_self]
      rfl
    · intro others
      rw [drop_serveAll_isAndThen, ← herased, ← List.map_drop]
      show ((serveAll _ _ _).drop _).map _ = _
      rw [hnoted, ← hlength, ← List.drop_drop, List.drop_left, List.drop_one]
      exact serveAll_noting (added before) final (start.2 ++ calls) after

end Pipeline

end ScriptFront
