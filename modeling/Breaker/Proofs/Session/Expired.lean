import Breaker.Proofs.Registry.Expired
import Breaker.Proofs.Session.Likeness
import Breaker.Proofs.Session.Traffic

/-!
# Worlds with failures that have expired

`w.pruned` is `w` after a snapshot of every circuit. A motion of a world that is pruned first has
the same effects and the same reply, and leads to a world that is pruned alike (`move_pruned`); so
it is with commands (`command_pruned`). Only when the clock is advanced does the instant of the
pruning move, and what has been pruned before is pruned then too.
-/

namespace Breaker

namespace World

variable {K α ε : Type}

/-- The world with all its circuits pruned. -/
def pruned (w : World K) : World K :=
  { w with
    gateway := { w.gateway with registry := w.gateway.registry.pruned w.clock }
    standalone := w.standalone.map (·.pruned w.clock) }

/-- Both outcomes are the same but for failures that have expired. -/
structure SameButExpired (out out' : World K × α) : Prop where
  world : out.1.pruned = out'.1.pruned
  rest : out.2 = out'.2

namespace SameButExpired

variable {out out' out'' : World K × α}

theorem symm (h : SameButExpired out out') : SameButExpired out' out :=
  ⟨h.world.symm, h.rest.symm⟩

theorem trans (h : SameButExpired out out') (h' : SameButExpired out' out'') :
    SameButExpired out out'' := ⟨h.world.trans h'.world, h.rest.trans h'.rest⟩

/-- An operation that does the same to a world and to the pruned one does the same to any two worlds
that are pruned alike. -/
theorem lift {op : World K → World K × α} (hop : ∀ w, SameButExpired (op w) (op w.pruned))
    {w w' : World K} (h : w.pruned = w'.pruned) : SameButExpired (op w) (op w') := by
  have hw' := hop w'
  rw [← h] at hw'
  exact (hop w).trans hw'.symm

end SameButExpired

/-! ## Pruning -/

variable (w : World K) (a : Address) (c : Circuit K)

theorem pruned_pruned : w.pruned.pruned = w.pruned := by
  have hregistry := w.gateway.registry.pruned_pruned w.clock (Nat.le_refl w.clock)
  have hstandalone : (w.standalone.map (·.pruned w.clock)).map (·.pruned w.clock) =
      w.standalone.map (·.pruned w.clock) := by
    simp [Function.comp_def, Circuit.pruned_pruned]
  simp only [pruned, hregistry, hstandalone]

/-- What has been pruned at one time may as well be pruned later. -/
theorem pruned_at {now : Instant} (h : w.clock ≤ now) :
    ({ w.pruned with clock := now } : World K).pruned =
      ({ w with clock := now } : World K).pruned := by
  have hregistry := w.gateway.registry.pruned_pruned w.clock h
  have hstandalone : (w.standalone.map (·.pruned w.clock)).map (·.pruned now) =
      w.standalone.map (·.pruned now) := by
    simp [Function.comp_def, Circuit.pruned_pruned _ h]
  simp only [pruned, hregistry, hstandalone]

theorem unchanged_pruned (answer : α) : SameButExpired (w, answer) (w.pruned, answer) :=
  ⟨w.pruned_pruned.symm, rfl⟩

theorem circuit?_pruned : w.pruned.circuit? a = (w.circuit? a).map (·.pruned w.clock) := by
  cases a with
  | named name => exact w.gateway.registry.circuit?_pruned name w.clock
  | standalone number => exact List.getElem?_map ..

theorem setCircuit_pruned :
    w.pruned.setCircuit a (c.pruned w.clock) = (w.setCircuit a c).pruned := by
  cases a with
  | named name =>
    have hregistry := w.gateway.registry.setCircuit_pruned name w.clock c
    simp only [setCircuit, pruned, hregistry]
  | standalone number =>
    simp only [setCircuit, pruned, List.map_set]

theorem states_pruned : w.pruned.states = w.states := by
  have hnamed : (w.pruned.gateway.registry.entries.entries.map fun e =>
      (e.1, e.2.circuit.published)) =
      w.gateway.registry.entries.entries.map fun e => (e.1, e.2.circuit.published) :=
    List.map_map
  have hstandalone : ∀ e : String × Nat,
      (w.pruned.standalone[e.2]?.map fun c => ("*" ++ e.1, c.published)) =
        w.standalone[e.2]?.map fun c => ("*" ++ e.1, c.published) := by
    intro e
    simp only [pruned, List.getElem?_map, Option.map_map]
    rfl
  unfold states
  rw [hnamed, funext hstandalone]
  rfl

/-- Registries that are pruned alike, in the world and in the pruned one. -/
theorem withRegistry_pruned {r r' : Registry K} (h : r.pruned w.clock = r'.pruned w.clock)
    (effects : List Effect) (answer : α) :
    SameButExpired
      (({ w with gateway := { w.gateway with registry := r } } : World K).note effects, answer)
      (({ w.pruned with gateway := { w.gateway with registry := r' } } : World K).note effects,
        answer) := by
  have hstandalone : (w.standalone.map (·.pruned w.clock)).map (·.pruned w.clock) =
      w.standalone.map (·.pruned w.clock) := congrArg World.standalone w.pruned_pruned
  refine ⟨?_, rfl⟩
  simp only [pruned, note, h, hstandalone]

/-! ## Motions -/

/-- An operation of one circuit that cannot tell whether it is pruned. -/
theorem onCircuit_pruned (op : Circuit K → Instant → Circuit K × List Effect × α)
    (hop : Circuit.SameButExpired w.clock (op c w.clock) (op (c.pruned w.clock) w.clock)) :
    SameButExpired (w.onCircuit a c op) (w.pruned.onCircuit a (c.pruned w.clock) op) := by
  have hset := setCircuit_pruned w a (op c w.clock).1
  have hset' := setCircuit_pruned w.pruned a (op (c.pruned w.clock) w.clock).1
  have hclock : w.pruned.clock = w.clock := rfl
  rw [hclock, pruned_pruned, ← hop.circuit, hset] at hset'
  refine ⟨?_, ?_⟩
  · show ((w.setCircuit a (op c w.clock).1).pruned).note (heard a (op c w.clock).2.1) =
      ((w.pruned.setCircuit a (op (c.pruned w.clock) w.clock).1).pruned).note
        (heard a (op (c.pruned w.clock) w.clock).2.1)
    rw [hop.rest, ← hset']
  · show (heard a (op c w.clock).2.1, (op c w.clock).2.2) =
      (heard a (op (c.pruned w.clock) w.clock).2.1, (op (c.pruned w.clock) w.clock).2.2)
    rw [hop.rest]

theorem settle_pruned (p : Permit) (action : Action Json (Failure K)) :
    SameButExpired (w.settle a p action) (w.pruned.settle a p action) := by
  unfold World.settle
  rw [circuit?_pruned]
  cases w.circuit? a with
  | none => exact unchanged_pruned w _
  | some c => exact onCircuit_pruned w a c _ (c.settle_pruned w.clock p Failure.kind action)

theorem abandonAt_pruned (p : Permit) :
    SameButExpired (w.abandonAt a p) (w.pruned.abandonAt a p) := by
  unfold World.abandonAt
  rw [circuit?_pruned]
  cases w.circuit? a with
  | none => exact unchanged_pruned w _
  | some c =>
    have habandon := c.abandon_pruned w.clock p
    exact onCircuit_pruned w a c (fun c now => ((c.abandon now p).1, (c.abandon now p).2, ()))
      ⟨habandon.circuit, congrArg (·, ()) habandon.rest⟩

theorem begin_pruned (route : Route K) : w.pruned.begin route = (w.begin route).pruned := by
  cases route <;> rfl

theorem begun_pruned {out out' : World K × List Effect × Except ε Permit}
    (h : SameButExpired out out') (route : Route K) :
    SameButExpired (begun route out) (begun route out') := by
  obtain ⟨w, effects, answer⟩ := out
  obtain ⟨w', effects', answer'⟩ := out'
  obtain ⟨hworld, hrest⟩ := h
  cases hrest
  cases answer with
  | error e => exact ⟨hworld, rfl⟩
  | ok p =>
    have hbegin := congrArg (begin · route) hworld
    simp only [begin_pruned] at hbegin
    exact ⟨hbegin, rfl⟩

variable [DecidableEq K]

theorem enterGateway_pruned (ctx : CallContext K) :
    SameButExpired (w.enterGateway ctx) (w.pruned.enterGateway ctx) := by
  have hresolve := w.gateway.registry.resolve_pruned ctx.name w.clock
    (ctx.rule.map (.ofRule w.hierarchy))
  rcases hfound : w.gateway.registry.resolve ctx.name (ctx.rule.map (.ofRule w.hierarchy)) w.clock
    with ⟨r, found, c⟩
  rw [hfound] at hresolve
  have harrive := c.arrive_pruned w.clock
  rcases ha : c.arrive w.clock with ⟨c', effects, answer⟩
  rcases ha' : (c.pruned w.clock).arrive w.clock with ⟨c'', effects', answer'⟩
  rw [ha, ha'] at harrive
  obtain ⟨hc, hrest⟩ := harrive
  cases hrest
  have hset : ((r.pruned w.clock).setCircuit ctx.name c'').pruned w.clock =
      (r.setCircuit ctx.name c').pruned w.clock := by
    rw [← Registry.setCircuit_pruned, ← Registry.setCircuit_pruned, ← hc,
      r.pruned_pruned w.clock (Nat.le_refl _)]
  simp only [World.enterGateway, Gateway.arrive, pruned, hfound, ha, hresolve, ha']
  exact withRegistry_pruned w hset.symm _ _

theorem enter_pruned (route : Route K) :
    SameButExpired (w.enter route) (w.pruned.enter route) := by
  cases route with
  | gateway ctx =>
    rw [enter_gateway, enter_gateway]
    exact begun_pruned (enterGateway_pruned w ctx) _
  | service number ctx inner =>
    rw [enter_service, enter_service]
    exact begun_pruned (enterGateway_pruned w ctx) _
  | direct a =>
    have hcircuit := circuit?_pruned w a
    cases hc : w.circuit? a with
    | none =>
      rw [hc] at hcircuit
      rw [enter_direct_of_none hc, enter_direct_of_none hcircuit]
      exact unchanged_pruned w _
    | some c =>
      rw [hc] at hcircuit
      rw [enter_direct_of_some hc, enter_direct_of_some hcircuit]
      have harrive := c.arrive_pruned w.clock
      have h := onCircuit_pruned w a c
        (fun c now => ((c.arrive now).1, (c.arrive now).2.1, (c.arrive now).2.2.mapError fun e =>
          (CallResult.error (.rejected e) : CallResult Json (Failure K))))
        ⟨harrive.circuit, by rw [harrive.rest]⟩
      exact begun_pruned h _

omit [DecidableEq K] in
theorem address?_pruned (t : Target) : w.pruned.address? t = w.address? t := by
  cases t with
  | named name =>
    have hcontains := w.gateway.registry.contains_pruned name w.clock
    simp only [address?, pruned, hcontains]
  | standalone id => rfl

omit [DecidableEq K] in
theorem locate_pruned (t : Target) :
    w.pruned.locate t = (w.locate t).map fun found => (found.1, found.2.pruned w.clock) := by
  unfold locate
  rw [address?_pruned]
  cases w.address? t with
  | error answer => cases t <;> rfl
  | ok a =>
    simp only [circuit?_pruned]
    cases t <;>
      · dsimp only
        cases w.circuit? a <;> rfl

omit [DecidableEq K] in
theorem route_pruned (origin : Origin K) : w.pruned.route origin = w.route origin := by
  cases origin with
  | gateway ctx => rfl
  | service id => rfl
  | direct t => exact congrArg (Except.map Route.direct) (address?_pruned w t)

omit [DecidableEq K] in
theorem run_pruned {now : Instant} (command : CircuitCommand K) (c : Circuit K) :
    Circuit.SameButExpired now (command.run c now) (command.run (c.pruned now) now) := by
  cases command with
  | bindClassifier f =>
    simp only [CircuitCommand.run, Circuit.bindClassifier_pruned]
    exact (c.bindClassifier f).1.unchanged_pruned now _
  | classify kinds =>
    have hclassify : (c.pruned now).classify = c.classify := rfl
    simp only [CircuitCommand.run, hclassify]
    cases kinds.mapM c.classify <;> exact c.unchanged_pruned now _
  | info => exact c.unchanged_pruned now _
  | snapshot =>
    simp only [CircuitCommand.run, Circuit.snapshot_pruned]
    exact ⟨rfl, rfl⟩
  | forceOpen =>
    have h := c.forceOpen_pruned now
    exact ⟨h.circuit, congrArg (·, Answer.done) h.rest⟩
  | forceClosed | reset =>
    have h := c.forceClosed_pruned now
    exact ⟨h.circuit, congrArg (·, Answer.done) h.rest⟩

omit [DecidableEq K] in
theorem commandCircuit_pruned (t : Target) (command : CircuitCommand K) :
    SameButExpired (w.commandCircuit t command) (w.pruned.commandCircuit t command) := by
  unfold World.commandCircuit
  rw [locate_pruned]
  cases w.locate t with
  | error answer => exact unchanged_pruned w _
  | ok found => exact onCircuit_pruned w found.1 found.2 _ (run_pruned command found.2)

omit [DecidableEq K] in
/-- An operation of the registry that does not look at failures. -/
theorem onRegistry_pruned {op : Registry K → Instant → Registry K × List Effect × α}
    (hop : ∀ r now, op (r.pruned now) now = ((op r now).1.pruned now, (op r now).2)) :
    SameButExpired (w.onRegistry op) (w.pruned.onRegistry op) := by
  have hregistry := hop w.gateway.registry w.clock
  have hpruned := (op w.gateway.registry w.clock).1.pruned_pruned w.clock (Nat.le_refl _)
  simp only [onRegistry, pruned, hregistry]
  exact withRegistry_pruned w hpruned.symm _ _

omit [DecidableEq K] in
theorem registry_pruned (command : RegistryCommand K) (r : Registry K) (now : Instant) :
    command.run (r.pruned now) now = ((command.run r now).1.pruned now, (command.run r now).2) := by
  cases command with
  | getOrCreate name =>
    simp only [RegistryCommand.run, Registry.getOrCreate_pruned]
    rfl
  | bindClassification name f =>
    simp only [RegistryCommand.run, Registry.bindClassification_pruned]
  | bindPolicy name policy => simp only [RegistryCommand.run, Registry.bindPolicy_pruned]
  | loadProperties pairs => simp only [RegistryCommand.run, Registry.loadProperties_pruned]
  | snapshots =>
    have hpruned := r.pruned_pruned now (Nat.le_refl now)
    simp only [RegistryCommand.run, Registry.snapshots_pruned, Registry.fst_snapshots, hpruned]

omit [DecidableEq K] in
theorem advance_pruned (span : Duration) :
    SameButExpired (w.advance span) (w.pruned.advance span) := by
  have hclock : w.pruned.clock = w.clock := rfl
  unfold World.advance
  rw [hclock]
  cases hafter : w.clock.after? span with
  | none => exact unchanged_pruned w _
  | some now => exact ⟨(pruned_at w (Instant.le_of_after?_eq_some hafter)).symm, rfl⟩

omit [DecidableEq K] in
theorem makeCircuit_pruned (id name : String) (policy : Policy) :
    SameButExpired (w.makeCircuit id name policy) (w.pruned.makeCircuit id name policy) := by
  have hregistry := w.gateway.registry.pruned_pruned w.clock (Nat.le_refl w.clock)
  have hstandalone : (w.standalone.map (·.pruned w.clock)).map (·.pruned w.clock) =
      w.standalone.map (·.pruned w.clock) := congrArg World.standalone w.pruned_pruned
  refine ⟨?_, rfl⟩
  simp only [World.makeCircuit, pruned, List.map_append, List.length_map, hregistry, hstandalone]

omit [DecidableEq K] in
theorem pollService_pruned (id : String) (readiness : Readiness (Failure K)) :
    SameButExpired (w.pollService id readiness) (w.pruned.pollService id readiness) := by
  have hservice : w.pruned.service id = w.service id := rfl
  unfold World.pollService
  rw [hservice]
  cases w.service id with
  | error answer => exact unchanged_pruned w _
  | ok found => exact unchanged_pruned { w with services := _ } _

/-- **A motion does not see failures that have expired.** -/
theorem move_pruned (m : Motion K) : SameButExpired (w.move m) (w.pruned.move m) := by
  cases m with
  | enter route => exact enter_pruned w route
  | settle a p action => exact settle_pruned w a p action
  | abandon a p => exact abandonAt_pruned w a p
  | file id call => exact unchanged_pruned { w with calls := w.calls.insert id call } _
  | forget id => exact unchanged_pruned (w.forget id) _
  | control t command => exact commandCircuit_pruned w t command
  | registry command => exact onRegistry_pruned w (registry_pruned command)
  | advance span => exact advance_pruned w span
  | makeCircuit id name policy => exact makeCircuit_pruned w id name policy
  | makeService id ctx => exact unchanged_pruned (w.makeService id ctx).1 _
  | pollService id readiness => exact pollService_pruned w id readiness

/-! ## What is shown of a world -/

omit [DecidableEq K] in
theorem get_pruned (name : String) : w.pruned.get name = w.get name := by
  simp only [World.get, pruned, Registry.circuit?_pruned]
  cases w.gateway.registry.circuit? name <;> rfl

omit [DecidableEq K] in
theorem inspect_pruned (shown : Shown) : w.pruned.inspect shown = w.inspect shown := by
  have hregistry := w.gateway.registry.inspect_pruned w.clock
  cases shown with
  | registry => exact congrArg Answer.text hregistry
  | gateway => simp only [World.inspect, Gateway.inspect, pruned, hregistry]
  | circuit t =>
    simp only [World.inspect, locate_pruned]
    cases w.locate t <;> rfl

theorem looks_pruned {command : Command K} (h : command.Looks) :
    (w.command command).2.2 = (w.pruned.command command).2.2 := by
  let r := w.gateway.registry
  cases h with
  | get name => exact (get_pruned w name).symm
  | isKnown name => exact congrArg Answer.flag (r.contains_pruned name w.clock).symm
  | isConfigured name =>
    simp only [World.command, World.isConfigured, pruned, Registry.isConfigured?_pruned]
  | list =>
    exact (congrArg₂ Answer.listing (r.names_pruned w.clock) (r.size_pruned w.clock)).symm
  | openCircuits => exact congrArg Answer.names (r.openCircuits_pruned w.clock).symm
  | inspect shown => exact (inspect_pruned w shown).symm
  | _ => rfl

/-! ## Commands -/

/-- Worlds that are the same but for failures that have expired. -/
def butExpired (K : Type) : Likeness K :=
  .sameAnswers fun w w' => w.pruned = w'.pruned

theorem respects_pruned : (butExpired K).Respects fun _ => True := by
  intro m _ w w' h
  have hmove := SameButExpired.lift (move_pruned · m) h
  exact .of_eq hmove.world (congrArg Prod.fst hmove.rest).symm (congrArg Prod.snd hmove.rest).symm

theorem command_pruned (command : Command K) :
    SameButExpired (w.command command) (w.pruned.command command) := by
  have hcommand := respects_pruned.command (w := w) w.pruned_pruned.symm
    (Script.uses_of_forall (fun _ => trivial) (w.script command))
    (fun origin _ => route_pruned w origin) (fun _ _ => rfl) (looks_pruned w)
  exact ⟨hcommand.world, Prod.ext hcommand.effects.symm hcommand.answer⟩

end World

end Breaker
