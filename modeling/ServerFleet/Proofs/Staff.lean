import ServerFleet.Cluster
import ServerFleet.Proofs.Locality

/-!
# Crews that agree

Two crews that differ only in their collaborators run their sequences alike if
the collaborators do (`Collaborators.Agree`), and what the collaborators keep, the
sequences keep. This is shown for the sequences that transitions run
(`Sequence.setGoal_agree`, `Sequence.startAll_agree`, `Sequence.stopAll_agree`) and for
every operation (`Sequence.carryOut_agree`).
-/

namespace ServerFleet

open Act (Agree Keeps)

variable {σ : Type} {I : Session σ → Prop} {E : Event → Prop}

/-- `I` and `E` say nothing of what sequences do besides calling collaborators: they
find names, write to the log, and use the pool. -/
structure Admits (I : Session σ → Prop) (E : Event → Prop) : Prop where
  found : ∀ s world identity, I s → I { s with world := world, identity := identity }
  log : ∀ level text, E (.log level text)
  pool : ∀ step, E (.pool step)

/-- The collaborators agree on whatever they are called for. -/
structure Collaborators.Agree (I : Session σ → Prop) (E : Event → Prop)
    (c c' : Collaborators σ) : Prop where
  runLocal : ∀ argv additions limit,
    Act.Agree I E (c.runLocal argv additions limit) (c'.runLocal argv additions limit)
  runRemote : ∀ host line, Act.Agree I E (c.runRemote host line) (c'.runRemote host line)
  admin : ∀ request, Act.Agree I E (c.admin request) (c'.admin request)
  purge : ∀ roles, Act.Agree I E (c.purge roles) (c'.purge roles)
  sleep : ∀ seconds, Act.Agree I E (c.sleep seconds) (c'.sleep seconds)

/-- A query of the names of this machine keeps what is watched. -/
theorem Session.asking_keeps (ha : Admits I E) (w : World σ) (host : Option String) :
    Keeps I E (Session.asking (Identity.isLocal w host)) := by
  have hkeeps : Keeps (fun _ => True) E (Identity.isLocal w host) :=
    Identity.keeps_isLocal (P := fun _ => True) w (fun _ h => h) ha.log host
  exact hkeeps.zoom (fun _ _ => trivial) fun s v hs _ => ha.found s v.world v.identity hs

/-- So does a query of the names that a sequence goes by. -/
theorem Session.askingOwn_keeps (ha : Admits I E)
    (hown : ∀ s world identity, I s → I { s with world := world, ownIdentity := some identity })
    (w : World σ) (host : Option String) :
    Keeps I E (Session.askingOwn (Identity.isLocal w host)) := by
  have hkeeps : Keeps (fun _ => True) E (Identity.isLocal w host) :=
    Identity.keeps_isLocal (P := fun _ => True) w (fun _ h => h) ha.log host
  refine hkeeps.zoom (fun _ _ => trivial) fun s v hs _ => ?_
  split
  · exact hown s v.world v.identity hs
  · exact ha.found s v.world v.identity hs

variable {settings : Settings} {topology : Topology} {w : World σ} {c c' : Collaborators σ}

namespace Dispatch

theorem control_agree (hc : c.Agree I E c') (isLocal : Bool) (target : Instance)
    (command : Command) :
    Agree I E (control settings c isLocal target command)
      (control settings c' isLocal target command) := by
  cases isLocal with
  | false => exact (Act.keeps_ofExcept _).bind fun line => hc.runRemote target.host line
  | true => exact (Act.keeps_ofExcept _).bind fun words => hc.runLocal words _ _

theorem carryOut_agree (ha : Admits I E) (hc : c.Agree I E c') (target : Instance)
    (command : Command) :
    Agree I E (carryOut settings w c target command) (carryOut settings w c' target command) := by
  refine (Session.asking_keeps ha w _).bind fun isLocal =>
    (control_agree hc isLocal target command).attempt.bind fun r => ?_
  cases r with
  | ok _ => exact (Act.keeps_log (ha.log _ _)).bind fun _ => Act.keeps_pure _
  | error e => exact (Act.keeps_log (ha.log _ _)).bind fun _ => Act.keeps_pure _

theorem submit_keeps (ha : Admits I E) (command : Command) (target : Instance) :
    Keeps I E (submit command target : Act (Session σ) (Instance × Command)) := by
  refine Act.keeps_get.bind fun s => ?_
  cases s.poolOpen with
  | true => exact (Act.keeps_record (ha.pool _)).bind fun _ => Act.keeps_pure _
  | false => exact Act.keeps_fail _

theorem join_agree (ha : Admits I E) (hc : c.Agree I E c') (calls : List (Instance × Command)) :
    Agree I E (join settings w c calls) (join settings w c' calls) := by
  refine Act.Agree.bind (Agree.each ?_ calls) fun outcomes =>
    (Act.keeps_record (ha.pool _)).bind fun _ => Act.keeps_pure outcomes
  intro call
  exact carryOut_agree ha hc call.1 call.2

theorem run_agree (ha : Admits I E) (hc : c.Agree I E c') (role : Role) (hosts : List String)
    (command : Command) :
    Agree I E (run settings w c role hosts command) (run settings w c' role hosts command) := by
  have heach : Keeps I E
      (Act.each (submit command) (hosts.flatMap (instances settings role)) : Act (Session σ) _) :=
    Agree.each (submit_keeps ha command) _
  exact heach.bind fun calls => join_agree ha hc calls

theorem startWorkers_agree (ha : Admits I E) (hc : c.Agree I E c') (hosts : List String) :
    Agree I E (startWorkers settings w c hosts) (startWorkers settings w c' hosts) :=
  (Agree.each (fun batch => run_agree ha hc .worker batch .start) _).bind fun _ =>
    Act.keeps_pure _

end Dispatch

namespace Sequence

theorem sweep_agree (ha : Admits I E) (hc : c.Agree I E c') (roles : List Role)
    (command : Command) :
    Agree I E (sweep ⟨settings, topology, w, c⟩ roles command)
      (sweep ⟨settings, topology, w, c'⟩ roles command) :=
  (Agree.each (fun role => Dispatch.run_agree ha hc role _ command) roles).map _

theorem succeeds_agree (kind : ReportKind) {a b : Act (Session σ) Unit} (h : Agree I E a b)
    {f : Failure → Act (Session σ) Unit} (hf : ∀ e, Keeps I E (f e)) :
    Agree I E (succeeds kind a f) (succeeds kind b f) := by
  refine h.attempt.bind fun r => ?_
  cases r with
  | ok _ => exact Act.keeps_pure true
  | error e =>
    dsimp only
    split
    · exact (hf e).bind fun _ => Act.keeps_pure false
    · exact Act.keeps_fail e

theorem purge_agree (ha : Admits I E) (hc : c.Agree I E c') (roles : List Role) :
    Agree I E (purge ⟨settings, topology, w, c⟩ roles) (purge ⟨settings, topology, w, c'⟩ roles) :=
  (Act.keeps_log (ha.log _ _)).bind fun _ =>
    succeeds_agree .cleanup (hc.purge roles) fun _ => Act.keeps_log (ha.log _ _)

theorem setGoal_agree (ha : Admits I E) (hc : c.Agree I E c') (goal : String) :
    Agree I E (setGoal ⟨settings, topology, w, c⟩ goal)
      (setGoal ⟨settings, topology, w, c'⟩ goal) :=
  succeeds_agree .administrative (hc.admin _) fun _ => Act.keeps_log (ha.log _ _)

theorem startWorkers_agree (ha : Admits I E) (hc : c.Agree I E c') :
    Agree I E (startWorkers ⟨settings, topology, w, c⟩)
      (startWorkers ⟨settings, topology, w, c'⟩) :=
  (Act.keeps_log (ha.log _ _)).bind fun _ =>
    (Dispatch.startWorkers_agree ha hc topology.workers).bind fun _ => Act.keeps_pure _

theorem startAll_agree (ha : Admits I E) (hc : c.Agree I E c') :
    Agree I E (startAll ⟨settings, topology, w, c⟩) (startAll ⟨settings, topology, w, c'⟩) :=
  (startWorkers_agree ha hc).bind fun _ =>
    (sweep_agree ha hc _ .start).bind fun _ => Act.keeps_pure _

theorem stopWorkers_agree (ha : Admits I E) (hc : c.Agree I E c') :
    Agree I E (stopWorkers ⟨settings, topology, w, c⟩)
      (stopWorkers ⟨settings, topology, w, c'⟩) :=
  (Act.keeps_log (ha.log _ _)).bind fun _ =>
    (Dispatch.run_agree ha hc .worker _ .stop).bind fun _ =>
    (hc.sleep _).bind fun _ =>
    (Dispatch.run_agree ha hc .worker _ .kill).bind fun _ =>
    (purge_agree ha hc _).bind fun _ => Act.keeps_pure _

theorem requestStop_agree (ha : Admits I E) (hc : c.Agree I E c') :
    Agree I E (requestStop ⟨settings, topology, w, c⟩)
      (requestStop ⟨settings, topology, w, c'⟩) := by
  refine (succeeds_agree .administrative (hc.admin _) fun _ =>
    Act.keeps_log (ha.log _ _)).bind fun ok => ?_
  cases ok with
  | true => exact (Act.keeps_log (ha.log _ _)).bind fun _ => Act.keeps_pure _
  | false => exact Act.keeps_pure false

theorem stopAll_agree (ha : Admits I E) (hc : c.Agree I E c') :
    Agree I E (stopAll ⟨settings, topology, w, c⟩) (stopAll ⟨settings, topology, w, c'⟩) :=
  (requestStop_agree ha hc).bind fun _ =>
    (hc.sleep _).bind fun _ =>
    (Agree.each (fun command => sweep_agree ha hc _ command) _).bind fun _ =>
    (stopWorkers_agree ha hc).bind fun _ =>
    (purge_agree ha hc _).bind fun _ => Act.keeps_pure _

theorem killAll_agree (ha : Admits I E) (hc : c.Agree I E c') :
    Agree I E (killAll ⟨settings, topology, w, c⟩) (killAll ⟨settings, topology, w, c'⟩) :=
  (sweep_agree ha hc _ .kill).bind fun _ => (purge_agree ha hc _).bind fun _ => Act.keeps_pure _

theorem restart_agree (ha : Admits I E) (hc : c.Agree I E c') :
    Agree I E (restart ⟨settings, topology, w, c⟩) (restart ⟨settings, topology, w, c'⟩) :=
  (stopAll_agree ha hc).bind fun _ => (startAll_agree ha hc).bind fun _ => Act.keeps_pure _

/-! ## Operations on this machine -/

section

variable (ha : Admits I E) (hc : c.Agree I E c')
  (hown : ∀ s world identity, I s → I { s with world := world, ownIdentity := some identity })

include ha hown in
theorem firstLocalOf_agree (hosts : List String) :
    Agree I E (firstLocalOf ⟨settings, topology, w, c⟩ hosts)
      (firstLocalOf ⟨settings, topology, w, c'⟩ hosts) := by
  induction hosts with
  | nil => exact Act.keeps_pure none
  | cons host hosts ih =>
    refine (Session.askingOwn_keeps ha hown w (some host)).bind fun isLocal => ?_
    cases isLocal with
    | true => exact Act.keeps_pure (some host)
    | false => exact ih

include ha hc hown

theorem commandHere_agree (command : Command) (role : Role) :
    Agree I E (commandHere ⟨settings, topology, w, c⟩ command role)
      (commandHere ⟨settings, topology, w, c'⟩ command role) := by
  refine (firstLocalOf_agree ha hown (topology.hosts role)).bind fun host? => ?_
  cases host? with
  | some host => exact Dispatch.run_agree ha hc role [host] command
  | none => exact Act.keeps_pure []

theorem startHere_agree :
    Agree I E (startHere ⟨settings, topology, w, c⟩) (startHere ⟨settings, topology, w, c'⟩) :=
  (Agree.each (commandHere_agree ha hc hown .start) localStartOrder).bind fun _ =>
    Act.keeps_pure _

theorem requestStopHere_agree :
    Agree I E (requestStopHere ⟨settings, topology, w, c⟩)
      (requestStopHere ⟨settings, topology, w, c'⟩) := by
  refine (firstLocalOf_agree ha hown (topology.hosts .worker)).bind fun host? => ?_
  cases host? with
  | none => exact Act.keeps_pure none
  | some host =>
    exact (succeeds_agree .administrative (hc.admin _) fun _ => Act.keeps_log (ha.log _ _)).map _

theorem stopHere_agree :
    Agree I E (stopHere ⟨settings, topology, w, c⟩) (stopHere ⟨settings, topology, w, c'⟩) :=
  (requestStopHere_agree ha hc hown).bind fun _ =>
    (Agree.each (fun command =>
      (Agree.each (commandHere_agree ha hc hown command) localStopOrder).map _) escalation).bind
    fun _ => Act.keeps_pure _

/-- Crews whose collaborators agree carry out every operation alike. -/
theorem carryOut_agree (op : Operation) :
    Agree I E (carryOut ⟨settings, topology, w, c⟩ op)
      (carryOut ⟨settings, topology, w, c'⟩ op) := by
  cases op with
  | startAll => exact startAll_agree ha hc
  | startWorkers => exact startWorkers_agree ha hc
  | stopAll => exact stopAll_agree ha hc
  | stopWorkers => exact stopWorkers_agree ha hc
  | killAll => exact killAll_agree ha hc
  | restart => exact restart_agree ha hc
  | startHere => exact startHere_agree ha hc hown
  | stopHere => exact stopHere_agree ha hc hown

end

end Sequence

end ServerFleet
