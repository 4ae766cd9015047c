import PowerGrant.Daemon.Transport
import PowerGrant.Proofs.Cpu.Canonical

/-!
# From an agent's listing to the CPUs of a grant

A node's agent lists the CPUs of a container as numbers in any order. The daemon's services print
the set of those that are CPUs, and a reconcile reads what was printed. Nothing is lost on the way:
a container is granted the CPUs of the listing, or there are none, or a run of them is too wide.

* `CpuList.Obtains`: what can be obtained of a set of CPUs.
* `NodeAgent.First`: the container of a listing that a name stands for. `NodeAgent.Lacks`: there is
  none.
* `containerCpus_listing`: what a reconcile obtains of a listing for a container.
-/

namespace PowerGrant

variable {σ : Type}

/-- What a reconcile makes of an agent's reply for a container. -/
def cpusOfReply (socket : String) (key : PodKey) (container : String) (reply : NodeAgent.Reply) :
    Except ReconcileError (List CpuId) :=
  match NodeAgent.cpuList socket key container reply with
  | .ok list => cpusOfAnswer container list
  | .error e => .error (.transient (.call .cpuLookup (.failed e)))

namespace CpuList

/-- What a container obtains of the CPUs of `S`: all of them, unless there are none or the first of
the runs that are too wide stands in the way. -/
structure Obtains (S : CpuId → Prop) (container : String)
    (result : Except ReconcileError (List CpuId)) : Prop where
  none : (∀ cpu, ¬ S cpu) → result = .error (.transient (.noCpusYet container))
  all : (∃ cpu, S cpu) → (∀ first last, IsRun S first last → ¬ TooWide (first, last)) →
    ∃ cpus, result = .ok cpus ∧ Rises cpus ∧ ∀ cpu, cpu ∈ cpus ↔ S cpu
  tooWide : (∃ first last, IsRun S first last ∧ TooWide (first, last)) →
    ∃ first last, IsRun S first last ∧ TooWide (first, last) ∧
      (∀ first' last', IsRun S first' last' → TooWide (first', last') →
        first.toNat ≤ first'.toNat) ∧
      result = .error (.invalid (.invalidCpuList container (.rangeTooWide first last)))
  /-- No other fault of a list comes up. -/
  invalid : ∀ e, result = .error (.invalid e) →
    ∃ first last, e = .invalidCpuList container (.rangeTooWide first last)

/-- What is obtained of printed CPUs. -/
theorem obtains_formatCpuList (container : String) (cpus : List CpuId) :
    Obtains (· ∈ cpus) container (cpusOfAnswer container (formatCpuList cpus)) := by
  simp only [cpusOfAnswer, trim_formatCpuList]
  by_cases hnil : cpus = []
  · subst hnil
    exact ⟨fun _ => rfl, fun ⟨_, h⟩ => (nomatch h),
      fun ⟨first, _, h, _⟩ => (nomatch h.member first (Nat.le_refl _) h.le), fun _ h => nomatch h⟩
  · rw [if_neg hnil, parseCpuList_formatCpuList, if_neg hnil]
    obtain ⟨cpu, hcpu⟩ := List.exists_mem_of_ne_nil cpus hnil
    cases hf : (runs (ascending cpus)).find? (TooWide ·) with
    | none =>
      have hnone := find?_runs_eq_none_iff.1 hf
      exact ⟨fun h => absurd hcpu (h cpu),
        fun _ _ => ⟨_, rfl, ascending_rises cpus, fun _ => mem_ascending⟩,
        fun ⟨_, _, hrun, hwide⟩ => absurd hwide (hnone _ _ hrun), fun _ h => nomatch h⟩
    | some r =>
      have hfirst := firstWide_of_find? hf
      refine ⟨fun h => absurd hcpu (h cpu), fun _ h => absurd hfirst.wide (h _ _ hfirst.run),
        fun _ => ⟨r.1, r.2, hfirst.run, hfirst.wide, hfirst.least, rfl⟩, ?_⟩
      rintro e ⟨⟩
      exact ⟨r.1, r.2, rfl⟩

end CpuList

namespace NodeAgent

/-- The CPUs that a listing has for a container: those whose numbers stand in it. -/
def Lists (c : ListedContainer) (cpu : CpuId) : Prop := (cpu.toNat : Int) ∈ c.cpuIds

theorem cpu?_eq_some {id : Int} {cpu : CpuId} : cpu? id = some cpu ↔ (cpu.toNat : Int) = id := by
  have hlt := cpu.toNat_lt
  unfold cpu?
  split
  · rename_i h
    rw [Option.some.injEq, ← UInt32.toNat_inj, UInt32.toNat_ofNat_of_lt' h.2]
    omega
  · rename_i h
    refine ⟨fun h => (nomatch h), fun heq => absurd ⟨by omega, ?_⟩ h⟩
    simpa [← heq] using hlt

theorem mem_cpus {c : ListedContainer} {cpu : CpuId} :
    cpu ∈ c.cpuIds.filterMap cpu? ↔ Lists c cpu := by
  simp [List.mem_filterMap, cpu?_eq_some, Lists]

/-! ### Which container a name stands for -/

/-- No pod of the key in the listing has a container of this name. -/
def Lacks (pods : List ListedPod) (key : PodKey) (container : String) : Prop :=
  ∀ p ∈ pods, p.ns = key.ns → p.name = key.name → ∀ c ∈ p.containers, c.name ≠ container

/-- The first container of this name in the pods of the key. A listing may have several such pods,
and a pod several such containers. -/
def First (pods : List ListedPod) (key : PodKey) (container : String) (c : ListedContainer) : Prop :=
  ∃ before p after earlier later, pods = before ++ p :: after ∧ p.ns = key.ns ∧ p.name = key.name ∧
    p.containers = earlier ++ c :: later ∧ c.name = container ∧
    Lacks before key container ∧ ∀ c' ∈ earlier, c'.name ≠ container

variable {p : ListedPod} {pods : List ListedPod} {key : PodKey} {container : String}
  {c : ListedContainer}

theorem First.cons (h : First pods key container c)
    (hp : p.ns = key.ns → p.name = key.name → ∀ c ∈ p.containers, c.name ≠ container) :
    First (p :: pods) key container c := by
  obtain ⟨before, q, after, earlier, later, rfl, hns, hn, hsplit, hc, hlacks, hother⟩ := h
  exact ⟨p :: before, q, after, earlier, later, rfl, hns, hn, hsplit, hc,
    List.forall_mem_cons.2 ⟨hp, hlacks⟩, hother⟩

theorem find?_cons : find? (p :: pods) key container =
    if p.ns = key.ns ∧ p.name = key.name then
      (p.containers.find? fun c => c.name = container).or (find? pods key container)
    else find? pods key container := by
  by_cases hkey : p.ns = key.ns ∧ p.name = key.name
  · simp [find?, hkey, List.find?_append]
  · have hfilter : (decide (p.ns = key.ns) && decide (p.name = key.name)) = false := by
      simpa using hkey
    simp [find?, hkey, hfilter]

theorem lacks_of_find? (h : find? pods key container = none) : Lacks pods key container := by
  simpa [find?, Lacks] using h

/-- The container that is found is the first one, pod by pod. -/
theorem first_of_find? (h : find? pods key container = some c) : First pods key container c := by
  induction pods with
  | nil => cases h
  | cons p pods ih =>
    rw [find?_cons] at h
    split at h
    · rename_i hkey
      cases hf : p.containers.find? (fun c => c.name = container) with
      | none =>
        rw [hf, Option.none_or] at h
        exact (ih h).cons fun _ _ => by simpa using hf
      | some found =>
        rw [hf, Option.some_or] at h
        obtain rfl := Option.some.inj h
        obtain ⟨hname, earlier, later, hsplit, hother⟩ := List.find?_eq_some_iff_append.1 hf
        exact ⟨[], p, pods, earlier, later, rfl, hkey.1, hkey.2, hsplit, of_decide_eq_true hname,
          List.forall_mem_nil _, by simpa using hother⟩
    · rename_i hkey
      exact (ih h).cons fun hns hn => absurd ⟨hns, hn⟩ hkey

end NodeAgent

/-- Turning the value of a script into another one takes no time. -/
theorem Script.within_bind_done {α β : Type} (f : α → β) (limit : Nat) (x : Script σ α) :
    (x.bind fun a => .done (f a)).within limit =
      (x.within limit).bind fun a => .done (a.map f) := by
  induction x generalizing limit with
  | done a => rfl
  | act update next ih => simp [bind, within, ih]
  | wait ms next ih =>
    simp only [bind, within]
    split
    · simp only [bind, ih]
    · rfl

/-- A reconcile asks the agent under its timeout and makes of the reply what `cpusOfReply` does. -/
theorem containerCpus_run (t : Transport σ) (o : DaemonOptions) (limit : Nat) (key : PodKey)
    (container : String) :
    (containerCpus (t.services o) limit key container).run =
      ((t.listPods o.kubeletSocketPath).within limit).bind fun
        | some reply => .done (cpusOfReply o.kubeletSocketPath key container reply)
        | none => .done (.error (.transient (.call .cpuLookup (.timedOut limit)))) := by
  have hcall : bounded limit ((t.services o).cpus key container) =
      ((t.listPods o.kubeletSocketPath).within limit).bind fun
        | some reply => .done ((NodeAgent.cpuList o.kubeletSocketPath key container reply).mapError
            CallFault.failed)
        | none => .done (.error (.timedOut limit)) := by
    simp only [bounded, Transport.services, Script.within_bind_done, Script.bind_assoc]
    refine congrArg _ (funext fun reply => ?_)
    cases reply with
    | none => rfl
    | some reply =>
      simp only [Script.bind, Option.map_some]
      cases NodeAgent.cpuList o.kubeletSocketPath key container reply <;> rfl
  show ((bounded limit ((t.services o).cpus key container)).bind _).bind _ = _
  rw [hcall, Script.bind_assoc, Script.bind_assoc]
  refine congrArg _ (funext fun reply => ?_)
  cases reply with
  | none => rfl
  | some reply =>
    simp only [Script.bind, cpusOfReply]
    cases NodeAgent.cpuList o.kubeletSocketPath key container reply <;> rfl

/-- Of a listing a reconcile obtains for a container what can be obtained of the CPUs of the first
container of that name in the pods of the key. If there is none it ends with an error that passes. -/
theorem containerCpus_listing (t : Transport σ) (o : DaemonOptions) (limit : Nat) (key : PodKey)
    (container : String) :
    ∃ result : NodeAgent.Reply → Except ReconcileError (List CpuId),
      (containerCpus (t.services o) limit key container).run =
        ((t.listPods o.kubeletSocketPath).within limit).bind (fun
          | some reply => .done (result reply)
          | none => .done (.error (.transient (.call .cpuLookup (.timedOut limit))))) ∧
      ∀ pods,
        (NodeAgent.Lacks pods key container ∧
            result (.listing pods) = .error (.transient (.call .cpuLookup (.failed (.unavailable
              s!"Kubelet reports no container {container} in pod {key.text}"))))) ∨
          ∃ c, NodeAgent.First pods key container c ∧
            CpuList.Obtains (NodeAgent.Lists c) container (result (.listing pods)) := by
  refine ⟨_, containerCpus_run t o limit key container, fun pods => ?_⟩
  simp only [cpusOfReply, NodeAgent.cpuList]
  cases hf : NodeAgent.find? pods key container with
  | none => exact .inl ⟨NodeAgent.lacks_of_find? hf, rfl⟩
  | some c =>
    have hlists : NodeAgent.Lists c = (· ∈ c.cpuIds.filterMap NodeAgent.cpu?) :=
      funext fun _ => propext NodeAgent.mem_cpus.symm
    refine .inr ⟨c, NodeAgent.first_of_find? hf, ?_⟩
    dsimp only
    rw [hlists]
    exact CpuList.obtains_formatCpuList container _

end PowerGrant
