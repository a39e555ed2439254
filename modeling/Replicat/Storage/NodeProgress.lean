import Replicat.Storage.LogLimits
import Replicat.Storage.NodeRefines

/-!
# The store does all that its specification does

`store_refines_spec` says what a store may do at most; nothing there says that a call ever
returns. On a sound storage it is also what the store does at least: wherever the calls, the
failures and the restarts before have led it, each call whose ids fit returns `Ok` and has done
everything it is for, each read returns what the node says, the store opens again, and a call
can be cut off after any of its acts. `sound_runs_exact` puts the two together.
-/

namespace Replicat

open Sqlite Atomics Atomics.Prog LogWrite

variable {U : Type}

/-- The outcome is the one that the node decides, and the storage fails nothing. Ids of snapshots
are no part of the node, and a range leaves the order of its entries open. -/
def StoreEvent.Sound (env : Env U) (effect : Request → U → U) (tables : U) : StoreEvent → Prop
  | call c (.ok ()) => c.Plain env effect tables ∧ c ≠ .buildSnapshot ∧ ∀ a ∈ c.writes, a.Fits
  | cutOff c => c.Plain env effect tables ∧ ∀ a ∈ c.writes, a.Fits
  | read (.tryGetLogEntries ..) _ => False
  | read _ (.ok _) | restart => True
  | call _ (.error _) | read _ (.error _) => False

theorem StoreEvent.Sound.plain {env : Env U} {effect : Request → U → U} {tables : U} {e : StoreEvent}
    (h : e.Sound env effect tables) : e.Plain env effect tables := by
  cases e with
  | call c r =>
    rcases r with e | ⟨⟩
    · exact h.elim
    · exact h.1
  | read c r =>
    cases c with
    | tryGetLogEntries => exact h.elim
    | readVote | getLogState | lastAppliedState => trivial
  | cutOff c => exact h.1
  | restart => trivial

/-- A log has one last id. -/
theorem AbstractLog.IsLast.unique {l : AbstractLog} {last last' : Option LogId} (h : l.IsLast last)
    (h' : l.IsLast last') : last = last' := by
  have held : ∀ {i e}, l.entries i = some e → l.Holds i := fun he => Option.isSome_iff_exists.2 ⟨_, he⟩
  rcases h with ⟨hempty, rfl⟩ | ⟨i, e, he, hmax, rfl⟩ <;>
    rcases h' with ⟨hempty', rfl⟩ | ⟨j, e', he', hmax', rfl⟩
  · rfl
  · exact absurd (held he') (hempty j)
  · exact absurd (held he) (hempty' i)
  · obtain rfl : i = j := Nat.le_antisymm (hmax' i (held he)) (hmax j (held he'))
    rw [he] at he'
    cases he'
    rfl

/-- What the node decides of a read it decides alone. -/
theorem ReadCall.Answers.unique {n : NodeData U} {call : ReadCall} {reply reply' : ReadReply}
    {env : Env U} {effect : Request → U → U} {tables : U}
    (hsound : (StoreEvent.read call (.ok reply)).Sound env effect tables) (h : call.Answers n reply)
    (h' : call.Answers n reply') : reply = reply' := by
  cases call with
  | readVote => exact h.trans h'.symm
  | getLogState =>
    obtain ⟨last, hlast, rfl⟩ := h
    obtain ⟨last', hlast', rfl⟩ := h'
    rw [hlast.unique hlast']
  | tryGetLogEntries => exact hsound.elim
  | lastAppliedState => exact h.trans h'.symm

section Progress

variable [Serde LogId] [Serde Vote] [Serde Entry] [Serde EffectiveMembership] [Serde SnapshotMeta]
  {env : Env U} {effect : Request → U → U} {stateStore : Option StateStore} {n : NodeData U} {w : World U}

/-- **A call that fits returns `Ok`.** -/
theorem Refines.call_returns (h : Refines stateStore n w) {call : StoreCall}
    (hplain : call.Plain env effect n.applied.tables) (hbuild : call ≠ .buildSnapshot)
    (hfits : ∀ a ∈ call.writes, a.Fits) :
    ∃ w', (call.run env (storeOf stateStore)).run.exec (w.withFaults []) = (.ok (), w') := by
  rcases call.plain_cases hplain with hcall | ⟨entries, rfl, hconfined⟩ | rfl
  · obtain ⟨w', hexec, -⟩ := h.hard.commitAll hfits
    rw [run_eq_commitAll hcall]
    exact ⟨w', hexec⟩
  · have hsteps := Confined.stepsRun (v := n.applied) hconfined
    obtain ⟨⟨r, hr, -⟩, -⟩ := (applyCall_follows stateStore hconfined).exec (h.data.moves hsteps)
    exact ⟨_, Prod.ext hr rfl⟩
  · exact absurd rfl hbuild

omit [Serde SnapshotMeta] in
/-- The acts of a call of the log half can be told apart, task by task. -/
theorem Refines.commitAll_take (h : Refines stateStore n w) (effect : Request → U → U) {as : List LogWrite}
    (hfits : ∀ a ∈ as, a.Fits) (m : Nat) :
    Refines stateStore (n.after effect ((as.map NodeAct.log).take m))
      ((commitAll (storeOf stateStore) as : StorageResult U Unit).run.after m (w.withFaults [])) := by
  have hsound := (Refines.withFaults []).2 h
  obtain ⟨hdata, hdisk⟩ := (commitAll_keepsData as n.applied).after m _ ⟨hsound.data, hsound.disk⟩
  have hhard := after_commitAll as hsound.hard m
  rw [World.faults_withFaults, through_nil_faults hfits] at hhard
  rw [← List.map_take, NodeData.after_log]
  exact ⟨hhard, hdata, hdisk⟩

/-- **A call can be cut off after any of its acts.** -/
theorem Refines.call_cut (h : Refines stateStore n w) {call : StoreCall}
    (hplain : call.Plain env effect n.applied.tables) (hfits : ∀ a ∈ call.writes, a.Fits) (m : Nat) :
    ∃ k, Refines stateStore (n.after effect (call.acts.take m))
      ((call.run env (storeOf stateStore)).run.after k (w.withFaults [])) := by
  have hsound := (Refines.withFaults []).2 h
  rcases call.plain_cases hplain with hcall | ⟨entries, rfl, hconfined⟩ | rfl
  · rw [run_eq_commitAll hcall, call.acts_eq_writes hcall]
    exact ⟨m, h.commitAll_take effect hfits m⟩
  · exact ⟨m, h.apply_after hconfined m⟩
  · have hacts : StoreCall.buildSnapshot.acts.take m = [] := List.take_nil
    refine ⟨0, ?_⟩
    rw [hacts]
    exact hsound

/-- **What the specification does, the code does.** -/
theorem node_progress (h : Refines stateStore n w) :
    Lts.Simulation (((nodeSpec env effect stateStore).guard (MetBy (StoreEvent.Sound env effect))).resume n)
      (((nodeSystem env stateStore).guard (MetIn stateStore (StoreEvent.Sound env effect))).resume w)
      fun n w => Refines stateStore n w where
  start := by
    rintro _ rfl
    exact ⟨w, rfl, h⟩
  step := by
    rintro n e n' w ⟨hsound, hstep⟩ h
    have hmet := h.met.2 hsound
    cases hstep with
    | done call =>
      obtain ⟨hplain, hbuild, hfits⟩ := hsound
      obtain ⟨w', hexec⟩ := h.call_returns hplain hbuild hfits
      exact ⟨w', ⟨hmet, .call call [] hexec⟩, h.call_ok hplain hexec⟩
    | failed => exact hsound.elim
    | @read call reply hanswers =>
      have hplain := StoreEvent.Sound.plain hsound
      obtain ⟨p, hp⟩ : ∃ p : StorageResult U ReadReply, call.run env (storeOf stateStore) = some p := by
        cases call with
        | tryGetLogEntries => exact hsound.elim
        | readVote | getLogState | lastAppliedState => exact ⟨_, rfl⟩
      obtain ⟨reply', hreply, hanswers'⟩ := h.answers hp hplain
      obtain rfl := hanswers.unique hsound hanswers'
      obtain ⟨hidle, -⟩ := (call.reading hp).exec (w := w) (Prod.ext hreply rfl)
      refine ⟨_, ⟨hmet, .read call [] hp (Prod.ext hreply rfl)⟩, ?_⟩
      rw [← Refines.withFaults [], hidle]
      exact (Refines.withFaults []).2 h
    | readFailed => cases ‹ReadCall› <;> exact hsound.elim
    | cutOff call m =>
      obtain ⟨hplain, hfits⟩ := hsound
      obtain ⟨k, hk⟩ := h.call_cut hplain hfits m
      have hfound : LogNode env stateStore _ _ _ := hk.found
      obtain ⟨w', hopen, -, -⟩ := hfound.reopen
      exact ⟨w', ⟨hmet, .cutOff call [] [] k hopen⟩, hk.restart hopen⟩
    | restart =>
      have hfound : LogNode env stateStore _ _ _ := h.found
      obtain ⟨w', hopen, -, -⟩ := hfound.reopen
      exact ⟨w', ⟨hmet, .restart [] hopen⟩, h.restart hopen⟩

/-- **On a sound storage the store does exactly what it is for**, from wherever the runs before have
led it: it holds a node, and the runs of the code from there whose events are sound on the tables they
meet are the runs of the specification from the node whose events are. -/
theorem sound_runs_exact {events : List StoreEvent}
    (hrun : ((nodeSystem env stateStore).guard (MetIn stateStore (StoreEvent.Plain env effect))).Trace
      events w) :
    ∃ n, (nodeSpec env effect stateStore).Trace events n ∧ Refines stateStore n w ∧
      ∀ more n',
        (((nodeSpec env effect stateStore).guard (MetBy (StoreEvent.Sound env effect))).resume n).Trace more n' ↔
          ∃ w', (((nodeSystem env stateStore).guard (MetIn stateStore (StoreEvent.Sound env effect))).resume
            w).Trace more w' ∧ Refines stateStore n' w' := by
  have hsim := node_simulation env effect stateStore
  obtain ⟨n, htrace, h⟩ := hsim.trace hrun
  refine ⟨n, htrace, h, fun more n' => ?_⟩
  have hforth : Lts.Simulation ((nodeSystem env stateStore).guard (MetIn stateStore (StoreEvent.Sound env effect)))
      ((nodeSpec env effect stateStore).guard (MetBy (StoreEvent.Sound env effect)))
      fun w n => Refines stateStore n w :=
    hsim.guard (fun _ _ hmet d hr => (hmet d hr).plain) fun _ _ _ hR => hR.met.1
  exact (hforth.resume h).trace_iff (node_progress h) Refines.unique

end Progress

/-- An entry that is appended and half applied: the store says that it is applied, and its statement
has never been executed. -/
theorem sound_runs_exact_half : ∃ w w' n,
    (RaftStore.openStore catalogEnv (some .file)).run.exec World.fresh = (.ok (storeOf (some .file)), w) ∧
    ((nodeSystem catalogEnv (some .file)).resume w).Trace
      [.call (.appendToLog [notesEntry 1]) (.ok ()), .cutOff (.applyToStateMachine [notesEntry 1]),
        .read .lastAppliedState (.ok (.applied (some (logIdAt 1)) default))] w' ∧
    Refines (some .file) n w' ∧ n.applied.tables = catalogEnv.emptyUser := by
  have hfits : ∀ a ∈ (StoreCall.appendToLog [notesEntry 1]).writes, a.Fits := by decide
  obtain ⟨w, hopen, -⟩ := openStore_fresh catalogEnv (some .file)
  have hfresh : (RaftStore.openStore catalogEnv (some .file)).run.exec (World.fresh.withFaults []) =
    (.ok (storeOf (some .file)), w) := hopen
  have hnothing : ((nodeSystem catalogEnv (some .file)).guard
      (MetIn (some .file) (StoreEvent.Plain catalogEnv catalogEffect))).Trace [] w := .start ⟨[], _, hfresh⟩
  obtain ⟨n, -, h, hexact⟩ := sound_runs_exact hnothing
  obtain rfl := h.unique (.fresh hfresh)
  have htrace : (((nodeSpec catalogEnv catalogEffect (some .file)).guard
      (MetBy (StoreEvent.Sound catalogEnv catalogEffect))).resume ⟨.empty, unapplied catalogEnv⟩).Trace
      ([] ++ [.call (.appendToLog [notesEntry 1]) (.ok ())] ++ [.cutOff (.applyToStateMachine [notesEntry 1])] ++
        [.read .lastAppliedState (.ok (.applied (some (logIdAt 1)) default))]) _ :=
    .step (.step (.step (.start rfl) ⟨⟨trivial, nofun, hfits⟩, .done _⟩)
      ⟨⟨confined_notes _, nofun⟩, .cutOff _ 2⟩) ⟨trivial, .read rfl⟩
  obtain ⟨w', hrun, h'⟩ := (hexact _ _).1 htrace
  exact ⟨w, w', _, hopen, Lts.Trace.of_guard hrun, h', rfl⟩

end Replicat
