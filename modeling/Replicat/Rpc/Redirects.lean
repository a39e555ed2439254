import Replicat.Rpc.ProposeOnce

/-!
# Redirects to nobody

`forward_to_leader_resp` names a leader when its id and its node are both known, and
`mutate_state` unwraps what a redirect names. `redirects_followed_iff`: a redirect is followed
exactly when both are known, and a call of `execute` panics exactly when it is answered with one
where they are not.
-/

namespace Replicat

open RpcModels Atomics Atomics.Prog

variable {W M F : Type}

/-- The raft core knows the leader's id and its node. -/
def ForwardToLeader.Known (leader : ForwardToLeader) : Prop :=
  leader.leaderId.isSome ∧ leader.leaderNode.isSome

instance (leader : ForwardToLeader) : Decidable leader.Known := by
  unfold ForwardToLeader.Known
  infer_instance

section Reply

variable [Serde (List TransportableParam)]

/-- What `mutate_state` returns on the reply to this redirect. -/
def redirected (client : RpcClient) (sql : String) (params : List TransportableParam)
    (leader : ForwardToLeader) : Except (Stop Rpc.Error) Unit :=
  ((client.mutateState (fun _ _ => liftResult (forwardToLeaderResp leader)) sql params).run.exec ()).1

/-- It names the leader where both parts are known, and is an error, not a panic, elsewhere. -/
structure RedirectFollowed (leader : ForwardToLeader) (r : Except (Stop Rpc.Error) Unit) : Prop where
  noPanic : r ≠ .error .panic
  notOk : r ≠ .ok ()
  named : ∀ id node, leader = ⟨some id, some node⟩ → r = .error (.err (.updateLeader ⟨id, node.addr⟩))

theorem redirected_eq (client : RpcClient) (sql : String) (params : List TransportableParam)
    (leader : ForwardToLeader) :
    redirected client sql params leader =
      reported (.error (.forwardToLeader leader) : Except (ClientWriteError Unit Unit) Unit) := by
  unfold redirected
  rw [RpcClient.exec_mutateState]
  rcases leader with ⟨_ | id, _ | node⟩ <;> rfl

theorem redirectFollowed_iff (client : RpcClient) (sql : String) (params : List TransportableParam)
    (leader : ForwardToLeader) :
    RedirectFollowed leader (redirected client sql params leader) ↔ leader.Known := by
  rw [redirected_eq]
  rcases leader with ⟨_ | id, _ | node⟩
  · exact ⟨fun h => absurd rfl h.noPanic, fun h => nomatch h.1⟩
  · exact ⟨fun h => absurd rfl h.noPanic, fun h => nomatch h.1⟩
  · exact ⟨fun h => absurd rfl h.noPanic, fun h => nomatch h.2⟩
  · refine ⟨fun _ => ⟨rfl, rfl⟩, fun _ => ⟨nofun, nofun, ?_⟩⟩
    rintro id' node' ⟨⟩
    rfl

end Reply

/-! ## The calls of `execute` -/

section Panics

variable (sql : String) (params : List TransportableParam)

/-- The node answered with a redirect that lacks the leader's id or its node. -/
def Contact.Dangles (c : Contact W M F) : Prop :=
  c.passage = .answered ∧ ∃ leader, ¬ leader.Known ∧
    c.raft.clientWrite (.execute sql params) = .error (.forwardToLeader leader)

theorem outcome_panic {c : Contact W M F} :
    c.outcome sql params = .error .panic ↔ c.Dangles sql params := by
  unfold Contact.outcome Contact.Dangles
  rcases c.passage with status | status | _
  · simp
  · simp
  · rcases c.raft.clientWrite (.execute sql params) with (⟨_ | id, _ | node⟩ | error | error) | res
    all_goals simp [reported, ClientWriteError.leader?, ForwardToLeader.Known]

/-- Whatever states the call meets, it has panicked exactly when one of its requests was answered
with such a redirect. -/
def PanicsOnDangling (p : Prog (Net W M F) (Except (Stop Rpc.Error) Unit)) : Prop :=
  ∀ met, p.feed met = .ret (.error .panic) ↔ ∃ c ∈ sentBy p met, c.Dangles sql params

variable {sql params}

theorem panicsOnDangling_ret {r : Except (Stop Rpc.Error) Unit} (hr : r ≠ .error .panic) :
    PanicsOnDangling sql params (.ret r : Prog (Net W M F) _) := by
  intro met
  rw [feed_ret]
  exact ⟨fun h => absurd (Prog.ret.inj h) hr, fun ⟨_, hc, _⟩ => nomatch hc⟩

/-- A call that has not begun has sent nothing. -/
theorem panicsOnDangling_nil {u : Net W M F → Net W M F}
    {n : Net W M F → Prog (Net W M F) (Except (Stop Rpc.Error) Unit)} :
    (Prog.act u n).feed [] = .ret (.error .panic) ↔ ∃ c ∈ sentBy (.act u n) [], c.Dangles sql params :=
  ⟨nofun, fun ⟨_, hc, _⟩ => nomatch hc⟩

theorem PanicsOnDangling.quiet {u : Net W M F → Net W M F}
    {n : Net W M F → Prog (Net W M F) (Except (Stop Rpc.Error) Unit)}
    (hu : ∀ w, (u w).contacts = w.contacts) (h : ∀ w, PanicsOnDangling sql params (n w)) :
    PanicsOnDangling sql params (.act u n) := by
  rintro (_ | ⟨w, met⟩)
  · exact panicsOnDangling_nil
  · have hnone : newContacts w (u w) = [] := by simp [newContacts, hu]
    have hsent : sentBy (.act u n) (w :: met) = sentBy (n w) met := by simp [sentBy, hnone]
    rw [hsent]
    exact h w met

/-- A request: the call ends with its answer, or the answer named a leader. -/
theorem PanicsOnDangling.send {u : Net W M F → Net W M F} {c : Net W M F → Contact W M F}
    {n : Net W M F → Prog (Net W M F) (Except (Stop Rpc.Error) Unit)}
    (hu : ∀ w, (u w).contacts = w.contacts ++ [c w])
    (h : ∀ w, n w = .ret ((c w).outcome sql params) ∨
      ¬ (c w).Dangles sql params ∧ PanicsOnDangling sql params (n w)) :
    PanicsOnDangling sql params (.act u n) := by
  rintro (_ | ⟨w, met⟩)
  · exact panicsOnDangling_nil
  · have hone : newContacts w (u w) = [c w] := by simp [newContacts, hu]
    have hsent : sentBy (.act u n) (w :: met) = c w :: sentBy (n w) met := by simp [sentBy, hone]
    rw [hsent, feed_act, List.exists_mem_cons_iff]
    rcases h w with hret | ⟨hnot, hrest⟩
    · rw [hret, feed_ret, ← outcome_panic]
      refine ⟨fun h => .inl (Prog.ret.inj h), ?_⟩
      rintro (h | ⟨d, hd, -⟩)
      · exact congrArg Prog.ret h
      · cases hd
    · rw [hrest met]
      exact ⟨.inr, fun h => h.resolve_left hnot⟩

variable [UriParser] [Serde W] [Serde M] [Serde F] [Serde (List TransportableParam)] {remote : Remote W M F}
  {again : Fallible (Net W M F) (Stop Rpc.Error) Unit}

theorem PanicsOnDangling.turn (h : PanicsOnDangling sql params again.run) :
    PanicsOnDangling sql params (ReplicatClient.executeTurn remote sql params again).run := by
  refine executeTurn_rule .quiet (panicsOnDangling_ret nofun) fun client => ?_
  refine .send (fun w => rfl) fun w => ?_
  rcases afterRequest_cases (requestTo remote sql params client w) with ⟨node, -, hnode⟩ | hends
  · refine .inr ⟨fun hdangles => ?_, ?_⟩
    · rw [← outcome_panic, hnode] at hdangles
      cases hdangles
    · rw [hnode]
      exact .quiet (fun _ => rfl) fun _ => h
  · refine .inl ?_
    split
    · rename_i node hnode
      exact absurd hnode (hends node)
    · rfl

variable (sql params remote) in
theorem executeLoop_panics (retries : Nat) :
    PanicsOnDangling sql params (ReplicatClient.executeLoop remote sql params retries).run := by
  induction retries with
  | zero => exact .turn (panicsOnDangling_ret nofun)
  | succ retries ih => exact ih.turn

end Panics

/-- **When redirects are followed**: `mutate_state` follows one exactly when the leader's id and
node are both known, and a call of `execute` goes without a panic, whatever leader it starts with
and whatever states it meets, exactly when every redirect it is answered with is such a one. -/
theorem redirects_followed_iff [UriParser] [Serde W] [Serde M] [Serde F] [Serde (List TransportableParam)] :
    (∀ client sql params leader,
      RedirectFollowed leader (redirected client sql params leader) ↔ leader.Known) ∧
    ∀ (remote : Remote W M F) sql (params : ParamsValue) met,
      (ReplicatClient.execute remote sql params).run.feed met ≠ .ret (.error .panic) ↔
        ∀ c ∈ sentBy (ReplicatClient.execute remote sql params).run met, c.passage = .answered →
          ∀ leader, c.raft.clientWrite (.execute sql params.params) = .error (.forwardToLeader leader) →
            leader.Known := by
  refine ⟨redirectFollowed_iff, fun remote sql params met => ?_⟩
  refine (not_congr (executeLoop_panics sql params.params remote 2 met)).trans ?_
  simp only [Contact.Dangles, not_exists, not_and]
  constructor
  · intro h c hc hanswered leader hleader
    by_contra hknown
    exact h c hc hanswered leader hknown hleader
  · intro h c hc hanswered leader hknown hleader
    exact hknown (h c hc hanswered leader hleader)

/-- A raft core in an election: it knows of no leader. -/
def electingRaft : ReplicatRaft Unit Unit Unit where
  clientWrite _ := .error (.forwardToLeader ⟨none, none⟩)
  changeMembership _ _ _ := .error (.forwardToLeader ⟨none, none⟩)

/-- A node that knows of no leader answers, and the client panics. -/
theorem redirect_to_nobody_panics :
    redirected ⟨⟨"http://a:1"⟩⟩ createNotes [] ⟨none, none⟩ = .error .panic ∧
    ((ReplicatClient.execute (fun _ _ => (.answered, electingRaft)) createNotes .unit).run.exec
      (Net.fresh (1, "a:1"))).1 = .error .panic := by
  refine ⟨by rw [redirected_eq]; rfl, ?_⟩
  obtain ⟨client, w, hget⟩ : ∃ client w,
      (ReplicatClient.getLeaderClient (W := Unit) (M := Unit) (F := Unit)).run.exec (Net.fresh (1, "a:1")) =
        (.ok client, w) := by
    rw [ReplicatClient.exec_getLeaderClient]
    exact ⟨_, _, rfl⟩
  show ((ReplicatClient.executeLoop (fun _ _ => (.answered, electingRaft)) createNotes [] 2).run.exec _).1 = _
  unfold ReplicatClient.executeLoop
  rw [ReplicatClient.exec_executeTurn, hget]
  simp only [exec_mutateState_deliver]
  rfl

end Replicat
