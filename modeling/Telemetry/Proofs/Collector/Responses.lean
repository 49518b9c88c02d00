import Telemetry.Proofs.Collector.Steps

/-!
# Who is answered what

A connection gets the responses of its requests, in the order in which these have taken effect. It lacks one of
them at most, the one that is held back until the snapshot is written, and that one it never gets if it breaks off
before.
-/

namespace Telemetry

namespace Collector

variable {collector next : Collector} {effects : List CollectorEffect} {given : List (Nat × Request)}
  {ready sent : List (Nat × Response)} {response : Response} {connection : Nat}

/-- What there is for one connection. -/
def ofConnection {Datum : Type} (connection : Nat) (data : List (Nat × Datum)) : List Datum :=
  data.filterMap fun (each, datum) => if each = connection then some datum else none

@[simp]
theorem ofConnection_append {Datum : Type} (connection : Nat) (earlier later : List (Nat × Datum)) :
    ofConnection connection (earlier ++ later) =
      ofConnection connection earlier ++ ofConnection connection later :=
  List.filterMap_append

theorem ofConnection_self {Datum : Type} (connection : Nat) (datum : Datum) :
    ofConnection connection [(connection, datum)] = [datum] := by
  simp [ofConnection]

theorem ofConnection_of_ne {Datum : Type} {connection other : Nat} (different : connection ≠ other)
    (datum : Datum) :
    ofConnection connection [(other, datum)] = [] := by
  simp [ofConnection, different.symm]

/-- The responses that are ready and those that are sent belong together: an open connection lacks the response
that is held back, and a connection that there has not been has none. -/
structure Answers (ready sent : List (Nat × Response)) (collector : Collector) : Prop where
  held : ∀ connection ∈ collector.connections,
    ofConnection connection ready = ofConnection connection sent ++ (collector.answers.lookup connection).toList
  isPrefix : ∀ connection, ofConnection connection sent <+: ofConnection connection ready
  later : ∀ connection, collector.accepted < connection → ofConnection connection ready = []

/-- Nothing is answered and nobody is added. -/
theorem Answers.keep (answers : Answers ready sent collector)
    (others : ∀ connection ∈ next.connections, connection ∈ collector.connections ∧
      next.answers.lookup connection = collector.answers.lookup connection)
    (sameCount : next.accepted = collector.accepted) : Answers ready sent next where
  held connection isOpen := by
    obtain ⟨wasOpen, same⟩ := others connection isOpen
    rw [same]
    exact answers.held connection wasOpen
  isPrefix := answers.isPrefix
  later := by
    rw [sameCount]
    exact answers.later

theorem Answers.opened (answers : Answers ready sent collector) (orderly : Orderly collector) :
    Answers ready sent collector.opened where
  held connection isOpen := by
    rcases List.mem_append.1 isOpen with before | isNew
    · exact answers.held connection before
    · obtain rfl := List.mem_singleton.1 isNew
      have none : ofConnection (collector.accepted + 1) ready = [] := answers.later _ (Nat.lt_succ_self _)
      have noneSent : ofConnection (collector.accepted + 1) sent = [] :=
        List.prefix_nil.1 (none ▸ answers.isPrefix (collector.accepted + 1))
      have unheld : collector.answers.lookup (collector.accepted + 1) = Option.none := by
        rw [← Option.not_isSome_iff_eq_none]
        intro held
        obtain ⟨_, most⟩ := orderly.numbered _ (orderly.waits _ held)
        exact Nat.not_succ_le_self _ most
      rw [none, noneSent, Collector.opened, unheld]
      rfl
  isPrefix := answers.isPrefix
  later connection isLater := answers.later connection (Nat.lt_of_succ_lt isLater)

/-- A response is ready, and it is sent at once or held back. -/
theorem Answers.handles (answers : Answers ready sent collector) (orderly : Orderly collector)
    (idle : collector.isIdle connection = true) (response : Response) {now : List (Nat × Response)}
    (sameConnections : next.connections = collector.connections) (sameCount : next.accepted = collector.accepted)
    (others : ∀ other, other ≠ connection →
      ofConnection other now = [] ∧ next.answers.lookup other = collector.answers.lookup other)
    (itself : ofConnection connection now ++ (next.answers.lookup connection).toList = [response]) :
    Answers (ready ++ [(connection, response)]) (sent ++ now) next := by
  obtain ⟨isOpen, unheld, _⟩ := orderly.of_isIdle idle
  have all : ofConnection connection ready = ofConnection connection sent := by
    have held := answers.held connection isOpen
    rw [unheld] at held
    exact held.trans (List.append_nil _)
  exact {
    held := by
      intro other otherOpen
      rw [ofConnection_append, ofConnection_append]
      by_cases same : other = connection
      · rw [same, all, ofConnection_self, List.append_assoc, itself]
      · rw [ofConnection_of_ne same, (others other same).1, (others other same).2, List.append_nil,
          List.append_nil]
        exact answers.held other (sameConnections ▸ otherOpen)
    isPrefix := by
      intro other
      rw [ofConnection_append, ofConnection_append]
      by_cases same : other = connection
      · rw [same, all, ofConnection_self, ← itself]
        exact (List.prefix_append_right_inj _).2 (List.prefix_append _ _)
      · rw [ofConnection_of_ne same, (others other same).1, List.append_nil, List.append_nil]
        exact answers.isPrefix other
    later := by
      intro other isLater
      rw [sameCount] at isLater
      have different : other ≠ connection := by
        rintro rfl
        exact Nat.not_lt_of_le (orderly.numbered _ isOpen).2 isLater
      rw [ofConnection_append, ofConnection_of_ne different, List.append_nil]
      exact answers.later other isLater }

/-- The response that has been held back is sent. -/
theorem Answers.returns (answers : Answers ready sent collector) (orderly : Orderly collector)
    (sameConnections : next.connections = collector.connections) (sameCount : next.accepted = collector.accepted)
    (others : ∀ other, other ≠ connection → next.answers.lookup other = collector.answers.lookup other)
    (itself : next.answers.lookup connection = none) :
    Answers ready (sent ++ ((collector.answers.lookup connection).map (connection, ·)).toList) next := by
  have sends (other : Nat) :
      ofConnection other ((collector.answers.lookup connection).map (connection, ·)).toList =
        if other = connection then (collector.answers.lookup connection).toList else [] := by
    cases collector.answers.lookup connection with
    | none => simp [ofConnection]
    | some response =>
      by_cases same : other = connection
      · rw [if_pos same, same]
        exact ofConnection_self connection response
      · rw [if_neg same]
        exact ofConnection_of_ne same response
  exact {
    held := by
      intro other isOpen
      rw [ofConnection_append, sends]
      rw [sameConnections] at isOpen
      by_cases same : other = connection
      · rw [if_pos same, same, itself, Option.toList_none, List.append_nil]
        exact answers.held connection (same ▸ isOpen)
      · rw [if_neg same, List.append_nil, others other same]
        exact answers.held other isOpen
    isPrefix := by
      intro other
      rw [ofConnection_append, sends]
      by_cases same : other = connection
      · rw [if_pos same, same]
        cases held : collector.answers.lookup connection with
        | none =>
          rw [Option.toList_none, List.append_nil]
          exact answers.isPrefix connection
        | some response =>
          have isOpen := orderly.waits connection (held ▸ rfl)
          have all := answers.held connection isOpen
          rw [held] at all
          exact ⟨[], (List.append_nil _).trans all.symm⟩
      · rw [if_neg same, List.append_nil]
        exact answers.isPrefix other
    later := by
      rw [sameCount]
      exact answers.later }

theorem handled_respond (connection : Nat) (response : Option Response) :
    handled (response.map (.respond connection)).toList = [] := by
  cases response <;> rfl

/-- No request takes effect when a snapshot has been written or has failed to be. -/
theorem handled_afterSnapshot (collector : Collector) (saver : Nat) (failure : Option IoError) :
    handled (collector.afterSnapshot saver failure).2 = [] := by
  unfold afterSnapshot
  split
  · split <;> exact handled_logging _
  · rw [handled_append, handled_logging, handled_respond]
    rfl

theorem answered_respond (connection : Nat) (response : Option Response) :
    answered (response.map (.respond connection)).toList = (response.map (connection, ·)).toList := by
  cases response <;> rfl

theorem Answers.change (answers : Answers ready sent collector) (orderly : Orderly collector)
    (change : collector.Change given next effects) :
    Answers (ready ++ handled effects) (sent ++ answered effects) next := by
  have silent (others : ∀ connection ∈ next.connections, connection ∈ collector.connections ∧
      next.answers.lookup connection = collector.answers.lookup connection)
      (sameCount : next.accepted = collector.accepted) (noneReady : handled effects = [])
      (noneSent : answered effects = []) : Answers (ready ++ handled effects) (sent ++ answered effects) next := by
    rw [noneReady, noneSent, List.append_nil, List.append_nil]
    exact answers.keep others sameCount
  cases change with
  | opens serving =>
    rw [handled, answered, List.filterMap_nil, List.filterMap_nil, List.append_nil, List.append_nil]
    exact answers.opened orderly
  | advances stage lines before after =>
    exact silent (fun _ isOpen => ⟨isOpen, rfl⟩) rfl (handled_logging _) (answered_logging _)
  | handles connection request idle =>
    obtain ⟨response, storage, lines, _, same | same⟩ := collector.handle_cases connection request
    · obtain ⟨_, unheld, _⟩ := orderly.of_isIdle idle
      rw [same, handled_append, handled_append, handled_logging, answered_append, answered_append,
        answered_logging]
      refine answers.handles orderly idle response rfl rfl (fun other different => ?_) ?_
      · exact ⟨ofConnection_of_ne different response, rfl⟩
      · dsimp only
        rw [unheld]
        exact (List.append_nil _).trans (ofConnection_self connection response)
    · rw [same, handled_append, handled_logging, answered_append, answered_logging]
      refine answers.handles orderly idle response rfl rfl (fun other different => ?_) ?_
      · rw [beginSaving, lookup_cons_ite, if_neg different]
        exact ⟨rfl, rfl⟩
      · rw [beginSaving, List.lookup_cons_self]
        rfl
  | savesOn saver saves found unfinished goesOn => exact silent (fun _ isOpen => ⟨isOpen, rfl⟩) rfl rfl rfl
  | @returns saver saving failure saves found =>
    by_cases own : saver = ownNumber
    · subst own
      unfold afterSnapshot at silent ⊢
      rw [if_pos rfl] at silent ⊢
      split at silent <;>
        exact silent (fun _ isOpen => ⟨isOpen, rfl⟩) rfl (handled_logging _) (answered_logging _)
    · rw [afterSnapshot_of_ne own, handled_append, handled_logging, handled_respond, answered_append,
        answered_logging, answered_respond, List.append_nil, List.append_nil, List.nil_append]
      refine answers.returns orderly rfl rfl (fun other different => ?_) ?_
      · rw [lookup_filter_ne, if_neg different]
        rfl
      · rw [lookup_filter_ne, if_pos rfl]
  | breaksOff connection lines isOpen =>
    refine silent (fun other stillOpen => ?_) rfl (handled_logging _) (answered_logging _)
    obtain ⟨wasOpen, different⟩ := List.mem_filter.1 stillOpen
    rw [breakOff, lookup_filter_ne, if_neg (bne_iff_ne.1 different)]
    exact ⟨wasOpen, rfl⟩
  | strays disk strays present takes => exact silent (fun _ isOpen => ⟨isOpen, rfl⟩) rfl rfl rfl
  | flushes due => exact silent (fun _ isOpen => ⟨isOpen, rfl⟩) rfl rfl rfl
  | closes failure stopped free =>
    unfold closeStorage at silent ⊢
    dsimp only at silent ⊢
    split at silent <;> exact silent (fun _ isOpen => ⟨isOpen, rfl⟩) rfl (handled_leave _) (answered_leave _)

end Collector

end Telemetry
