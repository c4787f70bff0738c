import OcppTransaction.Refusals

/-!
# One invocation of the drainer

`processFifoRequest` reads the link and the registration status once, on entry, and
its `do … while` loop (source lines 390–484) then sends the FIFO head until the FIFO is
empty, the retry timer is armed, or the link reads down.

* `drain_sends_gated_on_entry`: every send of an invocation comes after the entry reads
  of the link up and the registration `Accepted`, and after a read of the link up since
  the previous send. The registration status is not read again, so the loop keeps
  sending whatever it has become (`second_send_not_regated`). An invocation that is
  gated on entry sends nothing and leaves the FIFO and the counter alone.
* `drain_loop_terminates`: `DrainLoopRuns` is the loop as the source writes it, with no
  bound on its passes. From a counter within `TransactionMessageAttempts`, every run of
  it stops, after at most `size * (N + 1) + 1` passes, with the result of the bounded
  loop `processFifoRequest` runs.
-/

namespace Ocpp

open TransactionManager

/-! ## Gating -/

/-- Every send among `calls` follows a read of the link up, made since the previous
send. -/
def SendsAfterLinkRead (calls : List Call) : Prop :=
  ∀ pre c post, calls = pre ++ c :: post → c.sent?.isSome →
    ∃ before since, pre = before ++ since ∧ (∀ c' ∈ since, c'.sent? = none) ∧
      Call.isConnected true ∈ since

namespace SendsAfterLinkRead

theorem of_forall {calls : List Call} (h : ∀ c ∈ calls, c.sent? = none) :
    SendsAfterLinkRead calls := fun pre c _ hcalls hsent => by
  rw [h c (hcalls ▸ List.mem_append_right pre (List.mem_cons_self _ _))] at hsent
  cases hsent

theorem append {l₁ l₂ : List Call} (h₁ : SendsAfterLinkRead l₁) (h₂ : SendsAfterLinkRead l₂) :
    SendsAfterLinkRead (l₁ ++ l₂) := by
  intro pre c post hcalls hsent
  rcases List.append_eq_append_iff.1 hcalls with ⟨a, rfl, h⟩ | ⟨d, rfl, h⟩
  · obtain ⟨before, since, rfl, hquiet, hread⟩ := h₂ a c post h hsent
    exact ⟨l₁ ++ before, since, by simp, hquiet, hread⟩
  · rcases d with _ | ⟨x, d⟩
    · obtain ⟨before, since, hnil, -, hread⟩ := h₂ [] c post h.symm hsent
      rw [(List.append_eq_nil.1 hnil.symm).2] at hread
      cases hread
    · obtain ⟨rfl, rfl⟩ := List.cons.inj h
      exact h₁ pre c d rfl hsent

/-- One send, after calls that read the link up and send nothing. -/
theorem send {since : List Call} (hquiet : ∀ c ∈ since, c.sent? = none)
    (hread : Call.isConnected true ∈ since) (c : Call) : SendsAfterLinkRead (since ++ [c]) := by
  intro pre c' post hcalls hsent
  rcases List.append_eq_append_iff.1 hcalls with ⟨a, rfl, h⟩ | ⟨d, rfl, h⟩
  · rcases a with _ | ⟨x, a⟩
    · exact ⟨[], since, by simp, hquiet, hread⟩
    · simp at h
  · rcases d with _ | ⟨x, d⟩
    · rw [List.append_nil] at hquiet hread
      exact ⟨[], pre, rfl, hquiet, hread⟩
    · obtain ⟨rfl, -⟩ := List.cons.inj h
      rw [hquiet c' (by simp)] at hsent
      cases hsent

end SendsAfterLinkRead

section

variable (config : OcppConfig)

/-- A pass makes at most one send, right after it reads the FIFO head. -/
theorem drainRound_sendsAfterLinkRead (tm : TransactionManager) (round : DrainRound)
    (init : List Call) (hquiet : ∀ c ∈ init, c.sent? = none)
    (hread : Call.isConnected true ∈ init) :
    SendsAfterLinkRead (init ++ (tm.drainRound config round).2) := by
  cases hfifo : tm.requestsFifo with
  | nil =>
    rw [drainRound_nil config round hfifo, List.append_nil]
    exact .of_forall hquiet
  | cons entry rest =>
    obtain ⟨tail, htail, hmem⟩ := drainRound_calls config round hfifo
    have quietTail : ∀ c ∈ tail, c.sent? = none := fun c hc => by
      rcases hmem c hc with rfl | ⟨_, rfl⟩ | ⟨_, rfl⟩ <;> rfl
    have quietFront : ∀ c ∈ init ++ [.front entry], c.sent? = none := by
      simp only [List.mem_append, List.mem_singleton]
      rintro c (hc | rfl)
      · exact hquiet c hc
      · rfl
    rw [htail]
    rcases sendRequest_shape round tm.connectors entry with
      ⟨-, hfail⟩ | ⟨-, answers, hcalls, hanswers⟩
    · rw [hfail]
      refine .of_forall fun c hc => ?_
      simp only [List.mem_append, List.cons_append, List.nil_append, List.mem_cons] at hc
      rcases hc with hc | rfl | hc
      · exact hquiet c hc
      · rfl
      · exact quietTail c hc
    · have quietAnswers : ∀ c ∈ answers ++ tail, c.sent? = none := by
        simp only [List.mem_append]
        rintro c (hc | hc)
        · rcases hanswers c hc with ⟨_, rfl⟩ | ⟨_, _, rfl⟩ | ⟨_, rfl⟩ <;> rfl
        · exact quietTail c hc
      rw [hcalls]
      simpa using ((SendsAfterLinkRead.send quietFront (by simp [hread]) _).append
        (.of_forall quietAnswers))

/-- The loop's sends each follow a read of the link up since the previous send: the
loop condition's read, or for the first one a read in `init`. -/
theorem drainLoop_sendsAfterLinkRead : ∀ (fuel : Nat) (rounds : Nat → DrainRound)
    (tm : TransactionManager) (init : List Call), (∀ c ∈ init, c.sent? = none) →
    Call.isConnected true ∈ init →
    SendsAfterLinkRead (init ++ (drainLoop config fuel rounds tm).2)
  | 0, _, _, _, hquiet, _ => by simpa [drainLoop] using SendsAfterLinkRead.of_forall hquiet
  | fuel + 1, rounds, tm, init, hquiet, hread => by
    have pass := drainRound_sendsAfterLinkRead config tm (rounds 0) init hquiet hread
    simp only [drainLoop]
    split_ifs
    · simpa using pass.append (drainLoop_sendsAfterLinkRead fuel _ _ [.isConnected true]
        (by simp [Call.sent?]) (List.mem_singleton_self _))
    · simpa using pass.append (.of_forall (by simp [Call.sent?]))
    · exact pass

/-- No pass reads the registration status. -/
theorem drainRound_not_registration (tm : TransactionManager) (round : DrainRound) {c : Call}
    (hc : c ∈ (tm.drainRound config round).2) (status : RegistrationStatus) :
    c ≠ .getRegistrationStatus status := by
  cases hfifo : tm.requestsFifo with
  | nil => rw [drainRound_nil config round hfifo] at hc; cases hc
  | cons entry rest =>
    obtain ⟨tail, htail, hmem⟩ := drainRound_calls config round hfifo
    rw [htail] at hc
    simp only [List.cons_append, List.mem_cons, List.mem_append] at hc
    rcases hc with rfl | hc | hc
    · simp
    · rcases mem_sendRequest round hc with rfl | ⟨_, rfl⟩ | ⟨_, _, rfl⟩ | ⟨_, rfl⟩ <;> simp
    · rcases hmem c hc with rfl | ⟨_, rfl⟩ | ⟨_, rfl⟩ <;> simp

theorem drainLoop_not_registration : ∀ (fuel : Nat) (rounds : Nat → DrainRound)
    (tm : TransactionManager) {c : Call}, c ∈ (drainLoop config fuel rounds tm).2 →
    ∀ status, c ≠ .getRegistrationStatus status
  | 0, _, _, _, hc => by simp [drainLoop] at hc
  | fuel + 1, rounds, tm, c, hc => by
    simp only [drainLoop] at hc
    split_ifs at hc
    · rcases List.mem_append.1 hc with hc | hc
      · exact drainRound_not_registration config tm _ hc
      rcases List.mem_cons.1 hc with rfl | hc
      · simp
      · exact drainLoop_not_registration fuel _ _ hc
    · rcases List.mem_append.1 hc with hc | hc
      · exact drainRound_not_registration config tm _ hc
      · rw [List.mem_singleton.1 hc]; simp
    · exact drainRound_not_registration config tm _ hc

end

theorem drain_sends_gated_on_entry (tm : TransactionManager) (config : OcppConfig)
    (connected : Bool) (status : RegistrationStatus) (rounds : Nat → DrainRound) :
    (∀ pre c post, (tm.processFifoRequest config connected status rounds).2 = pre ++ c :: post →
      c.sent?.isSome →
      [Call.isConnected true, .getRegistrationStatus .accepted] <+: pre ∧
      ∃ before since, pre = before ++ since ∧ (∀ c' ∈ since, c'.sent? = none) ∧
        Call.isConnected true ∈ since) ∧
    (∀ c ∈ (tm.processFifoRequest config connected status rounds).2.drop 2, ∀ status',
      c ≠ .getRegistrationStatus status') ∧
    (connected = false ∨ status ≠ .accepted →
      (tm.processFifoRequest config connected status rounds).2.filterMap Call.sent? = [] ∧
      (tm.processFifoRequest config connected status rounds).1.requestsFifo = tm.requestsFifo ∧
      (tm.processFifoRequest config connected status rounds).1.requestRetryCount =
        tm.requestRetryCount) := by
  have noSend : ∀ {calls : List Call}, (∀ c ∈ calls, c.sent? = none) →
      ∀ pre c post, calls = pre ++ c :: post → c.sent?.isSome → False :=
    fun hquiet pre c _ hcalls hsent => by
      rw [hquiet c (hcalls ▸ List.mem_append_right pre (List.mem_cons_self _ _))] at hsent
      cases hsent
  unfold processFifoRequest
  split_ifs with hup haccepted
  · dsimp only
    refine ⟨fun pre c post htrace hsent => ⟨?_, ?_⟩, fun c hc => ?_, fun hgate => ?_⟩
    · rcases pre with _ | ⟨a, _ | ⟨b, pre⟩⟩
      · obtain ⟨rfl, -⟩ := List.cons.inj htrace; cases hsent
      · simp only [List.singleton_append, List.cons.injEq] at htrace
        obtain ⟨-, rfl, -⟩ := htrace
        cases hsent
      · simp only [List.cons_append, List.cons.injEq] at htrace
        obtain ⟨rfl, rfl, -⟩ := htrace
        exact ⟨pre, rfl⟩
    · exact drainLoop_sendsAfterLinkRead config _ rounds tm
        [.isConnected true, .getRegistrationStatus .accepted] (by simp [Call.sent?])
        (by simp) pre c post htrace hsent
    · exact drainLoop_not_registration config _ rounds tm hc
    · simp [hup, haccepted] at hgate
  all_goals
    exact ⟨fun pre c post htrace hsent => (noSend (by simp [Call.sent?]) _ _ _ htrace hsent).elim,
      by simp, fun _ => ⟨by simp [Call.sent?], rfl, rfl⟩⟩

/-- Two queued meter values on an idle charge point. -/
def twoQueued : TransactionManager :=
  { connectors := ⟨⟨.available, 0, 0, 0, ""⟩, []⟩,
    requestsFifo := [⟨meterValuesAction, .meterValues ⟨0, none, []⟩⟩,
      ⟨meterValuesAction, .meterValues ⟨1, none, []⟩⟩],
    requestRetryCount := 0, requestRetryTimer := false, queuedJobs := 0 }

/-- Both entries are delivered; between the two sends the drainer reads the link, never
the registration status. -/
theorem second_send_not_regated :
    (twoQueued.processFifoRequest defaultConfig true .accepted
        fun _ => answeredRound ⟨⟨.accepted, none, none⟩, 0⟩).2 =
      [.isConnected true, .getRegistrationStatus .accepted,
        .front ⟨meterValuesAction, .meterValues ⟨0, none, []⟩⟩,
        .call ⟨meterValuesAction, .meterValues ⟨0, none, []⟩⟩ .ok,
        .pop ⟨meterValuesAction, .meterValues ⟨0, none, []⟩⟩, .isConnected true,
        .front ⟨meterValuesAction, .meterValues ⟨1, none, []⟩⟩,
        .call ⟨meterValuesAction, .meterValues ⟨1, none, []⟩⟩ .ok,
        .pop ⟨meterValuesAction, .meterValues ⟨1, none, []⟩⟩] := by
  decide

/-! ## Termination -/

/-- The `do … while` loop of lines 390–484 with no bound on its passes:
`DrainLoopRuns config rounds tm n result` says that the loop started on `tm`, pass `i`
observing `rounds i`, leaves by its own condition after `n` passes with `result`. The
condition reads the link only when the FIFO is non-empty and the timer stopped. -/
inductive DrainLoopRuns (config : OcppConfig) :
    (Nat → DrainRound) → TransactionManager → Nat → TransactionManager × List Call → Prop
  | done {rounds : Nat → DrainRound} {tm : TransactionManager} :
    (tm.drainRound config (rounds 0)).1.requestsFifo = [] ∨
        (tm.drainRound config (rounds 0)).1.requestRetryTimer = true →
      DrainLoopRuns config rounds tm 1 (tm.drainRound config (rounds 0))
  | linkDown {rounds : Nat → DrainRound} {tm : TransactionManager} :
    (tm.drainRound config (rounds 0)).1.requestsFifo ≠ [] →
      (tm.drainRound config (rounds 0)).1.requestRetryTimer = false →
      (rounds 0).connectedAtEnd = false →
      DrainLoopRuns config rounds tm 1 ((tm.drainRound config (rounds 0)).1,
        (tm.drainRound config (rounds 0)).2 ++ [.isConnected false])
  | next {rounds : Nat → DrainRound} {tm : TransactionManager} {n : Nat}
      {result : TransactionManager × List Call} :
    (tm.drainRound config (rounds 0)).1.requestsFifo ≠ [] →
      (tm.drainRound config (rounds 0)).1.requestRetryTimer = false →
      (rounds 0).connectedAtEnd = true →
      DrainLoopRuns config (fun i => rounds (i + 1)) (tm.drainRound config (rounds 0)).1 n
        result →
      DrainLoopRuns config rounds tm (n + 1)
        (result.1, (tm.drainRound config (rounds 0)).2 ++ .isConnected true :: result.2)

/-- What is left of the loop: each queued entry can take
`TransactionMessageAttempts + 1` passes, less the failures counted on the head. -/
def drainMeasure (config : OcppConfig) (tm : TransactionManager) : Nat :=
  tm.requestsFifo.length * (config.transactionMessageAttempts + 1) - tm.requestRetryCount

section

variable (config : OcppConfig)

/-- A pass that leaves the FIFO non-empty either popped the head and reset the counter,
or counted a failure below the limit. -/
theorem drainRound_of_continues {tm : TransactionManager} {round : DrainRound}
    (hfifo : (tm.drainRound config round).1.requestsFifo ≠ []) :
    ((tm.drainRound config round).1.requestsFifo = tm.requestsFifo.tail ∧
        (tm.drainRound config round).1.requestRetryCount = 0) ∨
      ((tm.drainRound config round).1.requestsFifo = tm.requestsFifo ∧
        (tm.drainRound config round).1.requestRetryCount = tm.requestRetryCount + 1 ∧
        tm.requestRetryCount + 1 ≤ config.transactionMessageAttempts) := by
  cases hf : tm.requestsFifo with
  | nil => simp [drainRound_nil config round hf, hf] at hfifo
  | cons entry rest =>
    rw [drainRound_cons config round hf] at hfifo ⊢
    dsimp only at hfifo ⊢
    split_ifs at hfifo ⊢ with hpop
    · exact .inl ⟨by simp, by simp⟩
    all_goals exact .inr ⟨by simp [hf], by simp, by omega⟩

theorem drainMeasure_lt {tm : TransactionManager} {round : DrainRound}
    (hcount : tm.requestRetryCount ≤ config.transactionMessageAttempts)
    (hfifo : (tm.drainRound config round).1.requestsFifo ≠ []) :
    drainMeasure config (tm.drainRound config round).1 < drainMeasure config tm ∧
      (tm.drainRound config round).1.requestRetryCount ≤ config.transactionMessageAttempts := by
  unfold drainMeasure
  rcases drainRound_of_continues config hfifo with ⟨hrest, hzero⟩ | ⟨hsame, hinc, hle⟩
  · rw [hrest, hzero]
    cases hf : tm.requestsFifo with
    | nil => rw [hf] at hrest; exact absurd hrest hfifo
    | cons entry rest =>
      simp only [List.tail_cons, List.length_cons, Nat.succ_mul]
      omega
  · rw [hsame, hinc]
    have : config.transactionMessageAttempts + 1 ≤
        tm.requestsFifo.length * (config.transactionMessageAttempts + 1) :=
      Nat.le_mul_of_pos_left _ (List.length_pos.2 (hsame ▸ hfifo))
    omega

/-- Enough fuel runs the loop to its own exit. -/
theorem drainLoopRuns_of_fuel : ∀ (fuel : Nat) (rounds : Nat → DrainRound)
    (tm : TransactionManager), tm.requestRetryCount ≤ config.transactionMessageAttempts →
    drainMeasure config tm < fuel →
    ∃ n, n ≤ drainMeasure config tm + 1 ∧
      DrainLoopRuns config rounds tm n (drainLoop config fuel rounds tm)
  | 0, _, _, _, hfuel => absurd hfuel (Nat.not_lt_zero _)
  | fuel + 1, rounds, tm, hcount, hfuel => by
    by_cases hcont : (tm.drainRound config (rounds 0)).1.requestsFifo ≠ [] ∧
        (tm.drainRound config (rounds 0)).1.requestRetryTimer = false
    · obtain ⟨hlt, hcount'⟩ := drainMeasure_lt config hcount hcont.1
      cases hup : (rounds 0).connectedAtEnd
      · refine ⟨1, by omega, ?_⟩
        simp only [drainLoop, if_pos hcont, hup]
        exact .linkDown hcont.1 hcont.2 hup
      · obtain ⟨n, hn, hrun⟩ :=
          drainLoopRuns_of_fuel fuel (fun i => rounds (i + 1)) _ hcount' (by omega)
        refine ⟨n + 1, by omega, ?_⟩
        simp only [drainLoop, if_pos hcont, hup, if_true]
        exact .next hcont.1 hcont.2 hup hrun
    · refine ⟨1, by omega, ?_⟩
      simp only [drainLoop, if_neg hcont]
      exact .done (by simpa only [not_and_or, ne_eq, not_not, Bool.not_eq_false] using hcont)

/-- The loop is deterministic: one run per start. -/
theorem DrainLoopRuns.unique {rounds : Nat → DrainRound} {tm : TransactionManager} {n n' : Nat}
    {result result' : TransactionManager × List Call}
    (h : DrainLoopRuns config rounds tm n result) (h' : DrainLoopRuns config rounds tm n' result') :
    n = n' ∧ result = result' := by
  induction h generalizing n' result' with
  | done hstop =>
    cases h' with
    | done => exact ⟨rfl, rfl⟩
    | linkDown hfifo htimer => simp [hfifo, htimer] at hstop
    | next hfifo htimer => simp [hfifo, htimer] at hstop
  | linkDown hfifo htimer hdown =>
    cases h' with
    | done hstop => simp [hfifo, htimer] at hstop
    | linkDown => exact ⟨rfl, rfl⟩
    | next _ _ hup => rw [hdown] at hup; cases hup
  | next hfifo htimer hup _ ih =>
    cases h' with
    | done hstop => simp [hfifo, htimer] at hstop
    | linkDown _ _ hdown => rw [hup] at hdown; cases hdown
    | next _ _ _ hrest =>
      obtain ⟨rfl, rfl⟩ := ih hrest
      exact ⟨rfl, rfl⟩

end

theorem drain_loop_terminates (config : OcppConfig) (rounds : Nat → DrainRound)
    (tm : TransactionManager)
    (hcount : tm.requestRetryCount ≤ config.transactionMessageAttempts) :
    ∃ n, n ≤ tm.requestsFifo.length * (config.transactionMessageAttempts + 1) + 1 ∧
      DrainLoopRuns config rounds tm n (drainLoop config (tm.drainFuel config) rounds tm) ∧
      ∀ n' result, DrainLoopRuns config rounds tm n' result →
        n' = n ∧ result = drainLoop config (tm.drainFuel config) rounds tm := by
  obtain ⟨n, hn, hrun⟩ := drainLoopRuns_of_fuel config (tm.drainFuel config) rounds tm hcount
    (by unfold drainMeasure drainFuel; omega)
  refine ⟨n, by unfold drainMeasure at hn; omega, hrun, fun n' result h => ?_⟩
  obtain ⟨rfl, rfl⟩ := DrainLoopRuns.unique config h hrun
  exact ⟨rfl, rfl⟩

theorem drain_loop_terminates_twoQueued :
    ∃ n, n ≤ twoQueued.requestsFifo.length * (defaultConfig.transactionMessageAttempts + 1) + 1 ∧
      DrainLoopRuns defaultConfig (fun _ => answeredRound ⟨⟨.accepted, none, none⟩, 0⟩)
        twoQueued n (drainLoop defaultConfig (twoQueued.drainFuel defaultConfig)
          (fun _ => answeredRound ⟨⟨.accepted, none, none⟩, 0⟩) twoQueued) ∧
      ∀ n' result, DrainLoopRuns defaultConfig
          (fun _ => answeredRound ⟨⟨.accepted, none, none⟩, 0⟩) twoQueued n' result →
        n' = n ∧ result = drainLoop defaultConfig (twoQueued.drainFuel defaultConfig)
          (fun _ => answeredRound ⟨⟨.accepted, none, none⟩, 0⟩) twoQueued :=
  drain_loop_terminates defaultConfig _ twoQueued (by decide)

end Ocpp
