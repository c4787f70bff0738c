import OcppTransaction.ChargePoint
import OcppTransaction.Refusals

/-!
# Connector records and sessions

What a connector's transaction fields say about the session open on it, in every
reachable state (spec §3: `0` is no transaction, `-1` a provisional one, any other
value the central system's id).

* `sessionsAgree_of_reachable`: connector 0 never holds a session; a connector with no
  open session is idle with sampling off; a connector with an open session holds the
  session's tag, start and id, with sampling on. The id is the one the direct send was
  answered with, or the provisional `-1` when that send failed.
* `connector_records_open_session`: the encoding read off the invariant. A session the
  central system numbers `0` leaves its connector at `0` (line 187), so
  `transaction_id ≠ 0` is not the same as "a session is open": `stopTransaction` then
  finds no transaction in progress (lines 231–232), returns `false`, sends no
  `StopTransaction`, and leaves the session open with sampling on
  (`session_hidden_by_id_zero`).
* `remoteStop_finds_open_session`, `remoteStart_rejected_on_open_session`: the remote
  handlers see exactly the open sessions whose id is not 0.
* `provisional_id_kept_until_stop`: the drainer never writes a connector, so `-1` stays
  until the session stops, whatever the central system answers to the queued start
  (`provisional_id_not_replaced`).
* `deAuthorization_hits_provisional_session`: a job de-authorizes only an open,
  provisional session, with the tag of a start queued for its connector. The job finds
  that session by connector, provisional id and tag (lines 425–431), not by the request
  the answer is for: a refused start whose session was stopped de-authorizes a later
  session started offline with the same tag (`deAuthorized_hits_later_session`).
* `stop_follows_its_start`: in every run, each stop that takes effect on a connector
  follows a start accepted there, with no other start or stop of that connector between.
-/

namespace Ocpp

open TransactionManager ChargePoint

/-! ## Sampled meter values -/

/-- Whether sampled meter values run on connector `connectorId` after `calls`, from
`running` before them. -/
def samplingAfter (connectorId : Nat) (running : Bool) (calls : List Call) : Bool :=
  calls.foldl (fun running c => (c.sampling? connectorId).getD running) running

/-- Whether sampled meter values run on connector `connectorId` after a run's calls: the
last start or stop of sampling there was a start. -/
def samplingRunning (connectorId : Nat) (trace : List Call) : Bool :=
  samplingAfter connectorId false trace

section

variable {connectorId : Nat} {running : Bool} {calls : List Call}

theorem samplingAfter_append (calls' : List Call) :
    samplingAfter connectorId running (calls ++ calls') =
      samplingAfter connectorId (samplingAfter connectorId running calls) calls' :=
  List.foldl_append _ _ _ _

theorem samplingAfter_of_none (h : ∀ c ∈ calls, c.sampling? connectorId = none) :
    samplingAfter connectorId running calls = running := by
  induction calls generalizing running with
  | nil => rfl
  | cons c calls ih =>
    simp only [samplingAfter, List.foldl_cons, h c (.head _), Option.getD_none]
    exact ih fun c' hc' => h c' (.tail _ hc')

/-- Calls that only ever set sampling to `v`, and do so at least once, leave it at `v`. -/
theorem samplingAfter_of_set {v : Bool}
    (h : ∀ c ∈ calls, c.sampling? connectorId = none ∨ c.sampling? connectorId = some v)
    (hset : ∃ c ∈ calls, c.sampling? connectorId = some v) :
    samplingAfter connectorId running calls = v := by
  induction calls generalizing running with
  | nil => simp at hset
  | cons c calls ih =>
    have rest :
        ∀ c' ∈ calls, c'.sampling? connectorId = none ∨ c'.sampling? connectorId = some v :=
      fun c' hc' => h c' (.tail _ hc')
    by_cases later : ∃ c' ∈ calls, c'.sampling? connectorId = some v
    · exact ih rest later
    · have hc : c.sampling? connectorId = some v := by
        obtain ⟨c', hc', hv⟩ := hset
        rcases List.mem_cons.1 hc' with rfl | hc'
        · exact hv
        · exact absurd ⟨c', hc', hv⟩ later
      simp only [samplingAfter, List.foldl_cons, hc, Option.getD_some]
      exact samplingAfter_of_none fun c' hc' =>
        (rest c' hc').resolve_right fun hv => later ⟨c', hc', hv⟩

end

theorem Call.sampling?_of_byDrainer {c : Call} (h : c.ByDrainer) (connectorId : Nat) :
    c.sampling? connectorId = none := by
  cases c <;> simp_all [Call.ByDrainer, Call.sampling?]

/-- A start turns sampling on, for its connector and only when it returns `Accepted`. -/
theorem sampling?_of_mem_startTransaction {tm : TransactionManager} {config : OcppConfig}
    {env : StartEnv} {connectorId : Nat} {idTag : String} {c : Call}
    (hc : c ∈ (tm.startTransaction config env connectorId idTag).2.2) (id : Nat) :
    c.sampling? id = none ∨ ((tm.startTransaction config env connectorId idTag).1 = .accepted ∧
      id = connectorId ∧ c.sampling? id = some true) := by
  rcases mem_startTransaction tm config env connectorId idTag hc with
    rfl | ⟨_, _, rfl⟩ | ⟨_, rfl⟩ | rfl | rfl | ⟨accepted, rfl | rfl⟩
  all_goals try exact .inl rfl
  by_cases hid : id = connectorId
  · subst hid; simp [Call.sampling?, accepted]
  · simp [Call.sampling?, Ne.symm hid]

/-- A stop turns sampling off, for its connector. -/
theorem sampling?_of_mem_stopTransaction {tm : TransactionManager} {env : StopEnv}
    {connectorId : Nat} {idTag : String} {reason : Reason} {c : Call}
    (hc : c ∈ (tm.stopTransaction env connectorId idTag reason).2.2) (id : Nat) :
    c.sampling? id = none ∨ (id = connectorId ∧ c.sampling? id = some false) := by
  obtain ⟨-, rfl | ⟨_, _, rfl⟩ | ⟨_, rfl⟩ | rfl | ⟨_, rfl⟩ | rfl⟩ :=
    mem_stopTransaction tm env connectorId idTag reason hc
  all_goals try exact .inl rfl
  by_cases hid : id = connectorId
  · subst hid; simp [Call.sampling?]
  · simp [Call.sampling?, Ne.symm hid]

/-! ## The invariant -/

/-- What a connector's record says about the session open on it, with `sampling` whether
sampled meter values run there. -/
def SessionRecorded (connector : Option Connector) (session : Option Session)
    (sampling : Bool) : Prop :=
  match connector, session with
  | none, session => session = none
  | some c, none => c.Idle ∧ sampling = false
  | some c, some session =>
    c.transactionId = session.transactionId ∧ c.transactionIdTag = session.idTag ∧
      c.transactionStart = session.transactionStart ∧ sampling = true

/-- The connector records agree with the sessions. -/
structure SessionsAgree (s : ChargePoint) : Prop where
  chargePoint : s.sessions 0 = none
  recorded : ∀ id, SessionRecorded (s.manager.connectors.getConnector id) (s.sessions id)
    (samplingRunning id s.trace)

/-- Rewriting fields other than the transaction's keeps what a record says. -/
theorem SessionRecorded.map {connector : Option Connector} {session : Option Session}
    {sampling : Bool} (h : SessionRecorded connector session sampling) (f : Connector → Connector)
    (hf : ∀ c, (f c).transactionId = c.transactionId ∧
      (f c).transactionIdTag = c.transactionIdTag ∧ (f c).transactionStart = c.transactionStart) :
    SessionRecorded (connector.map f) session sampling := by
  rcases connector with _ | c
  · exact h
  · obtain ⟨h1, h2, h3⟩ := hf c
    rcases session with _ | session <;>
      simp only [SessionRecorded, Connector.Idle, Option.map_some', h1, h2, h3] at h ⊢ <;> exact h

theorem transactionId_openedSession (env : StartEnv) (idTag : String) :
    (openedSession env idTag).transactionId = (startOutcome env idTag).2.1 := by
  cases h : env.startResult <;> simp [openedSession, Session.transactionId, startOutcome, h]

namespace SessionsAgree

variable {s s' : ChargePoint} (h : SessionsAgree s)
include h

/-- A step that writes no connector and no session, and starts or stops no sampling. -/
theorem of_frame (hconn : s'.manager.connectors = s.manager.connectors)
    (hsessions : s'.sessions = s.sessions) {calls : List Call}
    (htrace : s'.trace = s.trace ++ calls)
    (hcalls : ∀ c ∈ calls, ∀ id, c.sampling? id = none) : SessionsAgree s' where
  chargePoint := hsessions ▸ h.chargePoint
  recorded id := by
    rw [hconn, hsessions, htrace, samplingRunning, samplingAfter_append,
      samplingAfter_of_none fun c hc => hcalls c hc id]
    exact h.recorded id

/-- A step that rewrites connector `connectorId` with `f`, sets its session to `session`,
and sets sampling there to `sampling`, keeps the agreement if the rewritten record agrees
with the new session. -/
theorem update {connectorId : Nat} {f : Connector → Connector} {session : Option Session}
    {sampling : Bool} {calls : List Call}
    (hconn : s'.manager.connectors = s.manager.connectors.modify connectorId f)
    (hsessions : s'.sessions = Function.update s.sessions connectorId session)
    (htrace : s'.trace = s.trace ++ calls)
    (hcalls : ∀ c ∈ calls, ∀ id,
      c.sampling? id = none ∨ (id = connectorId ∧ c.sampling? id = some sampling))
    (hset : ∃ c ∈ calls, c.sampling? connectorId = some sampling)
    (hzero : connectorId = 0 → session = none)
    (hrecord : SessionRecorded ((s.manager.connectors.getConnector connectorId).map f) session
      sampling) : SessionsAgree s' where
  chargePoint := by
    rw [hsessions]
    by_cases h0 : connectorId = 0
    · subst h0; simp [hzero rfl]
    · rw [Function.update_noteq (Ne.symm h0)]; exact h.chargePoint
  recorded id := by
    rw [hconn, hsessions, htrace, samplingRunning, samplingAfter_append,
      Connectors.getConnector_modify]
    by_cases hid : connectorId = id
    · subst hid
      rw [if_pos rfl, Function.update_same,
        samplingAfter_of_set (fun c hc => (hcalls c hc connectorId).imp_right And.right) hset]
      exact hrecord
    · rw [if_neg hid, Function.update_noteq (Ne.symm hid),
        samplingAfter_of_none fun c hc => (hcalls c hc id).resolve_right fun h' => hid h'.1.symm]
      exact h.recorded id

variable (config : OcppConfig)

theorem startTransaction (env : StartEnv) (connectorId : Nat) (idTag : String) :
    SessionsAgree (s.next config (.startTransaction env connectorId idTag)) := by
  have hconn := s.next_connectors config (.startTransaction env connectorId idTag)
  dsimp only at hconn
  by_cases accepted : (s.manager.startTransaction config env connectorId idTag).1 = .accepted
  · rw [if_pos accepted] at hconn
    obtain ⟨h0, connector, hc, -⟩ := startTransaction_guarded _ _ _ _ _ accepted
    refine h.update hconn
      (by simp [next, accepted] :
        _ = Function.update s.sessions connectorId (some (openedSession env idTag))) rfl
      (fun c hc id => (sampling?_of_mem_startTransaction hc id).imp_right And.right)
      ⟨_, startSampledMeterValues_mem _ _ _ _ _ accepted, by simp [Call.sampling?]⟩
      (absurd · h0) ?_
    rw [hc]
    exact ⟨by simp [transactionId_openedSession], rfl, rfl, rfl⟩
  · rw [if_neg accepted] at hconn
    exact h.of_frame hconn (by simp [next, accepted]) rfl fun c hc id =>
      (sampling?_of_mem_startTransaction hc id).resolve_right fun h' => accepted h'.1

theorem stopTransaction (env : StopEnv) (connectorId : Nat) (idTag : String) (reason : Reason) :
    SessionsAgree (s.next config (.stopTransaction env connectorId idTag reason)) := by
  have hconn := s.next_connectors config (.stopTransaction env connectorId idTag reason)
  dsimp only at hconn
  by_cases stopped : (s.manager.stopTransaction env connectorId idTag reason).1 = true
  · rw [if_pos stopped] at hconn
    obtain ⟨connector, hc, -⟩ := (stopTransaction_fst _ _ _ _ _).1 stopped
    refine h.update hconn (by simp [next, stopped]) rfl
      (fun c hc id => sampling?_of_mem_stopTransaction hc id)
      ⟨_, stopSampledMeterValues_mem _ _ _ _ _ stopped, by simp [Call.sampling?]⟩
      (fun _ => rfl) ?_
    rw [hc]
    exact ⟨connector.resetTransaction_idle, rfl⟩
  · rw [if_neg stopped] at hconn
    exact h.of_frame hconn (by simp [next, stopped]) rfl fun c hc =>
      absurd (mem_stopTransaction _ _ _ _ _ hc).1 stopped

/-- Sampling runs on a connector that holds a transaction. -/
theorem samplingRunning_of_open {id : Nat} {connector : Connector}
    (hc : s.manager.connectors.getConnector id = some connector)
    (hopen : connector.transactionId ≠ 0) : samplingRunning id s.trace = true := by
  have recorded := h.recorded id
  rw [hc] at recorded
  cases hsession : s.sessions id with
  | none => rw [hsession] at recorded; exact absurd recorded.1.1 hopen
  | some session => rw [hsession] at recorded; exact recorded.2.2.2

/-- Every event keeps the agreement. -/
theorem next (event : Event) : SessionsAgree (s.next config event) := by
  cases event with
  | startTransaction env connectorId idTag => exact h.startTransaction config env connectorId idTag
  | stopTransaction env connectorId idTag reason =>
    exact h.stopTransaction config env connectorId idTag reason
  | remoteStart env request =>
    exact h.of_frame rfl rfl rfl fun c hc id => by
      rcases request.mem_handleMessage _ env hc with ⟨_, _, rfl⟩ | ⟨_, _, rfl⟩ <;> rfl
  | remoteStop requested request =>
    exact h.of_frame rfl rfl rfl fun c hc id => by
      obtain ⟨_, rfl⟩ := request.mem_handleMessage _ requested hc; rfl
  | runJob rounds =>
    obtain ⟨calls, heq, hcalls⟩ := s.next_runJob config rounds
    exact h.of_frame (s.next_connectors config _) rfl (by rw [heq])
      fun c hc => Call.sampling?_of_byDrainer (hcalls c hc)
  | timerExpired | registrationChange =>
    exact h.of_frame rfl rfl (List.append_nil _).symm (by simp)
  | linkChange =>
    exact h.of_frame (s.next_connectors config _) rfl (List.append_nil _).symm (by simp)
  | push entry =>
    exact h.of_frame rfl rfl rfl fun c hc id => by
      rw [List.mem_singleton.1 hc]; rfl
  | setStatus connectorId status reservationId =>
    refine ⟨h.chargePoint, fun id => ?_⟩
    simp only [ChargePoint.next, Connectors.getConnector_modify]
    split_ifs
    · exact (h.recorded id).map
        (fun c => { c with status := status, reservationId := reservationId })
        fun _ => ⟨rfl, rfl, rfl⟩
    · exact h.recorded id

end SessionsAgree

theorem sessionsAgree_of_reachable {config : OcppConfig} {s : ChargePoint}
    (h : Reachable config s) : SessionsAgree s := by
  induction h with
  | init connectors idle connected status =>
    refine ⟨rfl, fun id => ?_⟩
    show SessionRecorded (connectors.getConnector id) none (samplingRunning id [])
    cases hc : connectors.getConnector id with
    | none => rfl
    | some c => exact ⟨idle id c hc, rfl⟩
  | step event _ _ ih => exact ih.next _ event

/-! ## The transaction id -/

/-- The invariant at one existing connector. -/
theorem sessionRecorded_of_reachable {config : OcppConfig} {s : ChargePoint}
    (h : Reachable config s) {id : Nat} {c : Connector}
    (hc : s.manager.connectors.getConnector id = some c) :
    SessionRecorded (some c) (s.sessions id) (samplingRunning id s.trace) :=
  hc ▸ (sessionsAgree_of_reachable h).recorded id

theorem connector_records_open_session {config : OcppConfig} {s : ChargePoint}
    (h : Reachable config s) :
    s.manager.connectors.chargePoint.transactionId = 0 ∧ s.sessions 0 = none ∧
    ∀ id c, s.manager.connectors.getConnector id = some c →
      (∀ session, s.sessions id = some session →
        c.transactionId = session.transactionId ∧ c.transactionIdTag = session.idTag ∧
          samplingRunning id s.trace = true) ∧
      (s.sessions id = none →
        c.transactionId = 0 ∧ c.transactionIdTag = "" ∧ c.transactionStart = 0 ∧
          samplingRunning id s.trace = false) ∧
      (c.transactionId ≠ 0 ↔
        ∃ session, s.sessions id = some session ∧ session.transactionId ≠ 0) := by
  have hzero := (sessionsAgree_of_reachable h).chargePoint
  have chargePoint := sessionRecorded_of_reachable h (Connectors.getConnector_zero _)
  rw [hzero] at chargePoint
  refine ⟨chargePoint.1.1, hzero, fun id c hc => ?_⟩
  have recorded := sessionRecorded_of_reachable h hc
  cases hs : s.sessions id with
  | none =>
    rw [hs] at recorded
    obtain ⟨⟨h1, h2, h3⟩, h4⟩ := recorded
    simp [h1, h2, h3, h4]
  | some session =>
    rw [hs] at recorded
    obtain ⟨h1, h2, -, h4⟩ := recorded
    simp [h1, h2, h4]

/-- The central system accepts a start and numbers it 0. -/
def zeroIdStart : StartEnv :=
  { offlineStart 100 with startResult := .ok, startConf := ⟨⟨.accepted, none, none⟩, 0⟩ }

/-- Connector 1 after a start the central system numbered 0. -/
def zeroIdSession : ChargePoint :=
  (ChargePoint.initial oneConnector true .accepted).next defaultConfig
    (.startTransaction zeroIdStart 1 "T")

theorem zeroIdSession_reachable : Reachable defaultConfig zeroIdSession :=
  .step _ (.init _ oneConnector_idle _ _) rfl

/-- A session is open on connector 1 and sampled meter values run there, but its record
reads `0`: a stop of connector 1 returns `false`, sends no `StopTransaction`, and leaves
the session open and sampling on. -/
theorem session_hidden_by_id_zero :
    Reachable defaultConfig zeroIdSession ∧ (zeroIdSession.sessions 1).isSome ∧
    samplingRunning 1 zeroIdSession.trace = true ∧
    (zeroIdSession.manager.connectors.getConnector 1).map (·.transactionId) = some 0 ∧
    (zeroIdSession.manager.stopTransaction (offlineStop 200) 1 "T" .«local»).1 = false ∧
    (zeroIdSession.next defaultConfig
      (.stopTransaction (offlineStop 200) 1 "T" .«local»)).trace = zeroIdSession.trace ∧
    ((zeroIdSession.next defaultConfig
      (.stopTransaction (offlineStop 200) 1 "T" .«local»)).sessions 1).isSome :=
  ⟨zeroIdSession_reachable, by decide⟩

theorem connector_records_zeroIdSession :
    zeroIdSession.manager.connectors.chargePoint.transactionId = 0 ∧
    zeroIdSession.sessions 0 = none ∧
    ∀ id c, zeroIdSession.manager.connectors.getConnector id = some c →
      (∀ session, zeroIdSession.sessions id = some session →
        c.transactionId = session.transactionId ∧ c.transactionIdTag = session.idTag ∧
          samplingRunning id zeroIdSession.trace = true) ∧
      (zeroIdSession.sessions id = none →
        c.transactionId = 0 ∧ c.transactionIdTag = "" ∧ c.transactionStart = 0 ∧
          samplingRunning id zeroIdSession.trace = false) ∧
      (c.transactionId ≠ 0 ↔
        ∃ session, zeroIdSession.sessions id = some session ∧ session.transactionId ≠ 0) :=
  connector_records_open_session zeroIdSession_reachable

/-! ## The provisional id -/

theorem provisional_id_kept_until_stop {config : OcppConfig} {s : ChargePoint}
    (h : Reachable config s) :
    (∀ id c, s.manager.connectors.getConnector id = some c →
      (c.transactionId = -1 ↔
        ∃ session, s.sessions id = some session ∧ session.transactionId = -1)) ∧
    ∀ rounds, (s.next config (.runJob rounds)).manager.connectors = s.manager.connectors := by
  refine ⟨fun id c hc => ?_, fun rounds => s.next_connectors config _⟩
  have recorded := sessionRecorded_of_reachable h hc
  cases hs : s.sessions id with
  | none => rw [hs] at recorded; simp [recorded.1.1]
  | some session => rw [hs] at recorded; simp [recorded.1]

/-- Connector 1 is started offline, the link comes up, and the drainer's send of the
queued start is accepted with id 7. -/
def confirmedOffline : ChargePoint :=
  (((ChargePoint.initial oneConnector false .accepted).next defaultConfig
    (.startTransaction (offlineStart 100) 1 "T")).next defaultConfig (.linkChange true)).next
    defaultConfig (.runJob fun _ => answeredRound ⟨⟨.accepted, none, none⟩, 7⟩)

theorem confirmedOffline_reachable : Reachable defaultConfig confirmedOffline :=
  .step _ (.step _ (.step _ (.init _ oneConnector_idle _ _) rfl) rfl) rfl

/-- The queued start was delivered and the FIFO is empty, yet connector 1 still holds
`-1`, and a remote stop of transaction 7 finds nothing. -/
theorem provisional_id_not_replaced :
    Reachable defaultConfig confirmedOffline ∧ confirmedOffline.manager.requestsFifo = [] ∧
    Call.call (startRequest (offlineStart 100) 1 "T" none).entry .ok ∈ confirmedOffline.trace ∧
    (confirmedOffline.manager.connectors.getConnector 1).map (·.transactionId) = some (-1) ∧
    (RemoteStopTransactionReq.handleMessage ⟨7⟩ confirmedOffline.manager.connectors true).1 =
      ⟨.rejected⟩ :=
  ⟨confirmedOffline_reachable, by decide⟩

theorem provisional_id_kept_confirmedOffline :
    (∀ id c, confirmedOffline.manager.connectors.getConnector id = some c →
      (c.transactionId = -1 ↔
        ∃ session, confirmedOffline.sessions id = some session ∧ session.transactionId = -1)) ∧
    ∀ rounds, (confirmedOffline.next defaultConfig (.runJob rounds)).manager.connectors =
      confirmedOffline.manager.connectors :=
  provisional_id_kept_until_stop confirmedOffline_reachable

/-! ## De-authorization -/

/-- What the lookup of a queued start finds in a reachable state: the session open on the
connector, provisional, with the start's tag. -/
theorem holdsProvisional_session {config : OcppConfig} {s : ChargePoint} (h : Reachable config s)
    {id : Nat} {idTag : String} (hprov : s.manager.connectors.holdsProvisional id idTag = true) :
    ∃ session, s.sessions id = some session ∧ session.transactionId = -1 ∧
      session.idTag = idTag := by
  unfold Connectors.holdsProvisional at hprov
  split at hprov
  · rename_i c hc
    simp only [decide_eq_true_eq] at hprov
    have recorded := sessionRecorded_of_reachable h hc
    cases hs : s.sessions id with
    | none =>
      rw [hs] at recorded
      exact absurd (recorded.1.1.symm.trans hprov.1) (by decide)
    | some session =>
      rw [hs] at recorded
      exact ⟨session, rfl, recorded.1 ▸ hprov.1, recorded.2.1 ▸ hprov.2⟩
  · cases hprov

theorem deAuthorization_hits_provisional_session {config : OcppConfig} {s : ChargePoint}
    (h : Reachable config s) (rounds : Nat → DrainRound) :
    ∃ calls, (s.next config (.runJob rounds)).trace = s.trace ++ calls ∧
      ∀ connectorId ∈ calls.filterMap Call.deAuthorized?,
        ∃ session, s.sessions connectorId = some session ∧ session.transactionId = -1 ∧
          ∃ entry ∈ s.manager.requestsFifo, entry.action = startTransactionAction ∧
            entry.payload.startTransactionReq.connectorId = connectorId ∧
            entry.payload.startTransactionReq.idTag = session.idTag := by
  refine ⟨_, rfl, fun connectorId hid => ?_⟩
  obtain ⟨entry, hentry, haction, hid', hprov⟩ :=
    processFifoRequest_deAuthorized config _ _ _ _ hid
  obtain ⟨session, hs, hprovisional, htag⟩ := holdsProvisional_session h hprov
  exact ⟨session, hs, hprovisional, entry, hentry, haction, hid', htag.symm⟩

/-- Connector 1 is started offline, and the link comes up. -/
def reconnected : ChargePoint :=
  ((ChargePoint.initial oneConnector false .accepted).next defaultConfig
    (.startTransaction (offlineStart 100) 1 "T")).next defaultConfig (.linkChange true)

theorem reconnected_reachable : Reachable defaultConfig reconnected :=
  .step _ (.step _ (.init _ oneConnector_idle _ _) rfl) rfl

/-- The central system blocks the queued start: its session is de-authorized. -/
theorem deAuthorization_hits_reconnected :
    ∃ calls, (reconnected.next defaultConfig
        (.runJob fun _ => answeredRound ⟨⟨.blocked, none, none⟩, 7⟩)).trace =
        reconnected.trace ++ calls ∧
      ∀ connectorId ∈ calls.filterMap Call.deAuthorized?,
        ∃ session, reconnected.sessions connectorId = some session ∧
          session.transactionId = -1 ∧
          ∃ entry ∈ reconnected.manager.requestsFifo, entry.action = startTransactionAction ∧
            entry.payload.startTransactionReq.connectorId = connectorId ∧
            entry.payload.startTransactionReq.idTag = session.idTag :=
  deAuthorization_hits_provisional_session reconnected_reachable _

example : ((reconnected.next defaultConfig
    (.runJob fun _ => answeredRound ⟨⟨.blocked, none, none⟩, 7⟩)).trace.drop
      reconnected.trace.length).filterMap Call.deAuthorized? = [1] := by
  decide

/-- Connector 1 is started offline with tag "T", stopped, and started offline again with
"T"; the link then comes up, with both starts and the stop queued. -/
def laterSessionQueued : ChargePoint :=
  ((((ChargePoint.initial oneConnector false .accepted).next defaultConfig
    (.startTransaction (offlineStart 100) 1 "T")).next defaultConfig
    (.stopTransaction (offlineStop 200) 1 "T" .«local»)).next defaultConfig
    (.startTransaction (offlineStart 300) 1 "T")).next defaultConfig (.linkChange true)

theorem laterSessionQueued_reachable : Reachable defaultConfig laterSessionQueued :=
  .step _ (.step _ (.step _ (.step _ (.init _ oneConnector_idle _ _) rfl) rfl) rfl) rfl

/-- The central system blocks the first queued start and accepts what follows. -/
def firstStartRefused (i : Nat) : DrainRound :=
  if i = 0 then answeredRound ⟨⟨.blocked, none, none⟩, 7⟩
  else answeredRound ⟨⟨.accepted, none, none⟩, 8⟩

/-- The session that queued the first start was stopped; the one open on connector 1 is
the later one, started at 300. The refusal of the first start de-authorizes connector 1
all the same, right after its answer is read. -/
theorem deAuthorized_hits_later_session :
    Reachable defaultConfig laterSessionQueued ∧
    laterSessionQueued.manager.requestsFifo.head? =
      some (startRequest (offlineStart 100) 1 "T" none).entry ∧
    laterSessionQueued.sessions 1 = some ⟨"T", 300, none⟩ ∧
    [Call.call (startRequest (offlineStart 100) 1 "T" none).entry .ok,
      .response (.startTransaction ⟨⟨.blocked, none, none⟩, 7⟩),
      .authentUpdate "T" ⟨.blocked, none, none⟩, .transactionDeAuthorized 1] <:+:
      (laterSessionQueued.next defaultConfig (.runJob firstStartRefused)).trace ∧
    ((laterSessionQueued.next defaultConfig (.runJob firstStartRefused)).trace.drop
      laterSessionQueued.trace.length).filterMap Call.deAuthorized? = [1] :=
  ⟨laterSessionQueued_reachable, by decide, by decide,
    ⟨(laterSessionQueued.next defaultConfig (.runJob firstStartRefused)).trace.take 15,
      (laterSessionQueued.next defaultConfig (.runJob firstStartRefused)).trace.drop 19,
      by decide⟩, by decide⟩

/-! ## Each stop follows a start

`startSampledMeterValues` is called exactly when a start returns `Accepted`, and
`stopSampledMeterValues` exactly when a stop returns `true`, so the two mark in a trace
the sessions opened and closed. -/

theorem Call.sampling?_eq_some_true {c : Call} {connectorId : Nat} :
    c.sampling? connectorId = some true ↔ c = .startSampledMeterValues connectorId := by
  cases c <;> simp only [Call.sampling?, reduceCtorEq, Call.startSampledMeterValues.injEq] <;>
    split_ifs <;> simp_all [eq_comm]

/-- Sampling runs after `calls` only if it ran before and nothing touched it, or the last
call that touched it started it. -/
theorem samplingAfter_eq_true {connectorId : Nat} :
    ∀ {running : Bool} {calls : List Call}, samplingAfter connectorId running calls = true →
      (running = true ∧ ∀ c ∈ calls, c.sampling? connectorId = none) ∨
        ∃ before between, calls = before ++ .startSampledMeterValues connectorId :: between ∧
          ∀ c ∈ between, c.sampling? connectorId = none
  | _, [], h => .inl ⟨h, by simp⟩
  | running, c :: calls, h => by
    have h' : samplingAfter connectorId ((c.sampling? connectorId).getD running) calls = true := h
    rcases samplingAfter_eq_true h' with ⟨hrunning, hquiet⟩ | ⟨before, between, rfl, hquiet⟩
    · cases hc : c.sampling? connectorId with
      | none =>
        rw [hc, Option.getD_none] at hrunning
        exact .inl ⟨hrunning, List.forall_mem_cons.2 ⟨hc, hquiet⟩⟩
      | some v =>
        rw [hc, Option.getD_some] at hrunning
        subst hrunning
        exact .inr ⟨[], calls, by rw [Call.sampling?_eq_some_true.1 hc]; rfl, hquiet⟩
    · exact .inr ⟨c :: before, between, rfl, hquiet⟩

/-- A stop that took effect stops sampling first, and then touches no sampling. -/
theorem stopTransaction_calls_of_stopped {tm : TransactionManager} {env : StopEnv}
    {connectorId : Nat} {idTag : String} {reason : Reason}
    (h : (tm.stopTransaction env connectorId idTag reason).1 = true) :
    ∃ rest, (tm.stopTransaction env connectorId idTag reason).2.2 =
        .stopSampledMeterValues connectorId :: rest ∧ ∀ c ∈ rest, ∀ id, c.sampling? id = none := by
  obtain ⟨connector, hc, hopen⟩ := (stopTransaction_fst _ _ _ _ _).1 h
  rw [stopTransaction_of_open _ _ _ _ _ hc hopen]
  refine ⟨_, rfl, fun c hmem id => ?_⟩
  simp only [List.append_eq, List.mem_append, List.mem_singleton] at hmem
  rcases hmem with (hsent | hout) | rfl
  · rcases mem_callWithFifo hsent with rfl | rfl <;> rfl
  · rcases mem_stopOutcome env idTag hout with rfl | ⟨_, rfl⟩ <;> rfl
  · rfl

/-- Sampling is stopped on a connector only where it runs. -/
def StopsWhileSampling (connectorId : Nat) (trace : List Call) : Prop :=
  ∀ pre post, trace = pre ++ .stopSampledMeterValues connectorId :: post →
    samplingRunning connectorId pre = true

namespace StopsWhileSampling

variable {connectorId : Nat} {trace calls : List Call}

theorem append (h : StopsWhileSampling connectorId trace)
    (hcalls : ∀ before post, calls = before ++ .stopSampledMeterValues connectorId :: post →
      samplingRunning connectorId (trace ++ before) = true) :
    StopsWhileSampling connectorId (trace ++ calls) := by
  intro pre post heq
  rcases List.append_eq_append_iff.1 heq.symm with ⟨a', htrace, hrest⟩ | ⟨c', rfl, hcalls'⟩
  · cases a' with
    | nil =>
      rw [List.append_nil] at htrace
      subst htrace
      simpa using hcalls [] post (by simpa using hrest.symm)
    | cons x a' =>
      simp only [List.cons_append, List.cons.injEq] at hrest
      obtain ⟨rfl, -⟩ := hrest
      exact h pre a' htrace
  · exact hcalls c' post hcalls'

/-- Calls that never stop sampling. -/
theorem append_of_not_stop (h : StopsWhileSampling connectorId trace)
    (hcalls : ∀ c ∈ calls, c.sampling? connectorId ≠ some false) :
    StopsWhileSampling connectorId (trace ++ calls) :=
  h.append fun before post heq => absurd (by simp [Call.sampling?])
    (hcalls _ (heq ▸ List.mem_append_right before (List.mem_cons_self _ post)))

variable {config : OcppConfig} {s : ChargePoint}

theorem next (hs : SessionsAgree s) (h : StopsWhileSampling connectorId s.trace)
    (event : Event) : StopsWhileSampling connectorId (s.next config event).trace := by
  cases event with
  | startTransaction env id idTag =>
    refine h.append_of_not_stop fun c hc => ?_
    rcases sampling?_of_mem_startTransaction hc connectorId with hnone | ⟨-, -, htrue⟩ <;>
      simp_all
  | stopTransaction env id idTag reason =>
    show StopsWhileSampling connectorId (s.trace ++ _)
    by_cases stopped : (s.manager.stopTransaction env id idTag reason).1 = true
    · obtain ⟨rest, hcalls, hrest⟩ := stopTransaction_calls_of_stopped stopped
      refine h.append fun before post heq => ?_
      rw [hcalls] at heq
      cases before with
      | cons x before =>
        simp only [List.cons_append, List.cons.injEq] at heq
        have := hrest _ (heq.2 ▸ List.mem_append_right before (List.mem_cons_self _ post))
          connectorId
        simp [Call.sampling?] at this
      | nil =>
        simp only [List.nil_append, List.cons.injEq, Call.stopSampledMeterValues.injEq] at heq
        obtain ⟨rfl, -⟩ := heq
        obtain ⟨connector, hc, hopen⟩ := (stopTransaction_fst _ _ _ _ _).1 stopped
        simpa using hs.samplingRunning_of_open hc hopen
    · exact h.append_of_not_stop fun c hc =>
        absurd (mem_stopTransaction _ _ _ _ _ hc).1 stopped
  | remoteStart env request =>
    exact h.append_of_not_stop fun c hc => by
      rcases request.mem_handleMessage _ env hc with ⟨_, _, rfl⟩ | ⟨_, _, rfl⟩ <;>
        simp [Call.sampling?]
  | remoteStop requested request =>
    exact h.append_of_not_stop fun c hc => by
      obtain ⟨_, rfl⟩ := request.mem_handleMessage _ requested hc; simp [Call.sampling?]
  | runJob rounds =>
    obtain ⟨calls, heq, hcalls⟩ := s.next_runJob config rounds
    rw [heq]
    exact h.append_of_not_stop fun c hc => by
      simp [Call.sampling?_of_byDrainer (hcalls c hc)]
  | push entry =>
    exact h.append_of_not_stop fun c hc => by
      rw [List.mem_singleton.1 hc]; simp [Call.sampling?]
  | timerExpired | linkChange | registrationChange | setStatus =>
    simpa [ChargePoint.next] using h

end StopsWhileSampling

theorem stopsWhileSampling_of_reachable {config : OcppConfig} {s : ChargePoint}
    (h : Reachable config s) (connectorId : Nat) : StopsWhileSampling connectorId s.trace := by
  induction h with
  | init => intro pre post h; simp [ChargePoint.initial] at h
  | step event reach _ ih => exact ih.next (sessionsAgree_of_reachable reach) event

theorem stop_follows_its_start {config : OcppConfig} {s : ChargePoint} (h : Reachable config s)
    {connectorId : Nat} (pre post : List Call)
    (htrace : s.trace = pre ++ .stopSampledMeterValues connectorId :: post) :
    ∃ before between, pre = before ++ .startSampledMeterValues connectorId :: between ∧
      ∀ c ∈ between, c.sampling? connectorId = none := by
  exact (samplingAfter_eq_true
    (stopsWhileSampling_of_reachable h connectorId pre post htrace)).resolve_left (by simp)

/-- Connector 1 is started offline and then stopped. -/
def startedAndStopped : ChargePoint :=
  ((ChargePoint.initial oneConnector true .accepted).next defaultConfig
    (.startTransaction (offlineStart 100) 1 "T")).next defaultConfig
    (.stopTransaction (offlineStop 200) 1 "T" .«local»)

theorem startedAndStopped_reachable : Reachable defaultConfig startedAndStopped :=
  .step _ (.step _ (.init _ oneConnector_idle _ _) rfl) rfl

theorem stop_follows_its_start_startedAndStopped :
    ∃ before between,
      startedAndStopped.trace.take 4 = before ++ .startSampledMeterValues 1 :: between ∧
      ∀ c ∈ between, c.sampling? 1 = none :=
  stop_follows_its_start startedAndStopped_reachable _ (startedAndStopped.trace.drop 5)
    (by decide)

/-! ## The remote handlers -/

/-- A remote stop of a non-zero transaction id finds a connector exactly when a session
with that id is open on one. -/
theorem remoteStop_finds_open_session {config : OcppConfig} {s : ChargePoint}
    (h : Reachable config s) {transactionId : Int} (hid : transactionId ≠ 0) :
    (s.manager.connectors.findTransaction transactionId).isSome ↔
      ∃ id session, (s.manager.connectors.getConnector id).isSome ∧
        s.sessions id = some session ∧ session.transactionId = transactionId := by
  constructor
  · intro hfind
    obtain ⟨id, hsome⟩ := Option.isSome_iff_exists.1 hfind
    obtain ⟨c, hc, hnz, heq⟩ := Connectors.findTransaction_eq_some hsome
    have recorded := sessionRecorded_of_reachable h hc
    cases hs : s.sessions id with
    | none => rw [hs] at recorded; exact absurd recorded.1.1 hnz
    | some session =>
      rw [hs] at recorded
      exact ⟨id, session, by simp [hc], hs, recorded.1 ▸ heq⟩
  · rintro ⟨id, session, hsome, hs, heq⟩
    obtain ⟨c, hc⟩ := Option.isSome_iff_exists.1 hsome
    have recorded := sessionRecorded_of_reachable h hc
    rw [hs] at recorded
    cases hfind : s.manager.connectors.findTransaction transactionId with
    | some => rfl
    | none =>
      rcases Connectors.findTransaction_eq_none hfind hc with hzero | hne
      · exact absurd (recorded.1.trans heq ▸ hzero) hid
      · exact absurd (recorded.1.trans heq) hne

/-- A remote start naming a connector whose open session has a non-zero id is rejected,
and the events handler is not asked. -/
theorem remoteStart_rejected_on_open_session {config : OcppConfig} {s : ChargePoint}
    (h : Reachable config s) (request : RemoteStartTransactionReq) (env : RemoteStartEnv)
    {id : Nat} {session : Session} (hid : request.connectorId = some id)
    (hs : s.sessions id = some session) (hnz : session.transactionId ≠ 0) :
    request.handleMessage s.manager.connectors env = (⟨.rejected⟩, []) := by
  have recorded := (sessionsAgree_of_reachable h).recorded id
  rw [hs] at recorded
  cases hc : s.manager.connectors.getConnector id with
  | none => rw [hc] at recorded; cases recorded
  | some c =>
    rw [hc] at recorded
    exact request.handleMessage_rejected_of_busy _ env hid hc (recorded.1 ▸ hnz)

/-- A remote start for connector 1 while its provisional session is open. -/
theorem remoteStart_rejected_reconnected :
    RemoteStartTransactionReq.handleMessage ⟨some 1, "U", none⟩ reconnected.manager.connectors
        ⟨fun _ _ => .accepted, true, true⟩ = (⟨.rejected⟩, []) :=
  remoteStart_rejected_on_open_session reconnected_reachable _ _ rfl
    (show reconnected.sessions 1 = some ⟨"T", 100, none⟩ by decide) (by decide)

theorem remoteStop_finds_reconnected :
    (reconnected.manager.connectors.findTransaction (-1)).isSome ↔
      ∃ id session, (reconnected.manager.connectors.getConnector id).isSome ∧
        reconnected.sessions id = some session ∧ session.transactionId = -1 :=
  remoteStop_finds_open_session reconnected_reachable (by decide)


/-- A remote stop the events handler acts on: the local stop it then asks for, on the
connector the scan found, takes effect, sends `StopTransaction` for the requested id and
closes that connector's session. -/
theorem remoteStop_then_stop_sends_requested_id (s : ChargePoint) (config : OcppConfig)
    (request : RemoteStopTransactionReq) (requested : Bool) {connectorId : Nat}
    (hfound : (request.handleMessage s.manager.connectors requested).2 =
      [.remoteStopTransactionRequested connectorId])
    (env : StopEnv) (idTag : String) (reason : Reason) :
    ((s.next config (.remoteStop requested request)).manager.stopTransaction env connectorId idTag
      reason).1 = true ∧
    (∃ stop : StopTransactionReq,
      ((s.next config (.remoteStop requested request)).manager.stopTransaction env connectorId
        idTag reason).2.2.filterMap Call.emitted? = [stop.entry] ∧
      stop.transactionId = request.transactionId ∧ stop.reason = reason) ∧
    ((s.next config (.remoteStop requested request)).next config
      (.stopTransaction env connectorId idTag reason)).sessions connectorId = none := by
  have hfind : s.manager.connectors.findTransaction request.transactionId = some connectorId := by
    unfold RemoteStopTransactionReq.handleMessage at hfound
    split at hfound
    · cases hfound
    · simp_all
  obtain ⟨c, hc, hopen, hid⟩ := Connectors.findTransaction_eq_some hfind
  have stopped : (s.manager.stopTransaction env connectorId idTag reason).1 = true :=
    (stopTransaction_fst _ _ _ _ _).2 ⟨c, hc, hopen⟩
  refine ⟨stopped, ⟨stopRequest env c idTag reason,
    stopTransaction_emitted _ env connectorId idTag reason hc hopen, hid, rfl⟩, ?_⟩
  simp [ChargePoint.next, stopped]

/-- Connector 1 is started, and the central system numbers the transaction 43. -/
def startedOnline : ChargePoint :=
  (ChargePoint.initial oneConnector true .accepted).next defaultConfig
    (.startTransaction acceptingStart 1 "A")

theorem remoteStop_then_stop_startedOnline :
    ((startedOnline.next defaultConfig (.remoteStop true ⟨43⟩)).manager.stopTransaction
      (offlineStop 300) 1 "A" .remote).1 = true ∧
    (∃ stop : StopTransactionReq,
      ((startedOnline.next defaultConfig (.remoteStop true ⟨43⟩)).manager.stopTransaction
        (offlineStop 300) 1 "A" .remote).2.2.filterMap Call.emitted? = [stop.entry] ∧
      stop.transactionId = (⟨43⟩ : RemoteStopTransactionReq).transactionId ∧
      stop.reason = .remote) ∧
    ((startedOnline.next defaultConfig (.remoteStop true ⟨43⟩)).next defaultConfig
      (.stopTransaction (offlineStop 300) 1 "A" .remote)).sessions 1 = none :=
  remoteStop_then_stop_sends_requested_id startedOnline defaultConfig ⟨43⟩ true (by decide)
    (offlineStop 300) "A" .remote

end Ocpp
