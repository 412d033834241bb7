import CallsPlugin.Ports.Session

/-!
# What a join does to the store

`addUserSession` decides from its arguments whether to refuse; if it does not,
it makes a fixed sequence of writes and returns at the first that fails.
`joinChecks` is that decision, `joinWrites` that sequence, and
`tryAddUserSession_eq` says that the function is nothing else.
-/

namespace CallsPlugin.Ports

open CallsPlugin.Verified
open CallsPlugin.Ports.Public CallsPlugin.Ports.Db

/-- Make the writes in order, up to the first that fails. -/
def writeAll : List Write → Body (Except String Unit)
  | [] => .ret (.ok ())
  | w :: ws => do
      match ← write w with
      | .error e => return .error e
      | .ok _ => writeAll ws

/-- The captioning job a transcribing bot takes over. -/
def startingCaptions (state : CallState) : Option CallJob :=
  state.liveCaptions.filter fun j => j.startAt = 0

/-- The jobs a bot takes over, in the order they are written; it is refused without
one. -/
def jobsTaken (state : CallState) (jobID : String) : Except String (List CallJob) :=
  if state.recording = none ∧
      state.transcription = none then .error "no job in progress"
  else
    match state.recording.filter (awaitsBot jobID) with
    | some recState => .ok [recState]
    | none =>
        match state.transcription.filter (awaitsBot jobID) with
        | some trState => .ok ((startingCaptions state).toList ++ [trState])
        | none => .error "job not in progress or already started"

/-- The state after the bot on `connID` took over its jobs. -/
def takeJobs (state : CallState) (connID jobID : String) : CallState :=
  match state.recording.filter (awaitsBot jobID) with
  | some recState => { state with recording := some (withBotConnID recState connID) }
  | none =>
      match state.transcription.filter (awaitsBot jobID) with
      | none => state
      | some trState =>
          { state with
            transcription := some (withBotConnID trState connID)
            liveCaptions :=
              match startingCaptions state with
              | some lcState => some (withBotConnID lcState connID)
              | none => state.liveCaptions }

/-- The jobs the user of a request takes over: none, unless it is the bot. -/
def jobsOf (p : Plugin) (state : CallState) (r : JoinRequest) :
    Except String (List CallJob) :=
  if r.userID = p.botID then jobsTaken state r.jobID else .ok []

/-- The state after the user of a request took over its jobs. -/
def withJobs (p : Plugin) (state : CallState) (r : JoinRequest) : CallState :=
  if r.userID = p.botID then takeJobs state r.connID r.jobID else state

/-- The refusal of a join, or the call it joins and the jobs it takes over. -/
def joinChecks (p : Plugin) (env : Env) (state : Option CallState) (r : JoinRequest)
    (channelID : String) : Except String (CallState × List CallJob) :=
  match callToJoin p env state r channelID with
  | .error e => .error e
  | .ok state =>
      match checkJoin p state r.connID with
      | .error e => .error e
      | .ok _ =>
          match jobsOf p state r with
          | .error e => .error e
          | .ok jobs => .ok (state, jobs)

/-- The state a join leads to. -/
def joined (p : Plugin) (env : Env) (state : CallState) (r : JoinRequest) : CallState :=
  admitted p env (withJobs p state r) r.userID r.connID

/-- The writes of a join. -/
def joinWrites (p : Plugin) (env : Env) (state : CallState) (jobs : List CallJob)
    (r : JoinRequest) : List Write :=
  jobs.map (fun job => jobWrite (withBotConnID job r.connID)) ++
    [callWrite (joined p env state r),
      sessionWrite (newSession env (joined p env state r) r.userID r.connID)]

/-- The events of a refusal. -/
def announceRefusal (r : JoinRequest) (channelID e : String) : Body Unit :=
  if e = errGroupCallsNotAllowed then
    sendEphemeralPost r.userID channelID
      "app.add_user_session.group_calls_not_allowed_error"
  else .ret ()

theorem writeAll_append (ws ws' : List Write) : writeAll (ws ++ ws') = (do
    match ← writeAll ws with
    | .error e => return .error e
    | .ok _ => writeAll ws') := by
  induction ws with
  | nil => simp [writeAll]
  | cons w ws ih =>
      simp only [List.cons_append, writeAll, Code.bind_assoc]
      refine congrArg _ (funext fun res => ?_)
      cases res with
      | error e => simp
      | ok _ => simpa using ih

theorem botJoinsLiveCaptions_eq (state : CallState) (connID : String) :
    botJoinsLiveCaptions state connID = (do
      match ← writeAll ((startingCaptions state).toList.map
        fun j => jobWrite (withBotConnID j connID)) with
      | .error e => return .error e
      | .ok _ => return .ok { state with
          liveCaptions :=
            match startingCaptions state with
            | some lcState => some (withBotConnID lcState connID)
            | none => state.liveCaptions }) := by
  obtain ⟨call, sessions, recording, transcription, liveCaptions⟩ := state
  cases liveCaptions with
  | none => rfl
  | some lcState =>
      by_cases hstart : lcState.startAt = 0
      · simp only [botJoinsLiveCaptions, startingCaptions, hstart, Option.filter_some,
          decide_true, if_true, ne_eq, not_true_eq_false, if_false, Option.toList_some,
          List.map_cons, List.map_nil, writeAll, jobWrite, Code.bind_assoc]
        refine congrArg _ (funext fun res => ?_)
        cases res <;> rfl
      · simp [botJoinsLiveCaptions, startingCaptions, hstart, Option.filter_some,
          writeAll]

theorem botJoins_eq (state : CallState) (connID jobID : String) :
    botJoins state connID jobID =
      match jobsTaken state jobID with
      | .error e => .ret (.error e)
      | .ok jobs => do
          match ← writeAll (jobs.map fun j => jobWrite (withBotConnID j connID)) with
          | .error e => return .error e
          | .ok _ => return .ok (takeJobs state connID jobID) := by
  unfold botJoins jobsTaken takeJobs
  split
  · rfl
  cases hrec : state.recording.filter (awaitsBot jobID) with
  | some recState =>
      simp only [List.map_cons, List.map_nil, writeAll, jobWrite, Code.bind_assoc]
      refine congrArg _ (funext fun res => ?_)
      cases res <;> simp
  | none =>
      cases htr : state.transcription.filter (awaitsBot jobID) with
      | none => rfl
      | some trState =>
          simp only [botJoinsLiveCaptions_eq, List.map_append, writeAll_append,
            Code.bind_assoc]
          refine congrArg _ (funext fun res => ?_)
          cases res with
          | error e => simp
          | ok _ =>
              simp only [List.map_cons, List.map_nil, writeAll, jobWrite, Code.pure_eq,
                Code.ret_bind, Code.bind_assoc]
              refine congrArg _ (funext fun res => ?_)
              cases res <;> simp

/-- The refusals of the checks on the call and the job are not announced. -/
theorem announceRefusal_checkJoin {p : Plugin} {state : CallState} {r : JoinRequest}
    {channelID e : String} (h : checkJoin p state r.connID = .error e) :
    announceRefusal r channelID e = .ret () := by
  have hne : e ≠ errGroupCallsNotAllowed := by
    unfold checkJoin at h
    split at h
    · cases h; decide
    split at h
    · cases h; decide
    split at h
    · cases h; decide
    · cases h
  simp [announceRefusal, hne]

theorem announceRefusal_jobsOf {p : Plugin} {state : CallState} {r : JoinRequest}
    {channelID e : String} (h : jobsOf p state r = .error e) :
    announceRefusal r channelID e = .ret () := by
  have hne : e ≠ errGroupCallsNotAllowed := by
    unfold jobsOf jobsTaken at h
    repeat' split at h
    all_goals first | (cases h; decide) | cases h
  simp [announceRefusal, hne]

/-- The step of `addUserSession` for the bot. -/
theorem takeOver_eq (p : Plugin) (state : CallState) (r : JoinRequest) :
    (if r.userID = p.botID then botJoins state r.connID r.jobID else return .ok state) =
      match jobsOf p state r with
      | .error e => .ret (.error e)
      | .ok jobs => do
          match ← writeAll (jobs.map fun j => jobWrite (withBotConnID j r.connID)) with
          | .error e => return .error e
          | .ok _ => return .ok (withJobs p state r) := by
  unfold jobsOf withJobs
  by_cases hbot : r.userID = p.botID
  · simp only [hbot, if_true, botJoins_eq]
  · simp [hbot, writeAll]

theorem saveJoin_eq (env : Env) (state : CallState)
    (oldHostID userID connID channelID : String) :
    saveJoin env state oldHostID userID connID channelID = (do
      match ← writeAll [callWrite state,
        sessionWrite (newSession env state userID connID)] with
      | .error e => return .error e
      | .ok _ =>
          announceHost env oldHostID state channelID
          return .ok state) := by
  simp only [saveJoin, writeAll, Code.bind_assoc]
  refine congrArg _ (funext fun res => ?_)
  cases res with
  | error e => rfl
  | ok _ =>
      simp only [Code.bind_assoc]
      refine congrArg _ (funext fun res => ?_)
      cases res <;> rfl

/-- `addUserSession` is its checks and its writes. -/
theorem tryAddUserSession_eq (p : Plugin) (env : Env) (state : Option CallState)
    (r : JoinRequest) (channelID : String) : tryAddUserSession p env state r channelID =
      match joinChecks p env state r channelID with
      | .error e => do
          announceRefusal r channelID e
          return .error e
      | .ok (state, jobs) => do
          match ← writeAll (joinWrites p env state jobs r) with
          | .error e => return .error e
          | .ok _ =>
              announceHost env (withJobs p state r).call.getHostID
                (joined p env state r) channelID
              return .ok (joined p env state r) := by
  unfold tryAddUserSession joinChecks
  cases hcall : callToJoin p env state r channelID with
  | error e =>
      simp only [announceRefusal]
      split <;> rfl
  | ok st =>
      dsimp only
      cases hcheck : checkJoin p st r.connID with
      | error e => simp [announceRefusal_checkJoin hcheck]
      | ok _ =>
          dsimp only
          rw [takeOver_eq]
          cases hjobs : jobsOf p st r with
          | error e => simp [announceRefusal_jobsOf hjobs]
          | ok jobs =>
              simp only [joinWrites, writeAll_append, saveJoin_eq, Code.bind_assoc]
              refine congrArg _ (funext fun res => ?_)
              cases res with
              | error e => rfl
              | ok _ =>
                  simp only [Code.pure_eq, Code.ret_bind, joined]

/-- The call a join goes on with is the one it was given, or a new one. -/
theorem callToJoin_eq_ok {p : Plugin} {env : Env} {state : Option CallState}
    {r : JoinRequest} {channelID : String} {st : CallState}
    (h : callToJoin p env state r channelID = .ok st) :
    state = some st ∨
      state = none ∧ ∃ host, st = newCallState p env r.userID channelID host := by
  unfold callToJoin at h
  split at h
  · cases h; exact .inl rfl
  split at h
  · cases h
  split at h
  · split at h
    · cases h
    · cases h; exact .inr ⟨rfl, _, rfl⟩
  · cases h; exact .inr ⟨rfl, _, rfl⟩

end CallsPlugin.Ports
