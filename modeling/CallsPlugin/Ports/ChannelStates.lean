import CallsPlugin.Verified.Query
import CallsPlugin.Ports.State

/-!
# The calls of all channels (`server/api.go`)

`handleGetAllCallChannelStates` lists the channels with settings or a call that
the user can read.  It reads the settings of all channels and all active calls
and joins them in a map by channel.  Of several active calls in one channel the
map keeps the last one in the order of the query, which is the one that started
first; `GetActiveCallByChannelID` returns the one that started last.
-/

namespace CallsPlugin.Ports

open CallsPlugin.Verified
open CallsPlugin.Ports.Public CallsPlugin.Ports.Db

/-- `CallsChannel`, without its properties. -/
structure CallsChannel where
  channelID : String
  enabled : Bool
  deriving DecidableEq

/-- `ChannelMember`, as far as permissions depend on it. -/
structure ChannelMember where
  channelID : String
  userID : String
  roles : List String
  deriving DecidableEq

/-- What the server knows of channels, roles and permissions. -/
structure PermissionAPI where
  rolesGrantPermission : List String → String → Bool
  /-- the team of a channel -/
  getChannel : String → Option String
  hasPermissionToTeam : String → String → String → Bool
  hasPermissionTo : String → String → Bool

/-- `hasPermissionToChannel` -/
def hasPermissionToChannel (api : PermissionAPI) (cm : Option ChannelMember)
    (perm : String) : Bool :=
  match cm with
  | none => false
  | some cm =>
      if api.rolesGrantPermission cm.roles perm then true
      else match api.getChannel cm.channelID with
        | some teamID => api.hasPermissionToTeam cm.userID teamID perm
        | none => api.hasPermissionTo cm.userID perm

/-- `model.PermissionReadChannel` -/
def permissionReadChannel : String := "read_channel"

/-- The order in which a map of calls is gone through. -/
structure CallOrder where
  iter : List Call → List Call
  iter_perm : ∀ l, (iter l).Perm l

/-- An entry of the response. -/
structure ChannelState where
  channelID : String
  enabled : Option Bool
  call : Option CallStateClient
  deriving DecidableEq

/-- What the handler reads of the server and of the store. -/
structure ListingReads where
  getChannelMembersForUser : (page : Nat) → Except String (List ChannelMember)
  getAllCallsChannels : Except String (List CallsChannel)
  getAllActiveCalls : Except String (List Call)
  getCallStateFromCall : Call → Except String CallState

/-- `channelMembers[cm.ChannelId] = cm` -/
def setMember (members : String → Option ChannelMember) (cm : ChannelMember) :
    String → Option ChannelMember := Function.update members cm.channelID (some cm)

namespace ListingReads

/-- How many channel members are asked for at once. -/
def perPage : Nat := 200

/-- The memberships of the user, by channel; `pages` is how many pages may be asked
for. -/
def channelMembers (r : ListingReads) :
    (pages page : Nat) → (String → Option ChannelMember) →
    Except String (String → Option ChannelMember)
  | 0, _, _ => .error ""
  | pages + 1, page, members =>
      match r.getChannelMembersForUser page with
      | .error err => .error err
      | .ok cms =>
          let members := cms.foldl setMember members
          if cms.length < perPage then .ok members
          else r.channelMembers pages (page + 1) members

/-- The loop that selects the calls the user has access to. -/
def callsMap (readable : String → Bool) (calls : List Call) : Table Call.channelID :=
  calls.foldl (fun m call => if readable call.channelID then m.put call else m) .empty

/-- The loop on the channels; the calls that are left have no settings of their
channel. -/
def channelLoop (r : ListingReads) (env : Env) (readable : String → Bool)
    (botID userID : String) :
    List CallsChannel → Table Call.channelID → List ChannelState →
      Except String (List ChannelState × Table Call.channelID)
  | [], callsMap, data => .ok (data, callsMap)
  | ch :: rest, callsMap, data =>
      if readable ch.channelID then
        match callsMap.find? ch.channelID with
        | none =>
            r.channelLoop env readable botID userID rest callsMap
              (data ++ [⟨ch.channelID, some ch.enabled, none⟩])
        | some call =>
            match r.getCallStateFromCall call with
            | .error err => .error err
            | .ok cs =>
                r.channelLoop env readable botID userID rest
                  (callsMap.erase ch.channelID)
                  (data ++ [⟨ch.channelID, some ch.enabled,
                    some (cs.getClientState env botID userID)⟩])
      else r.channelLoop env readable botID userID rest callsMap data

/-- The loop on the calls that are left. -/
def callLoop (r : ListingReads) (env : Env) (botID userID : String) :
    List Call → List ChannelState → Except String (List ChannelState)
  | [], data => .ok data
  | call :: rest, data =>
      match r.getCallStateFromCall call with
      | .error err => .error err
      | .ok cs =>
          r.callLoop env botID userID rest
            (data ++
              [⟨call.channelID, none, some (cs.getClientState env botID userID)⟩])

/-- `handleGetAllCallChannelStates` -/
def handleGetAllCallChannelStates (r : ListingReads) (api : PermissionAPI) (env : Env)
    (order : CallOrder) (pages : Nat) (botID userID : String) :
    Except String (List ChannelState) :=
  match r.channelMembers pages 0 fun _ => none with
  | .error err => .error err
  | .ok members =>
      match r.getAllCallsChannels with
      | .error err => .error err
      | .ok channels =>
          match r.getAllActiveCalls with
          | .error err => .error err
          | .ok calls =>
              let readable := fun channelID =>
                hasPermissionToChannel api (members channelID) permissionReadChannel
              match r.channelLoop env readable botID userID channels
                  (callsMap readable calls) [] with
              | .error err => .error err
              | .ok (data, callsMap) =>
                  r.callLoop env botID userID (order.iter callsMap.rows) data

end ListingReads

/-! ## A server and a store that work -/

/-- The memberships of the user, the settings of channels and the store. -/
structure Listing where
  members : List ChannelMember
  channels : Table CallsChannel.channelID
  store : Store

namespace Listing

/-- What is read of them. -/
def reads (w : Listing) : ListingReads where
  getChannelMembersForUser page :=
    .ok ((w.members.drop (page * ListingReads.perPage)).take ListingReads.perPage)
  getAllCallsChannels := .ok w.channels.rows
  getAllActiveCalls := .ok w.store.getAllActiveCalls
  getCallStateFromCall call := .ok (stateOfCall w.store call)

/-- The user's membership in a channel; of several the last one. -/
def memberOf (w : Listing) (channelID : String) : Option ChannelMember :=
  w.members.foldl setMember (fun _ => none) channelID

/-- The user can read the channel. -/
def readable (w : Listing) (api : PermissionAPI) (channelID : String) : Bool :=
  hasPermissionToChannel api (w.memberOf channelID) permissionReadChannel

/-- The response to the user. -/
def response (w : Listing) (api : PermissionAPI) (env : Env) (order : CallOrder)
    (botID userID : String) : Except String (List ChannelState) :=
  w.reads.handleGetAllCallChannelStates api env order
    (w.members.length + 1) botID userID

/-- The call that a response shows in a channel. -/
def callIn (data : List ChannelState) (channelID : String) : Option CallStateClient :=
  (data.find? fun st => st.channelID = channelID).bind ChannelState.call

/-- Two servers differ only in settings and calls of channels that the user cannot
read. -/
structure SameFor (api : PermissionAPI) (w w' : Listing) : Prop where
  members : w'.members = w.members
  channels : (w'.channels.filter fun ch => w.readable api ch.channelID) =
    w.channels.filter fun ch => w.readable api ch.channelID
  calls : (w'.store.calls.filter fun c => w.readable api c.channelID) =
    w.store.calls.filter fun c => w.readable api c.channelID
  sessions : ∀ c ∈ w.store.calls, w.readable api c.channelID = true →
    (w'.store.sessions.filter fun r => r.callID = c.id) =
      w.store.sessions.filter fun r => r.callID = c.id
  jobs : ∀ c ∈ w.store.calls, w.readable api c.channelID = true →
    (w'.store.jobs.filter fun j => j.callID = c.id) = w.store.jobs.filter fun j =>
      j.callID = c.id

/-- No channel that the user can read has two active calls. -/
def OneCall (w : Listing) (api : PermissionAPI) : Prop :=
  ∀ c ∈ w.store.calls, ∀ c' ∈ w.store.calls, w.readable api c.channelID = true →
    c'.channelID = c.channelID → Active c → Active c' → c' = c

/-! ## The memberships -/

theorem channelMembers_eq (w : Listing) (pages page : Nat)
    (members : String → Option ChannelMember)
    (h : w.members.length < (pages + page) * ListingReads.perPage)
    (hpages : 0 < pages) :
    w.reads.channelMembers pages page members = .ok ((w.members.drop
      (page * ListingReads.perPage)).foldl setMember members) := by
  induction pages generalizing page members with
  | zero => exact absurd hpages (Nat.lt_irrefl 0)
  | succ pages ih =>
      show (if ((w.members.drop (page * ListingReads.perPage)).take
          ListingReads.perPage).length < ListingReads.perPage then _ else _) = _
      have hsplit := List.take_append_drop ListingReads.perPage
        (w.members.drop (page * ListingReads.perPage))
      split
      · next hlast =>
        have hall : (w.members.drop (page * ListingReads.perPage)).take
            ListingReads.perPage = w.members.drop (page * ListingReads.perPage) := by
          apply List.take_of_length_le
          rw [List.length_take] at hlast
          omega
        rw [hall]
      · next hfull =>
        rw [List.length_take, List.length_drop] at hfull
        have hnext : (w.members.drop (page * ListingReads.perPage)).drop
            ListingReads.perPage =
            w.members.drop ((page + 1) * ListingReads.perPage) := by
          rw [List.drop_drop]
          congr 1
          unfold ListingReads.perPage
          omega
        have hmore : 0 < pages := by
          unfold ListingReads.perPage at h hfull
          omega
        rw [ih (page + 1) _ (by unfold ListingReads.perPage at h ⊢; omega) hmore]
        conv_rhs => rw [← hsplit, List.foldl_append, hnext]

/-- All memberships are read. -/
theorem channelMembers_reads (w : Listing) :
    w.reads.channelMembers (w.members.length + 1) 0 (fun _ => none) =
    .ok w.memberOf := by
  have h : w.members.length < (w.members.length + 1 + 0) * ListingReads.perPage := by
    unfold ListingReads.perPage
    omega
  rw [channelMembers_eq w _ 0 _ h (Nat.succ_pos _), Nat.zero_mul, List.drop_zero]
  rfl

/-! ## The active calls -/

instance : Std.Total byStartAt where
  total a b := by
    unfold byStartAt
    obtain hlt | heq | hgt := Int.lt_trichotomy a.startAt b.startAt
    · exact .inr (.inl hlt)
    · obtain hid | hid := String.le_total a.id b.id
      · exact .inl (.inr ⟨heq, hid⟩)
      · exact .inr (.inr ⟨heq.symm, hid⟩)
    · exact .inl (.inl hgt)

instance : IsTrans Call byStartAt where
  trans a b c := by
    unfold byStartAt
    intro hab hbc
    obtain hlt | ⟨heq, hid⟩ := hab
    · left
      omega
    · obtain hlt | ⟨heq', hid'⟩ := hbc
      · left
        omega
      · exact .inr ⟨heq.trans heq', String.le_trans hid hid'⟩

/-- The order of the queries tells the calls of a table apart. -/
theorem byStartAt_antisymm (t : Table Call.id) :
    ∀ a ∈ t.rows, ∀ b ∈ t.rows, byStartAt a b → byStartAt b a → a = b := by
  intro a ha b hb hab hba
  apply t.eq_of_key_eq ha hb
  unfold byStartAt at hab hba
  obtain hlt | ⟨heq, hid⟩ := hab
  · obtain hlt' | ⟨heq', -⟩ := hba
    · omega
    · omega
  · obtain hlt' | ⟨-, hid'⟩ := hba
    · omega
    · exact String.le_antisymm hid hid'

/-- The active calls of a channel, in the order of the queries. -/
def activeIn (s : Store) (channelID : String) : List Call :=
  (s.calls.select fun c => c.channelID = channelID ∧ Active c).insertionSort byStartAt

theorem mem_activeIn {s : Store} {channelID : String} {c : Call} :
    c ∈ activeIn s channelID ↔ c ∈ s.calls ∧ c.channelID = channelID ∧ Active c := by
  unfold activeIn
  rw [List.mem_insertionSort, Table.mem_select, decide_eq_true_eq]

theorem filter_getAllActiveCalls (s : Store) (p : Call → Bool) :
    s.getAllActiveCalls.filter p =
      ((s.calls.filter p).select fun c => Active c).insertionSort
      byStartAt := by
  have hanti : ∀ a ∈ s.calls.select fun c => Active c,
      ∀ b ∈ s.calls.select fun c => Active c,
      byStartAt a b → byStartAt b a → a = b := fun a ha b hb =>
    byStartAt_antisymm s.calls a (Table.mem_select.1 ha).1 b (Table.mem_select.1 hb).1
  unfold Store.getAllActiveCalls
  rw [filter_insertionSort byStartAt p hanti]
  congr 1
  show (s.calls.rows.filter _).filter p = (s.calls.rows.filter p).filter _
  rw [List.filter_filter, List.filter_filter]
  apply List.filter_congr
  intro c _
  exact Bool.and_comm _ _

theorem filter_channel (s : Store) (channelID : String) :
    (s.getAllActiveCalls.filter fun c => c.channelID = channelID) =
    activeIn s channelID := by
  rw [filter_getAllActiveCalls]
  unfold activeIn
  congr 1
  show (s.calls.rows.filter _).filter _ = s.calls.rows.filter _
  rw [List.filter_filter]
  apply List.filter_congr
  intro c _
  rw [Bool.and_comm, ← Bool.decide_and]

theorem callsMap_eq (readable : String → Bool) (calls : List Call) :
    ListingReads.callsMap readable calls =
      (calls.filter fun c => readable c.channelID).foldl Table.put .empty := by
  unfold ListingReads.callsMap
  rw [List.foldl_filter]

/-- The map keeps the last active call of a readable channel. -/
theorem find?_callsMap (s : Store) {readable : String → Bool} {channelID : String}
    (h : readable channelID = true) :
    (ListingReads.callsMap readable s.getAllActiveCalls).find? channelID =
      (activeIn s channelID).getLast? := by
  have hempty : (Table.empty : Table Call.channelID).find? channelID = none := rfl
  rw [callsMap_eq, Table.find?_foldl_put, hempty, Option.or_none, ← filter_channel,
    List.filter_filter]
  congr 1
  apply List.filter_congr
  intro c _
  by_cases hc : c.channelID = channelID
  · rw [hc, h, Bool.and_true]
  · rw [decide_eq_false hc, Bool.false_and]

theorem mem_callsMap {s : Store} {readable : String → Bool} {c : Call}
    (h : c ∈ ListingReads.callsMap readable s.getAllActiveCalls) :
    c ∈ s.calls ∧ readable c.channelID = true := by
  have hfind := Table.find?_eq_some.2 ⟨h, rfl⟩
  have hempty : (Table.empty : Table Call.channelID).find? c.channelID = none := rfl
  rw [callsMap_eq, Table.find?_foldl_put, hempty, Option.or_none] at hfind
  have hmem := List.mem_of_mem_filter (List.mem_of_getLast? hfind)
  obtain ⟨hall, hreadable⟩ := List.mem_filter.1 hmem
  refine ⟨?_, hreadable⟩
  unfold Store.getAllActiveCalls at hall
  rw [List.mem_insertionSort, Table.mem_select] at hall
  exact hall.1

/-! ## The response -/

section

variable (w : Listing) (api : PermissionAPI) (env : Env) (order : CallOrder)
  (botID userID : String)

/-- A call as it is shown to the user. -/
def clientCall (call : Call) : CallStateClient :=
  (stateOfCall w.store call).getClientState env botID userID

/-- The calls the user has access to, by channel. -/
def accessible : Table Call.channelID :=
  ListingReads.callsMap (w.readable api) w.store.getAllActiveCalls

/-- The channels with settings that the user can read. -/
def settings : List CallsChannel :=
  w.channels.rows.filter fun ch => w.readable api ch.channelID

/-- The entry of a channel with settings. -/
def channelEntry (calls : Table Call.channelID) (ch : CallsChannel) : ChannelState :=
  ⟨ch.channelID, some ch.enabled,
    (calls.find? ch.channelID).map (w.clientCall env botID userID)⟩

/-- The entry of a call in a channel without settings. -/
def callEntry (call : Call) : ChannelState :=
  ⟨call.channelID, none, some (w.clientCall env botID userID call)⟩

/-- The calls in channels of which none has settings. -/
def withoutSettings (calls : Table Call.channelID) (channels : List CallsChannel) :
    Table Call.channelID :=
  calls.filter fun c => !channels.any fun ch => ch.channelID = c.channelID

/-- The entries of the response. -/
def listed : List ChannelState :=
  (w.settings api).map (w.channelEntry env botID userID (w.accessible api)) ++
    (order.iter (withoutSettings (w.accessible api) (w.settings api)).rows).map
      (w.callEntry env botID userID)

variable {w api env order botID userID}

theorem withoutSettings_cons (calls : Table Call.channelID) (ch : CallsChannel)
    (rest : List CallsChannel) :
    withoutSettings (calls.erase ch.channelID) rest =
    withoutSettings calls (ch :: rest) := by
  apply Table.ext
  show (calls.rows.filter _).filter _ = calls.rows.filter _
  rw [List.filter_filter]
  apply List.filter_congr
  intro c _
  by_cases h : ch.channelID = c.channelID
  · simp [h]
  · simp [h, Ne.symm h]

theorem channelLoop_eq (channels : List CallsChannel)
    (hnodup : (channels.map CallsChannel.channelID).Nodup)
    (calls : Table Call.channelID) (data : List ChannelState) :
    w.reads.channelLoop env (w.readable api) botID userID channels calls data =
      .ok (data ++ (channels.filter fun ch => w.readable api ch.channelID).map
          (w.channelEntry env botID userID calls),
        withoutSettings calls
          (channels.filter fun ch => w.readable api ch.channelID)) := by
  induction channels generalizing calls data with
  | nil =>
      have hall : withoutSettings calls [] = calls :=
        Table.filter_eq_self fun _ _ => rfl
      show Except.ok (data, calls) = .ok (data ++ [], withoutSettings calls [])
      rw [hall, List.append_nil]
  | cons ch rest ih =>
      rw [List.map_cons, List.nodup_cons] at hnodup
      obtain ⟨hfresh, hrest⟩ := hnodup
      show (if w.readable api ch.channelID = true then _ else _) = _
      by_cases hreadable : w.readable api ch.channelID = true
      · have hothers : ((rest.filter fun ch => w.readable api ch.channelID).map
            (w.channelEntry env botID userID (calls.erase ch.channelID))) =
            (rest.filter fun ch => w.readable api ch.channelID).map
              (w.channelEntry env botID userID calls) := by
          apply List.map_congr_left
          intro ch' hch'
          have hne : ch'.channelID ≠ ch.channelID := fun heq =>
            hfresh (heq ▸ List.mem_map_of_mem (List.mem_of_mem_filter hch'))
          unfold channelEntry
          rw [Table.find?_erase, if_neg hne]
        have hloop : ∀ calls', (∀ ch', w.channelEntry env botID userID calls' ch' =
              w.channelEntry env botID userID (calls.erase ch.channelID) ch') →
            withoutSettings calls' (rest.filter fun ch => w.readable api ch.channelID) =
              withoutSettings (calls.erase ch.channelID)
                (rest.filter fun ch => w.readable api ch.channelID) →
            w.reads.channelLoop env (w.readable api) botID userID rest calls'
                (data ++ [w.channelEntry env botID userID calls ch]) =
              .ok (data ++ ((ch :: rest).filter fun ch =>
                  w.readable api ch.channelID).map
                  (w.channelEntry env botID userID calls),
                withoutSettings calls
                  ((ch :: rest).filter fun ch => w.readable api ch.channelID)) := by
          intro calls' hentries hleft
          have hfilter : ((ch :: rest).filter fun ch => w.readable api ch.channelID) =
              ch :: rest.filter fun ch => w.readable api ch.channelID :=
            List.filter_cons_of_pos hreadable
          rw [ih hrest, hleft, withoutSettings_cons, hfilter, List.map_cons,
            List.map_congr_left fun ch' _ => hentries ch', hothers, List.append_assoc]
          rfl
        rw [if_pos hreadable]
        cases hfind : calls.find? ch.channelID with
        | none =>
            have hself : calls.erase ch.channelID = calls := by
              apply Table.filter_eq_self
              intro c hc
              exact decide_eq_true (Table.find?_eq_none.1 hfind c hc)
            have hentry : w.channelEntry env botID userID calls ch =
                ⟨ch.channelID, some ch.enabled, none⟩ := by
              unfold channelEntry
              rw [hfind]
              rfl
            rw [← hentry]
            exact hloop calls (fun ch' => by rw [hself]) (by rw [hself])
        | some call =>
            have hentry : w.channelEntry env botID userID calls ch =
                ⟨ch.channelID, some ch.enabled,
                some (w.clientCall env botID userID call)⟩ := by
              unfold channelEntry
              rw [hfind]
              rfl
            have hnext := hloop (calls.erase ch.channelID) (fun _ => rfl) rfl
            rw [hentry] at hnext
            exact hnext
      · have hfilter : ((ch :: rest).filter fun ch => w.readable api ch.channelID) =
            rest.filter fun ch => w.readable api ch.channelID :=
          List.filter_cons_of_neg hreadable
        rw [if_neg hreadable, ih hrest, hfilter]

theorem callLoop_eq (calls : List Call) (data : List ChannelState) :
    w.reads.callLoop env botID userID calls data =
      .ok (data ++ calls.map (w.callEntry env botID userID)) := by
  induction calls generalizing data with
  | nil =>
      show Except.ok data = .ok (data ++ [])
      rw [List.append_nil]
  | cons call rest ih =>
      show w.reads.callLoop env botID userID rest
        (data ++ [w.callEntry env botID userID call]) = _
      rw [ih, List.append_assoc]
      rfl

/-- What the handler responds. -/
theorem response_eq : w.response api env order botID userID = .ok
    (w.listed api env order botID userID) := by
  unfold response ListingReads.handleGetAllCallChannelStates
  rw [channelMembers_reads]
  show (match w.reads.channelLoop env (w.readable api) botID userID w.channels.rows
      (w.accessible api) [] with
    | .error err => Except.error err
    | .ok (data, callsMap) =>
        w.reads.callLoop env botID userID (order.iter callsMap.rows) data) = _
  rw [channelLoop_eq w.channels.rows w.channels.nodup]
  exact callLoop_eq _ _

/-! ## Every channel at most once -/

theorem mem_listed {st : ChannelState} (h : st ∈ w.listed api env order botID userID) :
    (∃ ch ∈ w.channels, w.readable api ch.channelID = true ∧
        w.channelEntry env botID userID (w.accessible api) ch = st) ∨
      ∃ call ∈ w.accessible api,
          (∀ ch ∈ w.channels, w.readable api ch.channelID = true →
          ch.channelID ≠ call.channelID) ∧ w.callEntry env botID userID call = st := by
  obtain hset | hcall := List.mem_append.1 h
  · obtain ⟨ch, hch, hst⟩ := List.mem_map.1 hset
    obtain ⟨hrow, hreadable⟩ := List.mem_filter.1 hch
    exact .inl ⟨ch, hrow, hreadable, hst⟩
  · obtain ⟨call, hcall, hst⟩ := List.mem_map.1 hcall
    obtain ⟨hacc, hnone⟩ := List.mem_filter.1 ((order.iter_perm _).mem_iff.1 hcall)
    refine .inr ⟨call, hacc, ?_, hst⟩
    intro ch hrow hreadable heq
    rw [Bool.not_eq_true', List.any_eq_false] at hnone
    exact hnone ch (List.mem_filter.2 ⟨hrow, hreadable⟩) (decide_eq_true heq)

theorem mem_listed_channel {ch : CallsChannel} (hrow : ch ∈ w.channels)
    (hreadable : w.readable api ch.channelID = true) :
    w.channelEntry env botID userID (w.accessible api) ch ∈ w.listed api env order
      botID userID :=
  List.mem_append_left _ (List.mem_map_of_mem (List.mem_filter.2 ⟨hrow, hreadable⟩))

theorem mem_listed_call {call : Call} (hacc : call ∈ w.accessible api)
    (hnone : ∀ ch ∈ w.channels, w.readable api ch.channelID = true →
      ch.channelID ≠ call.channelID) :
    w.callEntry env botID userID call ∈ w.listed api env order botID userID := by
  apply List.mem_append_right
  apply List.mem_map_of_mem
  apply (order.iter_perm _).mem_iff.2
  refine List.mem_filter.2 ⟨hacc, ?_⟩
  rw [Bool.not_eq_true', List.any_eq_false]
  intro ch hch
  obtain ⟨hrow, hreadable⟩ := List.mem_filter.1 hch
  simpa using hnone ch hrow hreadable

/-- The response only has channels that the user can read. -/
theorem readable_of_listed {st : ChannelState}
    (h : st ∈ w.listed api env order botID userID) :
    w.readable api st.channelID = true := by
  obtain ⟨ch, -, hreadable, rfl⟩ | ⟨call, hacc, -, rfl⟩ := mem_listed h
  · exact hreadable
  · exact (mem_callsMap hacc).2

/-- The response has every channel at most once. -/
theorem listed_nodup :
    ((w.listed api env order botID userID).map ChannelState.channelID).Nodup := by
  unfold listed
  rw [List.map_append, List.map_map, List.map_map]
  show (((w.settings api).map CallsChannel.channelID) ++
    (order.iter (withoutSettings (w.accessible api) (w.settings api)).rows).map
      Call.channelID).Nodup
  rw [List.nodup_append]
  refine ⟨?_, ?_, ?_⟩
  · exact (List.filter_sublist.map _).nodup w.channels.nodup
  · have hperm :=
      (order.iter_perm (withoutSettings (w.accessible api) (w.settings api)).rows).map
      Call.channelID
    exact hperm.nodup_iff.2 (withoutSettings (w.accessible api) (w.settings api)).nodup
  · intro id hid id' hid'
    obtain ⟨ch, hch, rfl⟩ := List.mem_map.1 hid
    obtain ⟨call, hcall, rfl⟩ := List.mem_map.1 hid'
    obtain ⟨-, hnone⟩ := List.mem_filter.1 ((order.iter_perm _).mem_iff.1 hcall)
    rw [Bool.not_eq_true', List.any_eq_false] at hnone
    simpa using hnone ch hch

/-! ## Which call is shown -/

theorem callIn_eq {data : List ChannelState}
    (hnodup : (data.map ChannelState.channelID).Nodup)
    {st : ChannelState} (h : st ∈ data) : callIn data st.channelID = st.call := by
  have hfind :=
    (Table.find?_eq_some (t := (⟨data, hnodup⟩ : Table ChannelState.channelID))).2
      ⟨h, rfl⟩
  unfold callIn
  rw [show (data.find? fun st' => st'.channelID = st.channelID) = some st from hfind]
  rfl

theorem callIn_eq_none {data : List ChannelState} {channelID : String}
    (h : ∀ st ∈ data, st.channelID ≠ channelID) : callIn data channelID = none := by
  unfold callIn
  rw [List.find?_eq_none.2 fun st hst => by simpa using h st hst]
  rfl

/-- The call that is shown in a readable channel is its last active call. -/
theorem callIn_listed {channelID : String} (h : w.readable api channelID = true) :
    callIn (w.listed api env order botID userID) channelID =
      (activeIn w.store channelID).getLast?.map (w.clientCall env botID userID) := by
  have hfind : (w.accessible api).find? channelID =
      (activeIn w.store channelID).getLast? :=
    find?_callsMap w.store h
  by_cases hset : ∃ ch ∈ w.channels, ch.channelID = channelID
  · obtain ⟨ch, hrow, rfl⟩ := hset
    have hentry : w.channelEntry env botID userID (w.accessible api) ch ∈
        w.listed api env order botID userID := mem_listed_channel hrow h
    rw [← hfind]
    exact callIn_eq listed_nodup hentry
  · have hnone : ∀ ch ∈ w.channels, w.readable api ch.channelID = true →
        ch.channelID ≠ channelID := fun ch hrow _ heq => hset ⟨ch, hrow, heq⟩
    rw [← hfind]
    cases hcall : (w.accessible api).find? channelID with
    | none =>
        apply callIn_eq_none
        intro st hst heq
        obtain ⟨ch, hrow, -, rfl⟩ | ⟨call, hacc, -, rfl⟩ := mem_listed hst
        · exact hset ⟨ch, hrow, heq⟩
        · exact Table.find?_eq_none.1 hcall call hacc heq
    | some call =>
        obtain ⟨hacc, rfl⟩ := Table.find?_eq_some.1 hcall
        exact callIn_eq listed_nodup (mem_listed_call hacc hnone)

/-! ## What the response depends on -/

section SameFor

variable {w' : Listing}

theorem SameFor.readable (h : SameFor api w w') : w'.readable api = w.readable api := by
  funext channelID
  unfold Listing.readable memberOf
  rw [h.members]

theorem SameFor.settings (h : SameFor api w w') : w'.settings api = w.settings api := by
  unfold Listing.settings
  rw [h.readable]
  exact congrArg Table.rows h.channels

theorem SameFor.accessible (h : SameFor api w w') :
    w'.accessible api = w.accessible api := by
  unfold Listing.accessible
  rw [callsMap_eq, callsMap_eq, filter_getAllActiveCalls, filter_getAllActiveCalls,
    h.readable, h.calls]

theorem select_jobs {s s' : Store} {callID : String}
    (h : (s'.jobs.filter fun j => j.callID = callID) = s.jobs.filter fun j =>
      j.callID = callID)
    (type : JobType) : s'.getActiveCallJobs callID type =
    s.getActiveCallJobs callID type := by
  have hselect : ∀ s : Store, (s.jobs.select fun j => j.callID = callID ∧ j.endAt = 0) =
      (s.jobs.filter fun j => j.callID = callID).rows.filter fun j => j.endAt = 0 := by
    intro s
    show s.jobs.rows.filter _ = (s.jobs.rows.filter _).filter _
    rw [List.filter_filter]
    apply List.filter_congr
    intro j _
    rw [Bool.and_comm, ← Bool.decide_and]
  unfold Store.getActiveCallJobs
  rw [hselect, hselect, h]

theorem SameFor.clientCall (h : SameFor api w w') {call : Call}
    (hacc : call ∈ w.accessible api) :
    w'.clientCall env botID userID call = w.clientCall env botID userID call := by
  obtain ⟨hcall, hreadable⟩ := mem_callsMap hacc
  have hsessions : w'.store.getCallSessions call.id = w.store.getCallSessions call.id :=
    h.sessions call hcall hreadable
  have hjobs := select_jobs (h.jobs call hcall hreadable)
  unfold Listing.clientCall stateOfCall
  rw [hsessions, hjobs, hjobs, hjobs]

/-- **Nothing leaks**: servers that differ only in what the user cannot read respond
alike. -/
theorem SameFor.listed (h : SameFor api w w') :
    w'.listed api env order botID userID = w.listed api env order botID userID := by
  unfold Listing.listed
  rw [h.settings, h.accessible]
  congr 1
  · apply List.map_congr_left
    intro ch _
    unfold channelEntry
    cases hfind : (w.accessible api).find? ch.channelID with
    | none => rfl
    | some call =>
        show (⟨_, _, some _⟩ : ChannelState) = ⟨_, _, some _⟩
        rw [h.clientCall (Table.find?_eq_some.1 hfind).1]
  · apply List.map_congr_left
    intro call hcall
    have hacc := List.mem_of_mem_filter ((order.iter_perm _).mem_iff.1 hcall)
    unfold callEntry
    rw [h.clientCall hacc]

end SameFor

/-! ## The claim about the list -/

/-- What is expected of a response: it has every channel that the user can read at most
once, depends on nothing else, and shows the call that a query for the channel finds. -/
structure Agrees (w : Listing) (api : PermissionAPI) (env : Env) (order : CallOrder)
    (botID userID : String) (data : List ChannelState) : Prop where
  nodup : (data.map ChannelState.channelID).Nodup
  readable : ∀ st ∈ data, w.readable api st.channelID = true
  noLeak : ∀ w', SameFor api w w' → w'.response api env order botID userID = .ok data
  calls : ∀ channelID, w.readable api channelID = true → callIn data channelID =
    (storedState w.store channelID).map fun st => st.getClientState env botID userID

theorem storedState_eq (channelID : String) :
    ((storedState w.store channelID).map fun st => st.getClientState env botID userID) =
      (activeIn w.store channelID).head?.map (w.clientCall env botID userID) := by
  unfold storedState
  rw [Option.map_map]
  rfl

theorem activeIn_nodup (s : Store) (channelID : String) :
    (activeIn s channelID).Nodup := by
  have hrows : s.calls.rows.Nodup := List.Nodup.of_map _ s.calls.nodup
  exact (List.perm_insertionSort _ _).nodup_iff.2 (hrows.filter _)

/-- The first and the last active call of a channel are shown alike only if they are the
same. -/
theorem map_clientCall_inj {channelID : String}
    (h : (activeIn w.store channelID).getLast?.map (w.clientCall env botID userID) =
      (activeIn w.store channelID).head?.map (w.clientCall env botID userID)) :
    (activeIn w.store channelID).head? = (activeIn w.store channelID).getLast? := by
  cases hlast : (activeIn w.store channelID).getLast? with
  | none =>
      rw [List.getLast?_eq_none_iff.1 hlast]
      rfl
  | some c =>
    cases hhead : (activeIn w.store channelID).head? with
    | none =>
        rw [List.head?_eq_none_iff.1 hhead] at hlast
        cases hlast
    | some c' =>
        rw [hlast, hhead] at h
        have hid : c.id = c'.id := congrArg CallStateClient.id (Option.some.inj h)
        have hc := (mem_activeIn.1 (List.mem_of_getLast? hlast)).1
        have hc' := (mem_activeIn.1 (List.mem_of_mem_head? hhead)).1
        rw [w.store.calls.eq_of_key_eq hc' hc hid.symm]

/-- **The list of all calls** shows what queries for the channels show, and no more,
exactly if no readable channel has two active calls. -/
theorem response_agrees_iff (w : Listing) (api : PermissionAPI) (env : Env)
    (order : CallOrder) (botID userID : String) :
    (∃ data, w.response api env order botID userID = .ok data ∧
      w.Agrees api env order botID userID data) ↔ w.OneCall api := by
  constructor
  · intro ⟨data, hdata, hagrees⟩
    rw [response_eq] at hdata
    obtain rfl := Except.ok.inj hdata
    intro c hc c' hc' hreadable hchannel hactive hactive'
    have hcalls := hagrees.calls c.channelID hreadable
    rw [callIn_listed hreadable, storedState_eq] at hcalls
    have hone := (head?_eq_getLast?_iff (activeIn_nodup w.store c.channelID)).1
      (map_clientCall_inj hcalls)
    exact hone c' (mem_activeIn.2 ⟨hc', hchannel, hactive'⟩) c
      (mem_activeIn.2 ⟨hc, rfl, hactive⟩)
  · intro hone
    refine ⟨_, response_eq, listed_nodup, fun st hst => readable_of_listed hst, ?_, ?_⟩
    · intro w' hsame
      rw [response_eq, hsame.listed]
    · intro channelID hreadable
      rw [callIn_listed hreadable, storedState_eq]
      congr 1
      apply Eq.symm
      apply (head?_eq_getLast?_iff (activeIn_nodup w.store channelID)).2
      intro c hc c' hc'
      obtain ⟨hrow, hchannel, hactive⟩ := mem_activeIn.1 hc
      obtain ⟨hrow', hchannel', hactive'⟩ := mem_activeIn.1 hc'
      exact hone c' hrow' c hrow (hchannel'.symm ▸ hreadable)
        (hchannel.trans hchannel'.symm) hactive' hactive

end

/-! ## Two calls in one channel -/

/-- A server that lets members read their channels. -/
def memberAPI : PermissionAPI :=
  ⟨fun _ _ => true, fun _ => none, fun _ _ _ => false, fun _ _ => false⟩

/-- A map gone through in the order it was filled. -/
def inOrder : CallOrder := ⟨id, fun l => List.Perm.refl l⟩

/-- Two calls are active in Alice's channel. -/
def twoCalls : Listing where
  members := [⟨"chan", "alice", ["channel_user"]⟩]
  channels := .empty
  store := { sampleStore with
    calls := ⟨[{ sampleCall with id := "first", startAt := 10 },
      { sampleCall with id := "second", startAt := 20 }], by decide⟩ }

/-- The list shows the first call, the query for the channel the second. -/
theorem twoCalls_listed :
    (∃ data, twoCalls.response memberAPI (.sample 30) inOrder "bot" "alice" = .ok data ∧
      (callIn data "chan").map CallStateClient.id = some "first") ∧
    (twoCalls.store.getActiveCallByChannelID "chan").map Call.id = some "second" ∧
    ¬ ∃ data, twoCalls.response memberAPI (.sample 30) inOrder "bot" "alice" =
      .ok data ∧ twoCalls.Agrees memberAPI (.sample 30) inOrder "bot" "alice" data := by
  have hreadable : twoCalls.readable memberAPI "chan" = true := by decide
  have hlast : ((activeIn twoCalls.store "chan").getLast?.map
      (twoCalls.clientCall (.sample 30) "bot" "alice")).map CallStateClient.id =
      some "first" := by
    decide
  have hquery : ((storedState twoCalls.store "chan").map fun st =>
      st.getClientState (.sample 30) "bot" "alice").map CallStateClient.id =
          some "second" := by
    decide
  refine ⟨⟨_, response_eq, ?_⟩, by decide, ?_⟩
  · rw [callIn_listed hreadable]
    exact hlast
  · intro ⟨data, hdata, hagrees⟩
    rw [response_eq] at hdata
    obtain rfl := Except.ok.inj hdata
    have hcalls := hagrees.calls "chan" hreadable
    rw [callIn_listed hreadable] at hcalls
    rw [hcalls, hquery] at hlast
    exact absurd hlast (by decide)

end Listing

end CallsPlugin.Ports
