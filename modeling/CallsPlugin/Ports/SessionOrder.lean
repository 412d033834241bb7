import CallsPlugin.Verified.Ranking
import CallsPlugin.Ports.ClientSessions

/-!
# The order of the participants (`stateSortSessions` in `webapp/src/utils.ts`)

The comparator goes through the attributes one by one, and returns at the first that
tells two sessions apart.  All of it together is a rank: a group, and a time within the
group.
-/

namespace CallsPlugin.Ports.ClientSessions

open CallsPlugin.Verified

/-- `raised_hand`; zero, or no attribute, is a hand that is not raised. -/
def UserSessionState.hand (s : UserSessionState) : Int := s.raisedHand.getD 0

/-- `unmuted`, as a condition -/
def UserSessionState.speaks (s : UserSessionState) : Bool := s.unmuted.getD false

/-- `stateSortSessions` -/
def stateSortSessions (presenterID : String) (considerReaction : Bool)
    (stateA stateB : UserSessionState) : Int :=
  if stateA.sessionID = some presenterID then -1
  else if stateB.sessionID = some presenterID then 1
  else if stateA.hand ≠ 0 ∧ stateB.hand = 0 then -1
  else if stateB.hand ≠ 0 ∧ stateA.hand = 0 then 1
  else if stateA.hand ≠ 0 ∧ stateB.hand ≠ 0 then stateA.hand - stateB.hand
  else if stateA.speaks = true ∧ stateB.speaks = false then -1
  else if stateB.speaks = true ∧ stateA.speaks = false then 1
  else if considerReaction = true then
    match stateA.reaction, stateB.reaction with
    | some _, none => -1
    | none, some _ => 1
    | some reactionA, some reactionB => reactionA.timestamp - reactionB.timestamp
    | none, none => 0
  else 0

/-- `sessions.sort(stateSortSessions(presenterID, considerReaction))`; the sort is
stable. -/
def sortSessions (presenterID : String) (considerReaction : Bool)
    (l : List UserSessionState) :
    List UserSessionState :=
  l.mergeSort fun a b => decide (stateSortSessions presenterID considerReaction a b ≤ 0)

/-! ## The rank of a session -/

/-- The reaction of a session that is considered. -/
def UserSessionState.shown (considerReaction : Bool) (s : UserSessionState) :
    Option Reaction :=
  if considerReaction = true then s.reaction else none

/-- The groups: the presenter, raised hands, and the unmuted and the muted, each with a
reaction or without. -/
def group (presenterID : String) (considerReaction : Bool) (s : UserSessionState) :
    Nat :=
  if s.sessionID = some presenterID then 0
  else if s.hand ≠ 0 then 1
  else (if s.speaks = true then 2 else 4) + if (s.shown considerReaction).isSome then
    0 else 1

/-- The time that counts in the group. -/
def time (presenterID : String) (considerReaction : Bool) (s : UserSessionState) :
    Int :=
  if s.sessionID = some presenterID then 0
  else if s.hand ≠ 0 then s.hand
  else ((s.shown considerReaction).map (·.timestamp)).getD 0

/-- The rank of a session: its group, and its time there. -/
def standing (presenterID : String) (considerReaction : Bool) (s : UserSessionState) :
    Nat ×ₗ Int :=
  toLex (group presenterID considerReaction s, time presenterID considerReaction s)

variable {presenterID : String} (considerReaction : Bool) {s a b : UserSessionState}

theorem group_presenter (hid : s.sessionID = some presenterID) :
    group presenterID considerReaction s = 0 := if_pos hid

theorem group_raised (hid : s.sessionID ≠ some presenterID) (hhand : s.hand ≠ 0) :
    group presenterID considerReaction s = 1 := by
  simp [group, hid, hhand]

theorem group_lowered (hid : s.sessionID ≠ some presenterID) (hhand : s.hand = 0) :
    group presenterID considerReaction s =
      (if s.speaks = true then 2 else 4) +
      if (s.shown considerReaction).isSome then 0 else 1 := by
  simp [group, hid, hhand]

theorem one_lt_group_lowered (hid : s.sessionID ≠ some presenterID)
    (hhand : s.hand = 0) :
    1 < group presenterID considerReaction s := by
  rw [group_lowered considerReaction hid hhand]
  split <;> omega

theorem group_pos (hid : s.sessionID ≠ some presenterID) :
    0 < group presenterID considerReaction s := by
  by_cases hhand : s.hand = 0
  · exact Nat.lt_of_succ_lt (one_lt_group_lowered considerReaction hid hhand)
  · rw [group_raised considerReaction hid hhand]
    exact Nat.one_pos

theorem time_raised (hid : s.sessionID ≠ some presenterID) (hhand : s.hand ≠ 0) :
    time presenterID considerReaction s = s.hand := by
  simp [time, hid, hhand]

theorem time_lowered (hid : s.sessionID ≠ some presenterID) (hhand : s.hand = 0) :
    time presenterID considerReaction s =
    ((s.shown considerReaction).map (·.timestamp)).getD 0 := by
  simp [time, hid, hhand]

/-! ## The comparator and the rank -/

variable {considerReaction}

theorem before_of_group
    (h : group presenterID considerReaction a < group presenterID considerReaction b) :
    Tells (-1) (standing presenterID considerReaction a)
      (standing presenterID considerReaction b) :=
  .before (Prod.Lex.toLex_lt_toLex.2 (.inl h))

theorem after_of_group
    (h : group presenterID considerReaction b < group presenterID considerReaction a) :
    Tells 1 (standing presenterID considerReaction a)
      (standing presenterID considerReaction b) :=
  .after (Prod.Lex.toLex_lt_toLex.2 (.inl h))

/-- In one group, the times are compared. -/
theorem tells_of_time {n : Int}
    (hgroup : group presenterID considerReaction a =
      group presenterID considerReaction b)
    (h : Tells n (time presenterID considerReaction a)
      (time presenterID considerReaction b)) :
    Tells n (standing presenterID considerReaction a)
      (standing presenterID considerReaction b) := by
  unfold standing
  rw [hgroup]
  exact h.snd _

/-- The last tests, on the reactions, for two sessions that are both muted or both
not. -/
theorem reactions_tell (ha : a.sessionID ≠ some presenterID)
    (hb : b.sessionID ≠ some presenterID)
    (hhandA : a.hand = 0) (hhandB : b.hand = 0) (hspeaks : a.speaks = b.speaks) :
    Tells (if considerReaction = true then
        match a.reaction, b.reaction with
        | some _, none => -1
        | none, some _ => 1
        | some reactionA, some reactionB => reactionA.timestamp - reactionB.timestamp
        | none, none => 0
      else 0)
      (standing presenterID considerReaction a)
      (standing presenterID considerReaction b) := by
  have hgroupA := group_lowered considerReaction ha hhandA
  have hgroupB := group_lowered considerReaction hb hhandB
  have htimeA := time_lowered considerReaction ha hhandA
  have htimeB := time_lowered considerReaction hb hhandB
  rw [hspeaks] at hgroupA
  unfold UserSessionState.shown at *
  split
  next hconsider =>
    simp only [hconsider, if_true] at hgroupA hgroupB htimeA htimeB ⊢
    split
    next hA hB =>
      rw [hA] at hgroupA
      rw [hB] at hgroupB
      apply before_of_group
      rw [hgroupA, hgroupB]
      simp
    next hA hB =>
      rw [hA] at hgroupA
      rw [hB] at hgroupB
      apply after_of_group
      rw [hgroupA, hgroupB]
      simp
    next hA hB =>
      rw [hA] at hgroupA htimeA
      rw [hB] at hgroupB htimeB
      apply tells_of_time (hgroupA.trans hgroupB.symm)
      rw [htimeA, htimeB]
      exact .sub _ _
    next hA hB =>
      rw [hA] at hgroupA htimeA
      rw [hB] at hgroupB htimeB
      apply tells_of_time (hgroupA.trans hgroupB.symm)
      rw [htimeA, htimeB]
      exact .tied _
  next hconsider =>
    rw [if_neg hconsider] at hgroupA hgroupB htimeA htimeB
    apply tells_of_time (hgroupA.trans hgroupB.symm)
    rw [htimeA, htimeB]
    exact .tied _

/-- The tests agree with the ranks, but for the first one. -/
theorem stateSortSessions_tells (ha : a.sessionID ≠ some presenterID) :
    Tells (stateSortSessions presenterID considerReaction a b)
      (standing presenterID considerReaction a)
      (standing presenterID considerReaction b) := by
  unfold stateSortSessions
  rw [if_neg ha]
  by_cases hb : b.sessionID = some presenterID
  · rw [if_pos hb]
    apply after_of_group
    rw [group_presenter _ hb]
    exact group_pos _ ha
  rw [if_neg hb]
  by_cases hhandA : a.hand = 0
  · have hgroupA := one_lt_group_lowered considerReaction ha hhandA
    rw [if_neg fun h => h.1 hhandA]
    by_cases hhandB : b.hand = 0
    · rw [if_neg fun h => h.1 hhandB, if_neg fun h => h.1 hhandA]
      have hgroups := group_lowered considerReaction ha hhandA
      have hgroups' := group_lowered considerReaction hb hhandB
      cases hspeaksA : a.speaks <;> cases hspeaksB : b.speaks
      · exact reactions_tell ha hb hhandA hhandB (hspeaksA.trans hspeaksB.symm)
      · rw [if_neg (by simp), if_pos ⟨rfl, rfl⟩]
        apply after_of_group
        rw [hgroups, hgroups', hspeaksA, hspeaksB]
        split_ifs <;> simp_all
      · rw [if_pos ⟨rfl, rfl⟩]
        apply before_of_group
        rw [hgroups, hgroups', hspeaksA, hspeaksB]
        split_ifs <;> simp_all
      · exact reactions_tell ha hb hhandA hhandB (hspeaksA.trans hspeaksB.symm)
    · rw [if_pos ⟨hhandB, hhandA⟩]
      apply after_of_group
      rw [group_raised _ hb hhandB]
      exact hgroupA
  · have hgroupA := group_raised considerReaction ha hhandA
    by_cases hhandB : b.hand = 0
    · rw [if_pos ⟨hhandA, hhandB⟩]
      apply before_of_group
      rw [hgroupA]
      exact one_lt_group_lowered _ hb hhandB
    · rw [if_neg fun h => hhandB h.2, if_neg fun h => hhandA h.2,
        if_pos ⟨hhandA, hhandB⟩]
      apply tells_of_time (hgroupA.trans (group_raised _ hb hhandB).symm)
      rw [time_raised _ ha hhandA, time_raised _ hb hhandB]
      exact .sub _ _

theorem stateSortSessions_ranked :
    RankedBy (stateSortSessions presenterID considerReaction)
    (standing presenterID considerReaction) fun s => s.sessionID =
    some presenterID where
  tells _ _ ha := stateSortSessions_tells ha
  neg_of_ahead a b ha := by
    unfold stateSortSessions
    rw [if_pos ha]
    decide
  rank_le a b ha := by
    by_cases hb : b.sessionID = some presenterID
    · unfold standing time
      rw [group_presenter _ ha, group_presenter _ hb, if_pos ha, if_pos hb]
    · apply Prod.Lex.toLex_le_toLex.2 (.inl _)
      rw [group_presenter _ ha]
      exact group_pos _ hb
  rank_lt a b ha hb := by
    apply Prod.Lex.toLex_lt_toLex.2 (.inl _)
    rw [group_presenter _ ha]
    exact group_pos _ hb

/-! ## Sorted sessions -/

/-- Those with a reaction come first, by its time. -/
def ByReaction (l : List UserSessionState) : Prop :=
  ∃ reacting others, l = reacting ++ others ∧
    (∀ s ∈ reacting, s.reaction ≠ none) ∧ (∀ s ∈ others, s.reaction = none) ∧
    reacting.Pairwise fun a b => ∀ reactionA reactionB, a.reaction = some reactionA →
      b.reaction = some reactionB → reactionA.timestamp ≤ reactionB.timestamp

/-- The presenter, the raised hands by their time, the unmuted and the muted. -/
def Arranged (presenterID : String) (considerReaction : Bool)
    (l : List UserSessionState) : Prop :=
  ∃ presenter raised unmuted muted, l = presenter ++ (raised ++ (unmuted ++ muted)) ∧
    (∀ s ∈ presenter, s.sessionID = some presenterID) ∧
    (∀ s ∈ raised ++ (unmuted ++ muted), s.sessionID ≠ some presenterID) ∧
    (∀ s ∈ raised, s.hand ≠ 0) ∧ (∀ s ∈ unmuted ++ muted, s.hand = 0) ∧
    (raised.Pairwise fun a b => a.hand ≤ b.hand) ∧
    (∀ s ∈ unmuted, s.speaks = true) ∧ (∀ s ∈ muted, s.speaks = false) ∧
    (considerReaction = true → ByReaction unmuted ∧ ByReaction muted)

variable {l : List UserSessionState}

theorem group_le (h : standing presenterID considerReaction a ≤
    standing presenterID considerReaction b) :
    group presenterID considerReaction a ≤ group presenterID considerReaction b := by
  rcases Prod.Lex.toLex_le_toLex.1 h with h | h
  · exact Nat.le_of_lt h
  · exact Nat.le_of_eq h.1

theorem time_le (h : standing presenterID considerReaction a ≤
    standing presenterID considerReaction b)
    (hgroup : group presenterID considerReaction a =
      group presenterID considerReaction b) :
    time presenterID considerReaction a ≤ time presenterID considerReaction b := by
  rcases Prod.Lex.toLex_le_toLex.1 h with h | h
  · exact absurd hgroup (Nat.ne_of_lt h)
  · exact h.2

/-- Of sessions that are all muted or all not, those with a reaction come first. -/
theorem byReaction_of_sorted {speaks : Bool}
    (hl : l.Pairwise fun a b => standing presenterID true a ≤
      standing presenterID true b)
    (hid : ∀ s ∈ l, s.sessionID ≠ some presenterID) (hhand : ∀ s ∈ l, s.hand = 0)
    (hspeaks : ∀ s ∈ l, s.speaks = speaks) : ByReaction l := by
  have hgroup : ∀ s ∈ l, group presenterID true s =
      (if speaks = true then 2 else 4) + if s.reaction.isSome then 0 else 1 :=
    fun s hs => by
    rw [group_lowered true (hid s hs) (hhand s hs), hspeaks s hs]
    rfl
  have htime : ∀ s ∈ l, time presenterID true s =
      (s.reaction.map (·.timestamp)).getD 0 :=
    fun s hs => time_lowered true (hid s hs) (hhand s hs)
  have hsplit : l.Pairwise fun a b => b.reaction ≠ none → a.reaction ≠ none := by
    refine hl.imp_of_mem fun {a b} ha hb hab hreacts hnone => ?_
    have hle := group_le hab
    rw [hgroup a ha, hgroup b hb, hnone, Option.isSome_iff_ne_none.2 hreacts] at hle
    exact Nat.not_succ_le_self _ hle
  obtain ⟨reacting, others, rfl, hreacts, hnone⟩ := exists_split hsplit
  refine ⟨reacting, others, rfl, hreacts, fun s hs => not_not.1 (hnone s hs), ?_⟩
  refine (List.pairwise_append.1 hl).1.imp_of_mem
    fun {a b} ha hb hab reactionA reactionB hA hB => ?_
  have ha := List.mem_append_left others ha
  have hb := List.mem_append_left others hb
  have hle := time_le hab (by rw [hgroup a ha, hgroup b hb, hA, hB]; rfl)
  rw [htime a ha, htime b hb, hA, hB] at hle
  exact hle

/-- Sessions that are sorted by rank are arranged. -/
theorem arranged_of_sorted
    (hl : l.Pairwise fun a b =>
      standing presenterID considerReaction a ≤
        standing presenterID considerReaction b) :
    Arranged presenterID considerReaction l := by
  have hfirst : l.Pairwise fun a b =>
      b.sessionID = some presenterID → a.sessionID = some presenterID := by
    refine hl.imp fun {a b} hab hb => ?_
    by_contra ha
    have hle := group_le hab
    rw [group_presenter _ hb] at hle
    exact absurd hle (Nat.not_le.2 (group_pos _ ha))
  obtain ⟨presenter, rest, rfl, hpresenter, hrest⟩ := exists_split hfirst
  have hsorted := (List.pairwise_append.1 hl).2.1
  have hhands : rest.Pairwise fun a b => b.hand ≠ 0 → a.hand ≠ 0 := by
    refine hsorted.imp_of_mem fun {a b} ha hb hab hraised hlowered => ?_
    have hle := group_le hab
    rw [group_raised _ (hrest b hb) hraised] at hle
    exact absurd hle (Nat.not_le.2 (one_lt_group_lowered _ (hrest a ha) hlowered))
  obtain ⟨raised, lowered, rfl, hraised, hlowered⟩ := exists_split hhands
  have hlowered : ∀ s ∈ lowered, s.hand = 0 := fun s hs => not_not.1 (hlowered s hs)
  obtain ⟨hsortedRaised, hsortedLowered, -⟩ := List.pairwise_append.1 hsorted
  have hidLowered : ∀ s ∈ lowered, s.sessionID ≠ some presenterID := fun s hs =>
    hrest s (List.mem_append_right raised hs)
  have hspeaks : lowered.Pairwise fun a b => b.speaks = true → a.speaks = true := by
    refine hsortedLowered.imp_of_mem fun {a b} ha hb hab hB => ?_
    by_contra hA
    have hle := group_le hab
    rw [group_lowered _ (hidLowered a ha) (hlowered a ha),
      group_lowered _ (hidLowered b hb) (hlowered b hb), if_neg hA, if_pos hB] at hle
    split_ifs at hle <;> omega
  obtain ⟨unmuted, muted, rfl, hunmuted, hmuted⟩ := exists_split hspeaks
  have hmuted : ∀ s ∈ muted, s.speaks = false :=
    fun s hs => Bool.eq_false_iff.2 (hmuted s hs)
  obtain ⟨hsortedUnmuted, hsortedMuted, -⟩ := List.pairwise_append.1 hsortedLowered
  refine ⟨presenter, raised, unmuted, muted, rfl, hpresenter, hrest, hraised,
    hlowered, ?_, hunmuted, hmuted, ?_⟩
  · refine hsortedRaised.imp_of_mem fun {a b} ha hb hab => ?_
    have hidA := hrest a (List.mem_append_left _ ha)
    have hidB := hrest b (List.mem_append_left _ hb)
    have hgroup := (group_raised considerReaction hidA (hraised a ha)).trans
      (group_raised considerReaction hidB (hraised b hb)).symm
    have hle := time_le hab hgroup
    rwa [time_raised _ hidA (hraised a ha), time_raised _ hidB (hraised b hb)] at hle
  · rintro rfl
    refine ⟨byReaction_of_sorted hsortedUnmuted (fun s hs => ?_) (fun s hs => ?_)
      hunmuted,
      byReaction_of_sorted hsortedMuted (fun s hs => ?_) (fun s hs => ?_) hmuted⟩
    · exact hidLowered s (List.mem_append_left _ hs)
    · exact hlowered s (List.mem_append_left _ hs)
    · exact hidLowered s (List.mem_append_right _ hs)
    · exact hlowered s (List.mem_append_right _ hs)

/-- **The order of the participants**: the comparator orders different sessions, and
ties all but the presenter's with themselves; and the sessions sorted with it, by
whatever sort, are arranged. -/
theorem stateSortSessions_arranges (presenterID : String) (considerReaction : Bool)
    (l : List UserSessionState) (hids : (l.map (·.sessionID)).Nodup) :
    OrdersApart (stateSortSessions presenterID considerReaction) l ∧
    (∀ a ∈ l, a.sessionID ≠ some presenterID →
      stateSortSessions presenterID considerReaction a a = 0) ∧
    (∀ sorted : List UserSessionState, sorted.Perm l →
      (sorted.Pairwise fun a b =>
        ¬ stateSortSessions presenterID considerReaction b a < 0) →
      Arranged presenterID considerReaction sorted) ∧
    (sortSessions presenterID considerReaction l).Perm l ∧
    Arranged presenterID considerReaction
      (sortSessions presenterID considerReaction l) := by
  have hranked : RankedBy (stateSortSessions presenterID considerReaction)
      (standing presenterID considerReaction) fun s => s.sessionID = some presenterID :=
    stateSortSessions_ranked
  refine ⟨hranked.ordersApart fun a ha b hb hpa hpb => ?_, fun a _ ha => ?_,
    fun sorted hperm hsorted => ?_, List.mergeSort_perm l _, ?_⟩
  · exact List.inj_on_of_nodup_map hids ha hb (hpa.trans hpb.symm)
  · exact hranked.tied_of_rank_eq ha rfl
  · have hids' : (sorted.map (·.sessionID)).Nodup := (hperm.map _).nodup_iff.2 hids
    have hsole := (List.pairwise_map.1 hids').imp fun {a b} hne
      (hboth : a.sessionID = some presenterID ∧ b.sessionID = some presenterID) =>
        hne (hboth.1.trans hboth.2.symm)
    exact arranged_of_sorted (hranked.sorted_rank hsole hsorted)
  · exact arranged_of_sorted (hranked.sorted_mergeSort l)

/-- A participant, with a hand raised at the time. -/
def participant (sessionID : String) (unmuted : Bool) (hand : Int)
    (reaction : Option Int) :
    UserSessionState :=
  { sessionID := some sessionID, unmuted := some unmuted, raisedHand := some hand
    reaction :=
      reaction.map fun timestamp => ⟨"user", sessionID, "+1", "name", timestamp⟩ }

/-- The presenter, two raised hands, and one of each of the other groups. -/
def room : List UserSessionState :=
  [participant "muted" false 0 none, participant "late" false 30 none,
    participant "presenter" false 0 none, participant "clapping" false 0 (some 5),
    participant "early" true 20 (some 7), participant "speaking" true 0 none]

theorem stateSortSessions_arranges_room :
    Arranged "presenter" true [participant "presenter" false 0 none,
      participant "early" true 20 (some 7), participant "late" false 30 none,
      participant "speaking" true 0 none, participant "clapping" false 0 (some 5),
      participant "muted" false 0 none] :=
  (stateSortSessions_arranges "presenter" true room (by decide)).2.2.1 _ (by decide)
    (by decide)

/-- The presenter's session is before itself, which no strict order allows. -/
theorem stateSortSessions_not_strict :
    ¬ ∀ (presenterID : String) (considerReaction : Bool)
    (l : List UserSessionState), (l.map (·.sessionID)).Nodup →
    IsStrictWeakOrder { s // s ∈ l }
      fun a b => stateSortSessions presenterID considerReaction a.1 b.1 < 0 := by
  intro h
  have hstrict := h "presenter" true [participant "presenter" false 0 none] (by decide)
  exact hstrict.irrefl ⟨_, List.mem_singleton_self _⟩ (by decide)

end CallsPlugin.Ports.ClientSessions
